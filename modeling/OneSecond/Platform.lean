import Mathlib.Data.Rat.Defs
import Mathlib.Logic.Function.Basic

/-!
# What the app uses of Foundation and UIKit

The persistent store `UserDefaults`, timers and the run loop which fires them,
labels and buttons: just the data the app's handlers read or write, with the
documented behaviour of the calls they make.  Swift's `Int` is modelled by `ℤ`:
Swift traps on overflow instead of wrapping, and stored balances, the score and
the counters are assumed to be too small for that.
-/

namespace OneSecond

/-- The keys the app stores under. -/
inductive DefaultsKey where
  | acorn
  | green
  | ice
  | best
  | bool
  deriving DecidableEq, Repr

/-- A stored object, by what `integer(forKey:)` and `bool(forKey:)` read it as. -/
structure DefaultsValue where
  integer : ℤ
  bool : Bool
  deriving DecidableEq, Repr

/-- The standard defaults database; a key may hold nothing. -/
structure UserDefaults where
  object : DefaultsKey → Option DefaultsValue

namespace UserDefaults

/-- `integer(forKey:)`: 0 for a missing key. -/
def integer (userDefault : UserDefaults) (key : DefaultsKey) : ℤ :=
  match userDefault.object key with
  | some value => value.integer
  | none => 0

/-- `bool(forKey:)`: false for a missing key. -/
def bool (userDefault : UserDefaults) (key : DefaultsKey) : Bool :=
  match userDefault.object key with
  | some value => value.bool
  | none => false

/-- `set(_:forKey:)` for an `Int`; a number other than 0 reads as true. -/
def set (userDefault : UserDefaults) (value : ℤ) (key : DefaultsKey) : UserDefaults :=
  ⟨Function.update userDefault.object key (some ⟨value, value ≠ 0⟩)⟩

/-- `set(_:forKey:)` for a `Bool`; true reads as 1. -/
def setBool (userDefault : UserDefaults) (value : Bool) (key : DefaultsKey) : UserDefaults :=
  ⟨Function.update userDefault.object key (some ⟨if value then 1 else 0, value⟩)⟩

/-- The store of a fresh installation. -/
def empty : UserDefaults := ⟨fun _ => none⟩

variable (userDefault : UserDefaults)

@[simp]
theorem integer_set (value : ℤ) (key other : DefaultsKey) :
    (userDefault.set value key).integer other =
      if other = key then value else userDefault.integer other := by
  by_cases same : other = key
  · subst same
    simp [integer, set]
  · simp [integer, set, same]

@[simp]
theorem set_set (earlier value : ℤ) (key : DefaultsKey) :
    (userDefault.set earlier key).set value key = userDefault.set value key := by
  simp [set]

@[simp]
theorem integer_setBool_of_ne {value : Bool} {key other : DefaultsKey} (ne : other ≠ key) :
    (userDefault.setBool value key).integer other = userDefault.integer other := by
  simp [integer, setBool, ne]

@[simp]
theorem bool_set_of_ne {value : ℤ} {key other : DefaultsKey} (ne : other ≠ key) :
    (userDefault.set value key).bool other = userDefault.bool other := by
  simp [bool, set, ne]

@[simp]
theorem bool_setBool_self (value : Bool) (key : DefaultsKey) :
    (userDefault.setBool value key).bool key = value := by
  simp [bool, setBool]

end UserDefaults

/-- A repeating `Timer`: its identity, its interval in seconds, and the block it runs. -/
structure Timer (Block : Type) where
  identifier : ℕ
  timeInterval : ℚ
  block : Block
  deriving DecidableEq, Repr

/-- The main run loop in its default mode: how many timers were created so far, and the valid
timers it has been given. -/
structure RunLoop (Block : Type) where
  created : ℕ
  timers : List (Timer Block)
  deriving Repr

namespace RunLoop

variable {Block : Type}

/-- `Timer(timeInterval:repeats:block:)`: a new timer, not scheduled yet. -/
def makeTimer (runLoop : RunLoop Block) (timeInterval : ℚ) (block : Block) : Timer Block :=
  ⟨runLoop.created, timeInterval, block⟩

/-- `RunLoop.main.add(_:forMode:)` for a timer just made. -/
def add (runLoop : RunLoop Block) (timer : Timer Block) : RunLoop Block :=
  ⟨runLoop.created + 1, runLoop.timers ++ [timer]⟩

/-- `Timer.invalidate()`: the run loop lets go of the timer, which never fires again. -/
def invalidate (runLoop : RunLoop Block) (timer : Timer Block) : RunLoop Block :=
  ⟨runLoop.created, runLoop.timers.filter fun scheduled =>
    scheduled.identifier ≠ timer.identifier⟩

@[simp]
theorem timers_add (runLoop : RunLoop Block) (timer : Timer Block) :
    (runLoop.add timer).timers = runLoop.timers ++ [timer] := rfl

@[simp]
theorem created_invalidate (runLoop : RunLoop Block) (timer : Timer Block) :
    (runLoop.invalidate timer).created = runLoop.created := rfl

end RunLoop

structure UILabel where
  text : String
  deriving DecidableEq, Repr

structure UIButton where
  title : String
  isHidden : Bool
  isUserInteractionEnabled : Bool
  deriving DecidableEq, Repr

namespace UIButton

/-- `setTitle(_:for: .normal)`. -/
def setTitle (button : UIButton) (title : String) : UIButton :=
  { button with title := title }

@[simp]
theorem isUserInteractionEnabled_setTitle (button : UIButton) (title : String) :
    (button.setTitle title).isUserInteractionEnabled = button.isUserInteractionEnabled := rfl

@[simp]
theorem setTitle_setTitle (button : UIButton) (earlier title : String) :
    (button.setTitle earlier).setTitle title = button.setTitle title := rfl

/-- UIKit sends the action of a button only while it is visible and enabled. -/
def Tappable (button : UIButton) : Prop :=
  button.isHidden = false ∧ button.isUserInteractionEnabled = true

instance (button : UIButton) : Decidable button.Tappable :=
  inferInstanceAs (Decidable (_ ∧ _))

end UIButton

end OneSecond
