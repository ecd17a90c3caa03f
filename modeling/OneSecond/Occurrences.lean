import OneSecond.App
import OneSecond.Handlers

/-!
# What happened at an occurrence

Tests on the occurrences of a run: which of them end a round, and how; which
start one; which take or grant a power-up.  A stop is the same thing on both
paths that lead to it, the Start/Stop button and the shop button.

`Move` lists what a step can do to the main screen's controller, and
`Step.move` says that a step either launches it or moves it.  What is proved of
every move then holds along every run (`controllerInvariant`,
`controllerMeter`).
-/

namespace OneSecond

open Runs Sorting

/-- The controller whose running round the occurrence ends. -/
def roundStopped : App × Event → Option ViewController
  | (.mainScreen vc, .startStopButtonTapped) => if vc.isTimerRunning then some vc else none
  | (.mainScreen vc, .buttonShop) => if vc.isTimerRunning then some vc else none
  | _ => none

def isStop (occurrence : App × Event) : Bool :=
  (roundStopped occurrence).isSome

def winningStop (occurrence : App × Event) : Bool :=
  (roundStopped occurrence).any fun vc => vc.stopWins

def losingStop (occurrence : App × Event) : Bool :=
  (roundStopped occurrence).any fun vc => !vc.stopWins

def unshieldedMiss (occurrence : App × Event) : Bool :=
  (roundStopped occurrence).any fun vc => !vc.stopWins && !vc.greenActiveted

/-- A losing stop which leaves a score of at least `least` unreset because `greenActiveted` is
true. -/
def protectedMiss (least : ℤ) (occurrence : App × Event) : Bool :=
  (roundStopped occurrence).any fun vc => !vc.stopWins && vc.greenActiveted && vc.score ≥ least

def startsRound : App × Event → Bool
  | (.mainScreen vc, .startStopButtonTapped) => !vc.isTimerRunning
  | _ => false

def isLaunch : App × Event → Bool
  | (_, .launch) => true
  | _ => false

def isKill : App × Event → Bool
  | (_, .kill) => true
  | _ => false

def isTick : App × Event → Bool
  | (_, .fire _) => true
  | _ => false

def iceTap : App × Event → Bool
  | (_, .buttonIceTapped) => true
  | _ => false

def greenTap : App × Event → Bool
  | (_, .buttonGreenTapped) => true
  | _ => false

def acceptedSelection : App × Event → Bool
  | (.shopScreen _ shop, .didSelectItemAt _) => shop.acornNumber ≥ 5
  | _ => false

def grantsGreen : App × Event → Bool
  | (.shopScreen _ shop, .didSelectItemAt row) => shop.acornNumber ≥ 5 && row == 0
  | _ => false

def grantsIce : App × Event → Bool
  | (.shopScreen _ shop, .didSelectItemAt row) => shop.acornNumber ≥ 5 && row != 0
  | _ => false

def Device.fresh : Device := ⟨.empty, []⟩

/-- A round stopped at 1.00, on the first timer a process makes. -/
def roundOfOneSecond : List Event :=
  .startStopButtonTapped :: List.replicate 100 (.fire ⟨2, 0.01, .incrementAndLap⟩) ++
    [.startStopButtonTapped]

/-- On the second timer of a process: a round stopped after one tick. -/
def roundOfOneTick : List Event :=
  [.startStopButtonTapped, .fire ⟨3, 0.01, .incrementAndLap⟩, .startStopButtonTapped]

section Stops

variable {vc : ViewController}

@[simp]
theorem roundStopped_startStop (running : vc.isTimerRunning = true) :
    roundStopped (.mainScreen vc, .startStopButtonTapped) = some vc := by
  simp [roundStopped, running]

@[simp]
theorem roundStopped_buttonShop (running : vc.isTimerRunning = true) :
    roundStopped (.mainScreen vc, .buttonShop) = some vc := by
  simp [roundStopped, running]

@[simp]
theorem startsRound_startStop (stopped : vc.isTimerRunning = false) :
    startsRound (.mainScreen vc, .startStopButtonTapped) = true := by
  simp [startsRound, stopped]

@[simp]
theorem startsRound_startStop_of_running (running : vc.isTimerRunning = true) :
    startsRound (.mainScreen vc, .startStopButtonTapped) = false := by
  simp [startsRound, running]

@[simp]
theorem roundStopped_startStop_of_stopped (stopped : vc.isTimerRunning = false) :
    roundStopped (.mainScreen vc, .startStopButtonTapped) = none := by
  simp [roundStopped, stopped]

@[simp]
theorem roundStopped_buttonShop_of_stopped (stopped : vc.isTimerRunning = false) :
    roundStopped (.mainScreen vc, .buttonShop) = none := by
  simp [roundStopped, stopped]

end Stops

@[simp]
theorem roundStopped_fire (app : App) (timer : Timer TimerBlock) :
    roundStopped (app, .fire timer) = none := by
  cases app <;> rfl

theorem roundStopped_of_isTick {occurrence : App × Event} (ticks : isTick occurrence = true) :
    roundStopped occurrence = none := by
  rcases occurrence with ⟨app, event⟩
  cases event with
  | fire timer => exact roundStopped_fire app timer
  | _ => cases ticks

theorem shown_of_roundStopped {app : App} {event : Event} {vc : ViewController}
    (stops : roundStopped (app, event) = some vc) :
    app.viewController = some vc ∧ vc.isTimerRunning = true := by
  unfold roundStopped at stops
  split at stops
  · next tapped =>
      cases tapped
      simp only [Option.ite_none_right_eq_some, Option.some.injEq] at stops
      rcases stops with ⟨running, rfl⟩
      exact ⟨rfl, running⟩
  · next tapped =>
      cases tapped
      simp only [Option.ite_none_right_eq_some, Option.some.injEq] at stops
      rcases stops with ⟨running, rfl⟩
      exact ⟨rfl, running⟩
  · cases stops

theorem startsRound_of_stop {occurrence : App × Event} {vc : ViewController}
    (stops : roundStopped occurrence = some vc) : startsRound occurrence = false := by
  unfold roundStopped at stops
  split at stops
  · next vc =>
      simp only [Option.ite_none_right_eq_some] at stops
      simp [startsRound, stops.1]
  · rfl
  · cases stops

theorem isTick_of_stop {occurrence : App × Event} {vc : ViewController}
    (stops : roundStopped occurrence = some vc) : isTick occurrence = false := by
  rw [Bool.eq_false_iff]
  intro ticks
  rw [roundStopped_of_isTick ticks] at stops
  cases stops

/-- `Move app event vc after`: handling the event turns the controller `vc` into `after`. -/
inductive Move : App → Event → ViewController → ViewController → Prop where
  | start (vc : ViewController) (stopped : vc.isTimerRunning = false) :
      Move (.mainScreen vc) .startStopButtonTapped vc vc.startStopButtonTapped
  | stop (vc : ViewController) (running : vc.isTimerRunning = true) :
      Move (.mainScreen vc) .startStopButtonTapped vc vc.startStopButtonTapped
  | ice (vc : ViewController) : Move (.mainScreen vc) .buttonIceTapped vc vc.buttonIceTapped
  | green (vc : ViewController) : Move (.mainScreen vc) .buttonGreenTapped vc vc.buttonGreenTapped
  | shopStop (vc : ViewController) (running : vc.isTimerRunning = true) :
      Move (.mainScreen vc) .buttonShop vc vc.buttonShop
  | tick (app : App) (vc : ViewController) (timer : Timer TimerBlock)
      (scheduled : timer ∈ vc.runLoop.timers) : Move app (.fire timer) vc (vc.fire timer)
  | appear (app : App) (vc : ViewController) (event : Event)
      (appears : event = .viewDidAppear ∨ event = .didTapBackButton) :
      Move app event vc vc.viewDidAppear
  | openShop (vc : ViewController) (stopped : vc.isTimerRunning = false) :
      Move (.mainScreen vc) .buttonShop vc vc
  | childAdded (vc : ViewController) (shop : ShopController) (snapshot : SnapshotValue) :
      Move (.shopScreen vc shop) (.childAdded snapshot) vc vc
  | select (vc : ViewController) (shop : ShopController) (row : ℕ) :
      Move (.shopScreen vc shop) (.didSelectItemAt row) vc
        { vc with userDefault := (shop.didSelectItemAt vc.userDefault row).2 }

/-- The occurrences at which a controller's screen appears say nothing else. -/
theorem quiet_of_appears (app : App) {event : Event}
    (appears : event = .viewDidAppear ∨ event = .didTapBackButton) :
    roundStopped (app, event) = none ∧ startsRound (app, event) = false ∧
      isLaunch (app, event) = false ∧ isTick (app, event) = false ∧
      iceTap (app, event) = false ∧ greenTap (app, event) = false := by
  rcases appears with rfl | rfl
  · cases app <;> exact ⟨rfl, rfl, rfl, rfl, rfl, rfl⟩
  · cases app <;> exact ⟨rfl, rfl, rfl, rfl, rfl, rfl⟩

@[simp]
theorem startsRound_fire (app : App) (timer : Timer TimerBlock) :
    startsRound (app, .fire timer) = false := by
  cases app <;> rfl

theorem Move.not_isLaunch {app : App} {event : Event} {vc after : ViewController}
    (move : Move app event vc after) : isLaunch (app, event) = false := by
  cases move with
  | appear _ vc event appears => exact (quiet_of_appears _ appears).2.2.1
  | _ => rfl

namespace App

variable {sort : SortRoutine PowerUp} {app next : App} {event : Event}

theorem select_best (shop : ShopController) (userDefault : UserDefaults) (row : ℕ) :
    (shop.didSelectItemAt userDefault row).2.integer .best = userDefault.integer .best := by
  simp only [ShopController.didSelectItemAt]
  split
  · split <;> simp
  · rfl

/-- The controller goes only when the process is killed; what it leaves is what a kill would. -/
theorem Step.kill_of_gone (step : Step sort app event next)
    (gone : next.viewController = none) :
    event = .kill ∧ next.userDefault = app.userDefault ∧ next.reported = app.reported := by
  cases step with
  | killMain vc => exact ⟨rfl, rfl, rfl⟩
  | killShop vc shop => exact ⟨rfl, rfl, rfl⟩
  | _ => cases gone

/-- A step into a state with a controller launches it or moves the one that was there. -/
theorem Step.move {after : ViewController} (step : Step sort app event next)
    (shown : next.viewController = some after) :
    (∃ device, app = .terminated device ∧ event = .launch ∧
      after = ViewController.launch device) ∨
      ∃ vc, app.viewController = some vc ∧ Move app event vc after := by
  cases step with
  | launch device =>
      cases shown
      exact Or.inl ⟨device, rfl, rfl, rfl⟩
  | killMain vc => cases shown
  | killShop vc shop => cases shown
  | startStop vc =>
      cases shown
      right
      refine ⟨vc, rfl, ?_⟩
      cases running : vc.isTimerRunning with
      | true => exact .stop vc running
      | false => exact .start vc running
  | ice vc =>
      cases shown
      exact Or.inr ⟨vc, rfl, .ice vc⟩
  | green vc =>
      cases shown
      exact Or.inr ⟨vc, rfl, .green vc⟩
  | openShop vc =>
      cases shown
      right
      refine ⟨vc, rfl, ?_⟩
      cases running : vc.isTimerRunning with
      | true => exact .shopStop vc running
      | false =>
          rw [ViewController.buttonShop_of_stopped vc running]
          exact .openShop vc running
  | fireMain vc timer scheduled =>
      cases shown
      exact Or.inr ⟨vc, rfl, .tick _ vc timer scheduled⟩
  | fireShop vc shop timer scheduled =>
      cases shown
      exact Or.inr ⟨vc, rfl, .tick _ vc timer scheduled⟩
  | appearMain vc =>
      cases shown
      exact Or.inr ⟨vc, rfl, .appear _ vc _ (Or.inl rfl)⟩
  | appearShop vc shop =>
      cases shown
      exact Or.inr ⟨vc, rfl, .appear _ vc _ (Or.inl rfl)⟩
  | childAdded vc shop snapshot =>
      have same : vc = after := Option.some.inj shown
      subst same
      exact Or.inr ⟨vc, rfl, .childAdded vc shop snapshot⟩
  | select vc shop row shownRow =>
      cases shown
      exact Or.inr ⟨vc, rfl, .select vc shop row⟩
  | back vc shop =>
      cases shown
      exact Or.inr ⟨vc, rfl, .appear _ vc _ (Or.inr rfl)⟩

section Controller

variable {machine : System App Event} {device : Device} {history : History App Event}
  {vc : ViewController}

/-- What holds of the controller at every launch, and is kept by every move, holds of the
controller in every state reached. -/
theorem controllerInvariant {motive : History App Event → ViewController → Prop}
    (run : Run machine (firstLaunch device) history app) (shown : app.viewController = some vc)
    (steps : ∀ {app event next}, machine.Step app event next → Step sort app event next)
    (first : motive [] (ViewController.launch device))
    (relaunched : ∀ history device,
      motive ((.terminated device, .launch) :: history) (ViewController.launch device))
    (moved : ∀ {history app event next vc after},
      Run machine (firstLaunch device) history app → machine.Step app event next →
      app.viewController = some vc → motive history vc → Move app event vc after →
      motive ((app, event) :: history) after) :
    motive history vc := by
  have everywhere : ∀ vc, app.viewController = some vc → motive history vc := by
    apply run.historyInvariant
      (motive := fun history app => ∀ vc, app.viewController = some vc → motive history vc)
    · intro vc front
      cases front
      exact first
    intro history app next event run kept step after front
    rcases (steps step).move front with ⟨device, rfl, rfl, rfl⟩ | ⟨vc, current, move⟩
    · exact relaunched history device
    · exact moved run step current (kept vc current) move
  exact everywhere vc shown

/-- The rule for what does not look at the history. -/
theorem controllerAlways {motive : ViewController → Prop}
    (run : Run machine (firstLaunch device) history app) (shown : app.viewController = some vc)
    (steps : ∀ {app event next}, machine.Step app event next → Step sort app event next)
    (launched : ∀ device, motive (ViewController.launch device))
    (moved : ∀ {history app event vc after},
      Run machine (firstLaunch device) history app → app.viewController = some vc →
      motive vc → Move app event vc after → motive after) :
    motive vc := by
  apply controllerInvariant (motive := fun _ vc => motive vc) run shown steps
  · exact launched device
  · intro _ device
    exact launched device
  · intro history app event next vc after run _ current kept move
    exact moved run current kept move

/-- A number which every launch sets to 0, and every move sets back to 0 or advances by one for
what it counts, counts the occurrences since it was last set back. -/
theorem controllerMeter (value : ViewController → ℤ) (reset counted : App × Event → Bool)
    (run : Run machine (firstLaunch device) history app) (shown : app.viewController = some vc)
    (steps : ∀ {app event next}, machine.Step app event next → Step sort app event next)
    (launched : ∀ device, value (ViewController.launch device) = 0)
    (relaunched : ∀ device, reset (.terminated device, .launch) = true)
    (moved : ∀ {history app event next vc after},
      Run machine (firstLaunch device) history app → machine.Step app event next →
      app.viewController = some vc → Move app event vc after →
      value after = if reset (app, event) then 0
        else value vc + if counted (app, event) then 1 else 0) :
    value vc = (since reset history).countP counted := by
  have counts := run.meter (fun app => app.viewController.isSome)
    (fun app => app.viewController.elim 0 value) reset
    (fun occurrence => if counted occurrence then 1 else 0) ?_ ?_ (by simp [shown])
  · simpa [shown, sum_map_ite_eq_countP] using counts
  · intro _
    exact launched device
  intro history state next event run step alive
  rcases Option.isSome_iff_exists.mp alive with ⟨after, front⟩
  rcases (steps step).move front with ⟨device, rfl, rfl, rfl⟩ | ⟨vc, current, move⟩
  · rw [relaunched, front]
    exact launched device
  have value := moved run step current move
  cases resets : reset (state, event) with
  | true => simpa [front, resets] using value
  | false => simpa [front, current, resets] using value

end Controller

end App

end OneSecond
