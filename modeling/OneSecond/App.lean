import OneSecond.Runs.History
import OneSecond.ShopController
import OneSecond.ViewController

/-!
# The app as an event-driven system

The process is either not running, or shows the main screen, or shows the shop
on top of it.  `App.Step` has one rule for every event: a launch and a kill of
the process, the actions of the main screen, a timer which fires, the
appearance of the main screen, the shop button with its segue, and the events of
the shop.  Handlers run to completion, so a kill comes between two of them.

`App.system` lets every action reach its handler.  `App.uikit` adds what UIKit
promises, that a hidden or interaction-disabled button sends no action; taps on
the shop button are exempt from it, since they are considered in every state.
-/

namespace OneSecond

open Runs Sorting

inductive Event where
  | launch
  | kill
  | startStopButtonTapped
  | buttonIceTapped
  | buttonGreenTapped
  /-- A tap on the shop button: its action, then its segue, as `Main.storyboard` lists them. -/
  | buttonShop
  /-- A timer scheduled on the main run loop fires. -/
  | fire (timer : Timer TimerBlock)
  | viewDidAppear
  /-- Firebase delivers a `childAdded` snapshot. -/
  | childAdded (snapshot : SnapshotValue)
  | didSelectItemAt (row : ℕ)
  /-- The shop is dismissed and the main screen appears again. -/
  | didTapBackButton

inductive App where
  | terminated (device : Device)
  | mainScreen (vc : ViewController)
  | shopScreen (vc : ViewController) (shop : ShopController)

/-- `prepare(for:sender:)`: the balances are copied into the new shop. -/
def ViewController.prepare (vc : ViewController) (shop : ShopController) : ShopController :=
  { shop with
    acornNumber := vc.acornNumber
    greenNumber := vc.greenNumber
    iceNumber := vc.iceNumber }

def ViewController.presentShop (vc : ViewController) : ShopController :=
  (vc.prepare .instantiate).viewDidLoad

namespace App

/-- The main screen's controller, which stays in memory under the shop. -/
def viewController : App → Option ViewController
  | .terminated _ => none
  | .mainScreen vc => some vc
  | .shopScreen vc _ => some vc

/-- The defaults database, whether or not the process runs. -/
def userDefault : App → UserDefaults
  | .terminated device => device.userDefault
  | .mainScreen vc => vc.userDefault
  | .shopScreen vc _ => vc.userDefault

def reported : App → List ℤ
  | .terminated device => device.reported
  | .mainScreen vc => vc.reported
  | .shopScreen vc _ => vc.reported

/-- What a kill would leave behind. -/
def device (app : App) : Device := ⟨app.userDefault, app.reported⟩

variable {app : App} {vc : ViewController}

theorem userDefault_of_shown (shown : app.viewController = some vc) :
    app.userDefault = vc.userDefault := by
  cases app <;> cases shown <;> rfl

theorem reported_of_shown (shown : app.viewController = some vc) :
    app.reported = vc.reported := by
  cases app <;> cases shown <;> rfl

/-- Handling one event.  The main screen may appear again at any time: when the shop is
dismissed, or another screen that covered it. -/
inductive Step (sort : SortRoutine PowerUp) : App → Event → App → Prop where
  | launch (device : Device) :
      Step sort (.terminated device) .launch (.mainScreen (ViewController.launch device))
  | killMain (vc : ViewController) : Step sort (.mainScreen vc) .kill (.terminated vc.device)
  | killShop (vc : ViewController) (shop : ShopController) :
      Step sort (.shopScreen vc shop) .kill (.terminated vc.device)
  | startStop (vc : ViewController) :
      Step sort (.mainScreen vc) .startStopButtonTapped (.mainScreen vc.startStopButtonTapped)
  | ice (vc : ViewController) :
      Step sort (.mainScreen vc) .buttonIceTapped (.mainScreen vc.buttonIceTapped)
  | green (vc : ViewController) :
      Step sort (.mainScreen vc) .buttonGreenTapped (.mainScreen vc.buttonGreenTapped)
  | openShop (vc : ViewController) :
      Step sort (.mainScreen vc) .buttonShop (.shopScreen vc.buttonShop vc.buttonShop.presentShop)
  | fireMain (vc : ViewController) (timer : Timer TimerBlock)
      (scheduled : timer ∈ vc.runLoop.timers) :
      Step sort (.mainScreen vc) (.fire timer) (.mainScreen (vc.fire timer))
  | fireShop (vc : ViewController) (shop : ShopController) (timer : Timer TimerBlock)
      (scheduled : timer ∈ vc.runLoop.timers) :
      Step sort (.shopScreen vc shop) (.fire timer) (.shopScreen (vc.fire timer) shop)
  | appearMain (vc : ViewController) :
      Step sort (.mainScreen vc) .viewDidAppear (.mainScreen vc.viewDidAppear)
  | appearShop (vc : ViewController) (shop : ShopController) :
      Step sort (.shopScreen vc shop) .viewDidAppear (.shopScreen vc.viewDidAppear shop)
  | childAdded (vc : ViewController) (shop : ShopController) (snapshot : SnapshotValue) :
      Step sort (.shopScreen vc shop) (.childAdded snapshot)
        (.shopScreen vc (shop.observePowerUps sort snapshot))
  | select (vc : ViewController) (shop : ShopController) (row : ℕ)
      (shown : row < shop.numberOfItemsInSection) :
      Step sort (.shopScreen vc shop) (.didSelectItemAt row)
        (.shopScreen { vc with userDefault := (shop.didSelectItemAt vc.userDefault row).2 }
          (shop.didSelectItemAt vc.userDefault row).1)
  | back (vc : ViewController) (shop : ShopController) :
      Step sort (.shopScreen vc shop) .didTapBackButton (.mainScreen vc.viewDidAppear)

def system (sort : SortRoutine PowerUp) : System App Event := ⟨Step sort⟩

/-- UIKit sends the action of the Ice or the Green button only while it is tappable. -/
def Delivered : App → Event → Prop
  | .mainScreen vc, .buttonIceTapped => vc.buttonViewIce.Tappable
  | .mainScreen vc, .buttonGreenTapped => vc.buttonViewGreen.Tappable
  | _, _ => True

instance (app : App) (event : Event) : Decidable (app.Delivered event) := by
  unfold Delivered
  split <;> infer_instance

/-- The app under UIKit's delivery of actions. -/
def uikit (sort : SortRoutine PowerUp) : System App Event := (system sort).restrict Delivered

def firstLaunch (device : Device) : App :=
  .mainScreen (ViewController.launch device)

/-- The step rules as a function. -/
def handle (sort : SortRoutine PowerUp) : App → Event → Option App
  | .terminated device, .launch => some (.mainScreen (ViewController.launch device))
  | .mainScreen vc, .kill => some (.terminated vc.device)
  | .shopScreen vc _, .kill => some (.terminated vc.device)
  | .mainScreen vc, .startStopButtonTapped => some (.mainScreen vc.startStopButtonTapped)
  | .mainScreen vc, .buttonIceTapped => some (.mainScreen vc.buttonIceTapped)
  | .mainScreen vc, .buttonGreenTapped => some (.mainScreen vc.buttonGreenTapped)
  | .mainScreen vc, .buttonShop => some (.shopScreen vc.buttonShop vc.buttonShop.presentShop)
  | .mainScreen vc, .fire timer =>
      if timer ∈ vc.runLoop.timers then some (.mainScreen (vc.fire timer)) else none
  | .shopScreen vc shop, .fire timer =>
      if timer ∈ vc.runLoop.timers then some (.shopScreen (vc.fire timer) shop) else none
  | .mainScreen vc, .viewDidAppear => some (.mainScreen vc.viewDidAppear)
  | .shopScreen vc shop, .viewDidAppear => some (.shopScreen vc.viewDidAppear shop)
  | .shopScreen vc shop, .childAdded snapshot =>
      some (.shopScreen vc (shop.observePowerUps sort snapshot))
  | .shopScreen vc shop, .didSelectItemAt row =>
      if row < shop.numberOfItemsInSection then
        some (.shopScreen { vc with userDefault := (shop.didSelectItemAt vc.userDefault row).2 }
          (shop.didSelectItemAt vc.userDefault row).1)
      else none
  | .shopScreen vc _, .didTapBackButton => some (.mainScreen vc.viewDidAppear)
  | _, _ => none

theorem handle_eq_some_iff (sort : SortRoutine PowerUp) (app next : App) (event : Event) :
    handle sort app event = some next ↔ Step sort app event next := by
  constructor
  · intro handled
    cases app <;> cases event <;>
      simp only [handle, Option.some.injEq, reduceCtorEq, Option.ite_none_right_eq_some]
        at handled <;>
      first
        | (subst handled; constructor)
        | (rcases handled with ⟨guard, rfl⟩; constructor; exact guard)
  · intro step
    cases step <;> simp_all [handle]

def deliver (sort : SortRoutine PowerUp) (app : App) (event : Event) : Option App :=
  if app.Delivered event then handle sort app event else none

theorem step_of_deliver {sort : SortRoutine PowerUp} {app next : App} {event : Event}
    (delivered : deliver sort app event = some next) : (uikit sort).Step app event next := by
  simp only [deliver, Option.ite_none_right_eq_some] at delivered
  exact ⟨delivered.1, (handle_eq_some_iff sort app next event).mp delivered.2⟩

theorem exists_run (sort : SortRoutine PowerUp) (start : App) (script : List Event)
    (test : History App Event → App → Bool)
    (passes : (execute (handle sort) start script).any
      (fun result => test result.1 result.2) = true) :
    ∃ history app, Run (system sort) start history app ∧ test history app = true :=
  exists_run_of_execute
    (fun {state event next} => (handle_eq_some_iff sort state next event).mp) script test passes

theorem exists_uikit_run (sort : SortRoutine PowerUp) (start : App) (script : List Event)
    (test : History App Event → App → Bool)
    (passes : (execute (deliver sort) start script).any
      (fun result => test result.1 result.2) = true) :
    ∃ history app, Run (uikit sort) start history app ∧ test history app = true :=
  exists_run_of_execute (fun {_ _ _} => step_of_deliver) script test passes

end App

end OneSecond
