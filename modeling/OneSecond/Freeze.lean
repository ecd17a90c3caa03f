import OneSecond.Rounds

/-!
# The freeze effect

A tap on Ice is recorded in three places: `powerStatus`, whose observer shows the
ice overlay, the overlay itself, and `isTimerRunningIce`.  They are not cleared
together.  The end of a round clears the flag, a Start clears the flag and hides
the overlay, and nothing but a launch sets `powerStatus` back, so each of them
tells for how long ago there was a tap.
-/

namespace OneSecond

open Runs Sorting

/-- The three records of a tap on Ice. -/
structure IceEffect where
  powerStatus : PowerEffect
  overlayIsHidden : Bool
  isTimerRunningIce : Bool

def ViewController.iceEffect (vc : ViewController) : IceEffect where
  powerStatus := vc.powerStatus
  overlayIsHidden := vc.overlayIsHidden
  isTimerRunningIce := vc.isTimerRunningIce

/-- A Start, or a launch. -/
def hidesOverlay (occurrence : App × Event) : Bool :=
  isLaunch occurrence || startsRound occurrence

/-- A Start, the end of a round, or a launch. -/
def endsFreeze (occurrence : App × Event) : Bool :=
  hidesOverlay occurrence || isStop occurrence

section Resets

variable {occurrence : App × Event}

theorem hidesOverlay_of_isLaunch (launches : isLaunch occurrence = true) :
    hidesOverlay occurrence = true := by
  simp [hidesOverlay, launches]

theorem endsFreeze_of_hidesOverlay (hides : hidesOverlay occurrence = true) :
    endsFreeze occurrence = true := by
  simp [endsFreeze, hides]

theorem endsFreeze_of_startsRound (starts : startsRound occurrence = true) :
    endsFreeze occurrence = true := by
  simp [endsFreeze, hidesOverlay, starts]

end Resets

namespace IceEffect

def off : IceEffect := ⟨.none, true, false⟩

def next (effect : IceEffect) (occurrence : App × Event) : IceEffect :=
  if isLaunch occurrence then off
  else if startsRound occurrence then
    { effect with overlayIsHidden := true, isTimerRunningIce := false }
  else if isStop occurrence then { effect with isTimerRunningIce := false }
  else if iceTap occurrence then ⟨.freeze, false, true⟩
  else effect

def after (history : History App Event) : IceEffect :=
  history.foldr (fun occurrence effect => effect.next occurrence) off

@[simp]
theorem after_cons (occurrence : App × Event) (history : History App Event) :
    after (occurrence :: history) = (after history).next occurrence := rfl

theorem next_of_quiet (effect : IceEffect) {occurrence : App × Event}
    (noLaunch : isLaunch occurrence = false) (noStart : startsRound occurrence = false)
    (noStop : roundStopped occurrence = none) (noTap : iceTap occurrence = false) :
    effect.next occurrence = effect := by
  simp [next, isStop, noLaunch, noStart, noStop, noTap]

end IceEffect

section Moves

variable {app : App} {event : Event} {vc after : ViewController}

theorem iceEffect_timerStops :
    vc.timerStops.iceEffect = { vc.iceEffect with isTimerRunningIce := false } := by
  rcases vc.timerStops_cases with ⟨_, ended⟩ | ⟨_, _, ended⟩ | ⟨_, _, ended⟩
  · rw [ended, ViewController.stopWon_eq, ViewController.endRound_eq]
    rfl
  · rw [ended, ViewController.endRound_eq]
    rfl
  · rw [ended, ViewController.scoreLost_eq, ViewController.endRound_eq]
    rfl

theorem Move.iceEffect (move : Move app event vc after) :
    after.iceEffect = vc.iceEffect.next (app, event) := by
  cases move with
  | start vc stopped =>
      rcases vc.start_eq stopped with ⟨circle, started⟩
      rw [started, ViewController.timerRuns_eq, IceEffect.next, startsRound_startStop stopped]
      rfl
  | stop vc running =>
      rcases vc.stop_eq running with ⟨circle, ended⟩
      have stops : isStop (.mainScreen vc, .startStopButtonTapped) = true := by
        simp [isStop, running]
      rw [ended, IceEffect.next, startsRound_startStop_of_running running, stops]
      exact iceEffect_timerStops
  | ice vc =>
      rw [ViewController.buttonIceTapped_eq]
      rfl
  | green vc =>
      rw [ViewController.buttonGreenTapped_eq]
      rfl
  | shopStop vc running =>
      have stops : isStop (.mainScreen vc, .buttonShop) = true := by simp [isStop, running]
      rw [ViewController.buttonShop_of_running vc running, IceEffect.next, stops]
      exact iceEffect_timerStops
  | tick app vc timer scheduled =>
      rcases vc.fire_writes timer with ⟨_, _, _, _, _, _, written⟩
      rw [written, IceEffect.next_of_quiet _ rfl (startsRound_fire app timer)
        (roundStopped_fire app timer) rfl]
      rfl
  | appear app vc event appears =>
      have quiet := quiet_of_appears app appears
      rcases vc.setupUserDefaultSetLabel_loads with ⟨loading, written, _⟩
      rw [IceEffect.next_of_quiet _ quiet.2.2.1 quiet.2.1 quiet.1 quiet.2.2.2.2.1,
        ViewController.viewDidAppear, written]
      rfl
  | openShop vc stopped =>
      rw [IceEffect.next_of_quiet _ rfl rfl (roundStopped_buttonShop_of_stopped stopped) rfl]
  | childAdded vc shop snapshot => rfl
  | select vc shop row => rfl

end Moves

section Histories

variable {history : History App Event} {occurrence : App × Event}

theorem quiet_of_iceTap (tapped : iceTap occurrence = true) :
    isLaunch occurrence = false ∧ startsRound occurrence = false ∧ isStop occurrence = false := by
  rcases occurrence with ⟨app, event⟩
  cases event with
  | buttonIceTapped => cases app <;> exact ⟨rfl, rfl, rfl⟩
  | _ => cases tapped

/-- Each record stands exactly when Ice was tapped since the last occurrence which clears it. -/
theorem IceEffect.after_eq (history : History App Event) :
    (after history).isTimerRunningIce = (since endsFreeze history).any iceTap ∧
      (after history).overlayIsHidden = !(since hidesOverlay history).any iceTap ∧
      ((after history).powerStatus = .freeze ↔ (since isLaunch history).any iceTap = true) := by
  induction history with
  | nil => simp [after, off]
  | cons occurrence history ih =>
      rcases ih with ⟨flag, overlay, powerStatus⟩
      rw [after_cons, since_cons, since_cons, since_cons, endsFreeze, hidesOverlay, next]
      cases launches : isLaunch occurrence with
      | true => simp [off]
      | false =>
          cases tapped : iceTap occurrence with
          | true =>
              have quiet := quiet_of_iceTap tapped
              simp [quiet, tapped]
          | false =>
              cases starts : startsRound occurrence with
              | true => simp [tapped, powerStatus]
              | false =>
                  cases stops : isStop occurrence with
                  | true => simp [tapped, overlay, powerStatus]
                  | false => simp [tapped, flag, overlay, powerStatus]

end Histories

/-- How long each of the three records lasts, and what that leaves of their agreement. -/
structure FreezeRecorded (history : History App Event) (vc : ViewController) : Prop where
  isTimerRunningIce : vc.isTimerRunningIce = true ↔ ∃ tap ∈ since endsFreeze history, iceTap tap
  overlay : vc.overlayIsHidden = false ↔ ∃ tap ∈ since hidesOverlay history, iceTap tap
  powerStatus : vc.powerStatus = .freeze ↔ ∃ tap ∈ since isLaunch history, iceTap tap
  frozen : vc.isTimerRunningIce = true → vc.overlayIsHidden = false
  shown : vc.overlayIsHidden = false → vc.powerStatus = .freeze
  running : vc.isTimerRunning = true →
    (vc.isTimerRunningIce = true ↔ vc.overlayIsHidden = false)

namespace App

variable {sort : SortRoutine PowerUp} {device : Device} {history : History App Event} {app : App}
  {vc : ViewController}

theorem iceEffect_launch (device : Device) :
    (ViewController.launch device).iceEffect = .off := by
  rcases ViewController.launch_loads device with ⟨loading, written, _⟩
  rw [written]
  rfl

theorem iceEffect_of_run (run : Run (system sort) (firstLaunch device) history app)
    (shown : app.viewController = some vc) : vc.iceEffect = IceEffect.after history := by
  apply controllerInvariant (motive := fun history vc => vc.iceEffect = IceEffect.after history)
    run shown id
  · exact iceEffect_launch device
  · intro _ device
    exact iceEffect_launch device
  · intro history app event next vc after _ _ _ same move
    rw [move.iceEffect, same, IceEffect.after_cons]

/-- While a round is running, nothing has cleared the flag but what hides the overlay as well. -/
theorem overlay_of_running (run : Run (system sort) (firstLaunch device) history app)
    (shown : app.viewController = some vc) :
    vc.isTimerRunning = true → vc.iceEffect.isTimerRunningIce = !vc.iceEffect.overlayIsHidden := by
  apply controllerAlways (motive := fun vc => vc.isTimerRunning = true →
    vc.iceEffect.isTimerRunningIce = !vc.iceEffect.overlayIsHidden) run shown id
  · intro device _
    rw [iceEffect_launch]
    rfl
  intro history app event vc after _ _ agree move running
  rw [move.isTimerRunning] at running
  rw [move.iceEffect, IceEffect.next, move.not_isLaunch]
  cases starts : startsRound (app, event) with
  | true => rfl
  | false =>
      rw [starts] at running
      cases stops : isStop (app, event) with
      | true =>
          have stopped : (roundStopped (app, event)).isSome = true := stops
          simp [stopped] at running
      | false =>
          have goesOn : (roundStopped (app, event)).isSome = false := stops
          cases tapped : iceTap (app, event) with
          | true => rfl
          | false =>
              apply agree
              simpa [goesOn] using running

/-- In every state reached, each record of the freeze effect stands for a tap on Ice since the last
occurrence which clears it; and while a round is running, the overlay tells whether it is frozen. -/
theorem freezeRecorded (run : Run (system sort) (firstLaunch device) history app)
    (shown : app.viewController = some vc) : FreezeRecorded history vc := by
  have effect := iceEffect_of_run run shown
  rcases IceEffect.after_eq history with ⟨flag, overlay, powerStatus⟩
  have agree := overlay_of_running run shown
  rw [← effect, List.any_eq_true] at powerStatus
  rw [← effect] at flag overlay
  have flagIff : vc.isTimerRunningIce = true ↔ ∃ tap ∈ since endsFreeze history, iceTap tap := by
    rw [← List.any_eq_true, ← flag]
    rfl
  have overlayIff : vc.overlayIsHidden = false ↔
      ∃ tap ∈ since hidesOverlay history, iceTap tap := by
    rw [← List.any_eq_true, ← Bool.not_eq_false', ← overlay]
    rfl
  refine ⟨flagIff, overlayIff, powerStatus, ?_, ?_, ?_⟩
  · intro frozen
    rcases flagIff.mp frozen with ⟨tap, occurred, tapped⟩
    have later := since_subset (fun _ => endsFreeze_of_hidesOverlay) history occurred
    exact overlayIff.mpr ⟨tap, later, tapped⟩
  · intro visible
    rcases overlayIff.mp visible with ⟨tap, occurred, tapped⟩
    have later := since_subset (fun _ => hidesOverlay_of_isLaunch) history occurred
    exact powerStatus.mpr ⟨tap, later, tapped⟩
  · intro runs
    have same : vc.isTimerRunningIce = !vc.overlayIsHidden := agree runs
    rw [same, Bool.not_eq_true']

/-- A round frozen after its first tick: all three records stand. -/
theorem freezeRecorded_frozen :
    ∃ (history : History App Event) (app : App) (vc : ViewController),
      Run (uikit .insertion) (firstLaunch .fresh) history app ∧ app.viewController = some vc ∧
        vc.isTimerRunningIce = true ∧ FreezeRecorded history vc := by
  have script := exists_uikit_run .insertion (firstLaunch .fresh)
    [.startStopButtonTapped, .fire ⟨2, 0.01, .incrementAndLap⟩, .buttonIceTapped]
    (fun _ app => app.viewController.any fun vc => vc.isTimerRunningIce) (by decide +kernel)
  rcases script with ⟨history, app, run, tested⟩
  rcases (Option.any_eq_true _ _).mp tested with ⟨vc, shown, frozen⟩
  exact ⟨history, app, vc, run, shown, frozen, freezeRecorded run.of_restrict shown⟩

/-- A frozen round is stopped: only the flag goes out. -/
theorem not_freeze_tfae_stopped :
    ∃ (history : History App Event) (app : App) (vc : ViewController),
      Run (uikit .insertion) (firstLaunch .fresh) history app ∧ app.viewController = some vc ∧
        vc.powerStatus = .freeze ∧ vc.overlayIsHidden = false ∧ vc.isTimerRunningIce = false ∧
        ¬[vc.powerStatus = .freeze, vc.overlayIsHidden = false,
          vc.isTimerRunningIce = true].TFAE := by
  have script := exists_uikit_run .insertion (firstLaunch .fresh)
    [.startStopButtonTapped, .buttonIceTapped, .startStopButtonTapped]
    (fun _ app => app.viewController.any fun vc =>
      decide (vc.powerStatus = .freeze) && !vc.overlayIsHidden && !vc.isTimerRunningIce)
    (by decide +kernel)
  rcases script with ⟨history, app, run, tested⟩
  rcases (Option.any_eq_true _ _).mp tested with ⟨vc, shown, records⟩
  simp only [Bool.and_eq_true, decide_eq_true_iff, Bool.not_eq_true'] at records
  rcases records with ⟨⟨powerStatus, overlay⟩, flag⟩
  refine ⟨history, app, vc, run, shown, powerStatus, overlay, flag, ?_⟩
  intro agree
  have frozen : vc.isTimerRunningIce = true := (agree.out 0 2).mp powerStatus
  rw [flag] at frozen
  cases frozen

end App

end OneSecond
