import OneSecond.Rounds

/-!
# Shields

A tap on Green sets `greenActiveted`, and a miss under it leaves the score alone.
The flag outlives its round: only a later Start clears it, and not while the
score is at most 1.  The account below keeps one unit in reserve while a paid
shield has not been used.  At a score of 2 or more a shield protects once for
every tap; at a score of 1 the Start after a protected miss lets the same shield
stand, and each such Start is a credit of its own.
-/

namespace OneSecond

open Runs Sorting

/-- A Start which lets the shield stand although the last round ended in a miss, at a score of at
least `least`. -/
def carriesShield (least : ℤ) : App × Event → Bool
  | (.mainScreen vc, .startStopButtonTapped) =>
      !vc.isTimerRunning && vc.keepsShield && vc.milliseconds == 0 && decide (vc.score ≥ least)
  | _ => false

namespace ViewController

variable {vc : ViewController} {least : ℤ}

/-- A shield is on which has not yet protected a score of at least `least`: in a running round any
shield counts as one, between rounds not the one the last round used. -/
def holdsShield (least : ℤ) (vc : ViewController) : Bool :=
  vc.greenActiveted &&
    (vc.isTimerRunning || vc.milliseconds != 0 || decide (vc.score < least))

theorem holdsShield_of_running (running : vc.isTimerRunning = true) :
    vc.holdsShield least = vc.greenActiveted := by
  simp [holdsShield, running]

theorem greenActiveted_timerStops : vc.timerStops.greenActiveted = vc.greenActiveted := by
  rcases vc.timerStops_cases with ⟨_, ended⟩ | ⟨_, _, ended⟩ | ⟨_, _, ended⟩
  · rw [ended, stopWon_eq, endRound_eq]
  · rw [ended, endRound_eq]
  · rw [ended, scoreLost_eq, endRound_eq]

theorem shield_of_protectedMiss {occurrence : App × Event}
    (stops : roundStopped occurrence = some vc) (protects : protectedMiss least occurrence = true) :
    vc.greenActiveted = true ∧ vc.timerStops.holdsShield least = false := by
  simp only [protectedMiss, stops, Option.any_some, Bool.and_eq_true, Bool.not_eq_true',
    decide_eq_true_iff] at protects
  rcases protects with ⟨⟨wins, shield⟩, high⟩
  refine ⟨shield, ?_⟩
  rw [timerStops_of_shielded vc wins shield, endRound_eq]
  simp only [holdsShield, shield, Bool.true_and, Bool.false_or, bne_self_eq_false]
  exact decide_eq_false (by omega)

theorem shield_of_holdsShield (holds : vc.holdsShield least = true) :
    vc.greenActiveted = true := by
  simp only [holdsShield, Bool.and_eq_true] at holds
  exact holds.1

/-- A Start keeps a shield only on credit, or when it was held before. -/
theorem holdsShield_of_timerRuns (stopped : vc.isTimerRunning = false)
    (holds : vc.timerRuns.holdsShield least = true) :
    vc.holdsShield least = true ∨
      carriesShield least (.mainScreen vc, .startStopButtonTapped) = true := by
  have shield := shield_of_holdsShield holds
  rw [timerRuns_eq] at shield
  cases keeps : vc.keepsShield with
  | true =>
      have on : vc.greenActiveted = true := by simpa [keeps] using shield
      by_cases zero : vc.milliseconds = 0
      · by_cases high : vc.score ≥ least
        · right
          simp [carriesShield, stopped, keeps, zero, high]
        · left
          simp [holdsShield, on, not_le.mp high]
      · left
        simp [holdsShield, on, zero]
  | false => simp [keeps] at shield

end ViewController

namespace App

variable {sort : SortRoutine PowerUp} {device : Device} {history : History App Event} {app : App}

/-- A shield is held by the controller in memory. -/
def holdsShield (least : ℤ) (app : App) : Bool :=
  app.viewController.any (ViewController.holdsShield least)

/-- What the account asks of a move: a protected miss spends the shield held, and a shield is held
afterwards only if it was before or is credited. -/
def Balanced (least : ℤ) (occurrence : App × Event) (vc after : ViewController) : Prop :=
  (protectedMiss least occurrence = true →
      vc.holdsShield least = true ∧ after.holdsShield least = false) ∧
    (after.holdsShield least = true → vc.holdsShield least = true ∨
      (greenTap occurrence || carriesShield least occurrence) = true)

theorem balanced_of_stop {least : ℤ} {occurrence : App × Event} {vc after : ViewController}
    (running : vc.isTimerRunning = true) (stops : roundStopped occurrence = some vc)
    (ended : after.holdsShield least = vc.timerStops.holdsShield least) :
    Balanced least occurrence vc after := by
  unfold Balanced
  rw [ended, vc.holdsShield_of_running running]
  refine ⟨vc.shield_of_protectedMiss stops, ?_⟩
  intro holds
  left
  rw [← vc.greenActiveted_timerStops]
  exact ViewController.shield_of_holdsShield holds

theorem balanced_of_quiet {least : ℤ} {occurrence : App × Event} {vc after : ViewController}
    (quiet : roundStopped occurrence = none)
    (gains : after.holdsShield least = true → vc.holdsShield least = true ∨
      (greenTap occurrence || carriesShield least occurrence) = true) :
    Balanced least occurrence vc after := by
  refine ⟨?_, gains⟩
  intro protects
  simp [protectedMiss, quiet] at protects

theorem balanced_of_move (least : ℤ) {event : Event} {vc after : ViewController}
    (move : Move app event vc after)
    (ticks : ∀ timer ∈ vc.runLoop.timers, vc.isTimerRunning = true) :
    Balanced least (app, event) vc after := by
  cases move with
  | start vc stopped =>
      rcases vc.start_eq stopped with ⟨circle, started⟩
      rw [started]
      apply balanced_of_quiet (roundStopped_startStop_of_stopped stopped)
      intro holds
      have kept : vc.timerRuns.holdsShield least = true := holds
      exact (vc.holdsShield_of_timerRuns stopped kept).imp_right fun carries => carries
  | stop vc running =>
      rcases vc.stop_eq running with ⟨circle, ended⟩
      rw [ended]
      exact balanced_of_stop running (roundStopped_startStop running) rfl
  | shopStop vc running =>
      rw [vc.buttonShop_of_running running]
      exact balanced_of_stop running (roundStopped_buttonShop running) rfl
  | ice vc =>
      rw [ViewController.buttonIceTapped_eq]
      exact balanced_of_quiet rfl fun holds => Or.inl holds
  | green vc => exact balanced_of_quiet rfl fun _ => Or.inr rfl
  | tick app vc timer scheduled =>
      have running := ticks timer scheduled
      apply balanced_of_quiet (roundStopped_fire app timer)
      intro holds
      rcases vc.fire_writes timer with ⟨_, _, _, _, _, _, written⟩
      have shield : (vc.fire timer).greenActiveted = true :=
        ViewController.shield_of_holdsShield holds
      rw [written] at shield
      left
      rwa [vc.holdsShield_of_running running]
  | appear app vc event appears =>
      rcases vc.setupUserDefaultSetLabel_loads with ⟨loading, written, _⟩
      rw [ViewController.viewDidAppear, written]
      exact balanced_of_quiet (quiet_of_appears _ appears).1 fun holds => Or.inl holds
  | openShop vc stopped =>
      exact balanced_of_quiet (roundStopped_buttonShop_of_stopped stopped) fun holds => Or.inl holds
  | childAdded vc shop snapshot => exact balanced_of_quiet rfl fun holds => Or.inl holds
  | select vc shop row => exact balanced_of_quiet rfl fun holds => Or.inl holds

/-- Misses protected at a score of `least` or more never outnumber the taps on Green and the
Starts which carry a used shield over. -/
theorem protectedMiss_le (least : ℤ) (run : Run (uikit sort) (firstLaunch device) history app) :
    history.countP (protectedMiss least) ≤
      history.countP fun occurrence => greenTap occurrence || carriesShield least occurrence := by
  have balanced := run.covered (holdsShield least) (protectedMiss least)
    (fun occurrence => greenTap occurrence || carriesShield least occurrence) ?_ ?_
  · omega
  · rcases ViewController.launch_loads device with ⟨loading, written, _⟩
    simp only [firstLaunch, holdsShield, viewController, written]
    rfl
  intro history state next event run step
  cases front : next.viewController with
  | none =>
      have gone := (step.2.kill_of_gone front).1
      subst gone
      refine ⟨?_, ?_⟩
      · intro protects
        cases state <;> cases protects
      · intro holds
        simp [holdsShield, front] at holds
  | some after =>
      rcases step.2.move front with ⟨device, rfl, rfl, rfl⟩ | ⟨vc, current, move⟩
      · refine ⟨?_, ?_⟩
        · intro protects
          cases protects
        · intro holds
          rcases ViewController.launch_loads device with ⟨loading, written, _⟩
          rw [holdsShield, front, written] at holds
          cases holds
      · simp only [holdsShield, front, current, Option.any_some]
        apply balanced_of_move least move
        -- a stopped round has no timer which could tick
        intro timer scheduled
        exact (ticks_of_run run current timer scheduled).1

theorem carriesShield_two (occurrence : App × Event) : carriesShield 2 occurrence = false := by
  unfold carriesShield
  split
  · next vc =>
      cases keeps : vc.keepsShield with
      | true =>
          simp only [ViewController.keepsShield, Bool.and_eq_true, decide_eq_true_iff] at keeps
          have low : ¬vc.score ≥ 2 := by omega
          simp [low]
      | false => simp
  · rfl

/-- A shielded miss at a score of at least 1 is paid for by its own tap on Green or by a Start
which let the shield stand after such a miss; at a score of at least 2 always by a tap. -/
theorem protectedMisses_paid (run : Run (uikit sort) (firstLaunch device) history app) :
    (history.countP (protectedMiss 1) ≤
        history.countP fun occurrence => greenTap occurrence || carriesShield 1 occurrence) ∧
      history.countP (protectedMiss 2) ≤ history.countP greenTap := by
  refine ⟨protectedMiss_le 1 run, ?_⟩
  have paid := protectedMiss_le 2 run
  simpa only [carriesShield_two, Bool.or_false] using paid

/-- A round won, then two rounds missed under one shield. -/
def twoMissesUnderOneShield : List Event :=
  roundOfOneSecond ++ [.startStopButtonTapped, .buttonGreenTapped,
    .fire ⟨3, 0.01, .incrementAndLap⟩, .startStopButtonTapped, .startStopButtonTapped,
    .fire ⟨4, 0.01, .incrementAndLap⟩, .startStopButtonTapped]

/-- One tap on Green, and a score of 1 survives two misses. -/
theorem protectedMiss_twice :
    ∃ (history : History App Event) (app : App),
      Run (uikit .insertion) (firstLaunch .fresh) history app ∧
        history.countP greenTap = 1 ∧ history.countP (protectedMiss 1) = 2 := by
  have script := exists_uikit_run .insertion (firstLaunch .fresh) twoMissesUnderOneShield
    (fun history _ => history.countP greenTap = 1 ∧ history.countP (protectedMiss 1) = 2)
    (by decide +kernel)
  rcases script with ⟨history, app, run, tested⟩
  exact ⟨history, app, run, of_decide_eq_true tested⟩

/-- In that run the second miss is covered by the Start before it. -/
theorem protectedMisses_paid_twice :
    ∃ (history : History App Event) (app : App),
      Run (uikit .insertion) (firstLaunch .fresh) history app ∧
        2 ≤ history.countP fun occurrence => greenTap occurrence || carriesShield 1 occurrence := by
  have script := exists_uikit_run .insertion (firstLaunch .fresh) twoMissesUnderOneShield
    (fun history _ => history.countP (protectedMiss 1) = 2) (by decide +kernel)
  rcases script with ⟨history, app, run, tested⟩
  have paid := (protectedMisses_paid run).1
  rw [of_decide_eq_true tested] at paid
  exact ⟨history, app, run, paid⟩

end App

end OneSecond
