import OneSecond.Rounds
import OneSecond.Scores

/-!
# The end of a round

A round ends by the Stop button or by the shop button.  Their handlers take the
same steps in different orders, and leave the same controller as long as the
circle's toggle is in step with the round, which it is in every state reached.

What the end does to the score depends on the shield, and the circle's track is
green in a running round exactly while there is one.
-/

namespace OneSecond

open Runs Sorting

namespace ViewController

variable {vc : ViewController}

/-- The circle is paused once more, which changes nothing. -/
theorem endRound_checkCirlceProgress (checker : vc.checkerCirlceProgress = false) :
    vc.checkCirlceProgress.endRound = { vc.endRound with checkerCirlceProgress := true } := by
  rw [checkCirlceProgress_eq, checker, endRound_eq, endRound_eq]
  rfl

theorem timerStops_checkCirlceProgress (checker : vc.checkerCirlceProgress = false) :
    vc.checkCirlceProgress.timerStops = { vc.timerStops with checkerCirlceProgress := true } := by
  have ends := endRound_checkCirlceProgress checker
  have verdict : vc.checkCirlceProgress.stopWins = vc.stopWins := by
    rw [checkCirlceProgress_eq]
    rfl
  have shield : vc.checkCirlceProgress.greenActiveted = vc.greenActiveted := by
    rw [checkCirlceProgress_eq]
  rcases vc.timerStops_cases with ⟨wins, ended⟩ | ⟨misses, on, ended⟩ | ⟨misses, exposed, ended⟩
  · rw [timerStops_of_wins _ (verdict.trans wins), ended, ends, stopWon_eq, stopWon_eq]
  · rw [timerStops_of_shielded _ (verdict.trans misses) (shield.trans on), ended, ends]
  · rw [timerStops_of_exposed _ (verdict.trans misses) (shield.trans exposed), ended, ends,
      scoreLost_eq, scoreLost_eq]

theorem buttonShop_eq_of_checker (running : vc.isTimerRunning = true)
    (checker : vc.checkerCirlceProgress = false) :
    vc.buttonShop =
      { vc.startStopButtonTapped with
        reported := vc.startStopButtonTapped.best :: vc.startStopButtonTapped.reported } := by
  have untouched : vc.timerStops.checkerCirlceProgress = false := by
    rw [checkerCirlceProgress_timerStops, checker]
  rw [buttonShop_of_running vc running, buttonTapped_of_running vc running,
    timerStops_checkCirlceProgress checker, untouched]
  rfl

end ViewController

section Moves

variable {app : App} {event : Event} {vc after : ViewController}

/-- The toggle is flipped by a Start and by both ways to end a round. -/
theorem Move.checker (move : Move app event vc after)
    (inStep : vc.checkerCirlceProgress = !vc.isTimerRunning) :
    after.checkerCirlceProgress = !after.isTimerRunning := by
  cases move with
  | start vc stopped =>
      rcases vc.start_eq stopped with ⟨circle, started⟩
      rw [started, ViewController.timerRuns_eq]
      simp [inStep, stopped]
  | stop vc running =>
      rcases vc.stop_eq running with ⟨circle, ended⟩
      rw [ended]
      simp [inStep, running, ViewController.isTimerRunning_timerStops]
  | ice vc =>
      rw [ViewController.buttonIceTapped_eq]
      exact inStep
  | green vc =>
      rw [ViewController.buttonGreenTapped_eq]
      exact inStep
  | shopStop vc running =>
      rw [ViewController.buttonShop_of_running vc running]
      simp [inStep, running, ViewController.isTimerRunning_timerStops,
        ViewController.checkerCirlceProgress_timerStops]
  | tick app vc timer scheduled =>
      rcases vc.fire_writes timer with ⟨_, _, _, _, _, _, written⟩
      rw [written]
      exact inStep
  | appear app vc event appears =>
      rcases vc.setupUserDefaultSetLabel_loads with ⟨loading, written, _⟩
      rw [ViewController.viewDidAppear, written]
      exact inStep
  | openShop vc stopped => exact inStep
  | childAdded vc shop snapshot => exact inStep
  | select vc shop row => exact inStep

end Moves

namespace App

variable {sort : SortRoutine PowerUp} {device : Device} {history : History App Event} {app : App}
  {vc : ViewController}

theorem checker_of_run (run : Run (system sort) (firstLaunch device) history app)
    (shown : app.viewController = some vc) :
    vc.checkerCirlceProgress = !vc.isTimerRunning := by
  apply controllerAlways (motive := fun vc => vc.checkerCirlceProgress = !vc.isTimerRunning)
    run shown id
  · intro device
    rcases ViewController.launch_loads device with ⟨loading, written, _⟩
    rw [written]
    rfl
  · intro _ _ _ _ _ _ _ inStep move
    exact move.checker inStep

/-- Stop and shop button leave a running round in the same state of the controller, but for one
more report to the leaderboard, and the shop in front. -/
theorem endings_agree
    (run : Run (system sort) (firstLaunch device) history (.mainScreen vc))
    (running : vc.isTimerRunning = true) {stopped shopped : App}
    (stop : (system sort).Step (.mainScreen vc) .startStopButtonTapped stopped)
    (shop : (system sort).Step (.mainScreen vc) .buttonShop shopped) :
    ∃ after catalogue, stopped = .mainScreen after ∧
      shopped =
        .shopScreen { after with reported := after.best :: after.reported } catalogue := by
  have checker : vc.checkerCirlceProgress = false := by
    rw [checker_of_run run rfl, running]
    rfl
  cases stop
  cases shop
  refine ⟨vc.startStopButtonTapped, vc.buttonShop.presentShop, rfl, ?_⟩
  rw [ViewController.buttonShop_eq_of_checker running checker]

/-- The first round of a fresh installation, before its first tick. -/
theorem endings_agree_firstRound :
    ∃ history vc after catalogue,
      Run (uikit .insertion) (firstLaunch .fresh) history (.mainScreen vc) ∧
        vc.isTimerRunning = true ∧
        (uikit .insertion).Step (.mainScreen vc) .startStopButtonTapped (.mainScreen after) ∧
        (uikit .insertion).Step (.mainScreen vc) .buttonShop
          (.shopScreen { after with reported := after.best :: after.reported } catalogue) := by
  have started : (uikit .insertion).Step (firstLaunch .fresh) .startStopButtonTapped
      (.mainScreen (ViewController.launch .fresh).startStopButtonTapped) :=
    ⟨trivial, .startStop _⟩
  have run := Run.nil.snoc started
  have running : (ViewController.launch .fresh).startStopButtonTapped.isTimerRunning = true := by
    decide +kernel
  rcases endings_agree run.of_restrict running (.startStop _) (.openShop _) with
    ⟨after, catalogue, stopped, shopped⟩
  refine ⟨_, _, after, catalogue, run, running, ⟨trivial, ?_⟩, ⟨trivial, ?_⟩⟩
  · rw [← stopped]
    exact .startStop _
  · rw [← shopped]
    exact .openShop _

end App

namespace ViewController

variable {vc : ViewController}

/-- The track is green exactly while a shield is on. -/
def GreenTells (vc : ViewController) : Prop :=
  vc.circleProgress.trackStrokeColor = .greenPowerUp ↔ vc.greenActiveted = true

theorem greenTells_timerRuns : vc.timerRuns.GreenTells := by
  rw [GreenTells, timerRuns_eq]
  cases keeps : vc.keepsShield with
  | true =>
      have shield : vc.greenActiveted = true := by
        simp only [keepsShield, Bool.and_eq_true] at keeps
        exact keeps.2
      simp [CircleProgress.greenPowerUp, shield]
  | false => simp [CircleProgress.resetColor]

theorem trackStrokeColor_fire (timer : Timer TimerBlock) :
    (vc.fire timer).circleProgress.trackStrokeColor = vc.circleProgress.trackStrokeColor := by
  rw [circleProgress_fire]
  split
  · rfl
  · rfl

end ViewController

/-- Between rounds the colour also tells how the last one ended, but a Start sets it right. -/
theorem Move.greenTells {app : App} {event : Event} {vc after : ViewController}
    (move : Move app event vc after) (tells : vc.isTimerRunning = true → vc.GreenTells)
    (running : after.isTimerRunning = true) : after.GreenTells := by
  cases move with
  | start vc stopped =>
      rw [ViewController.buttonTapped_of_stopped vc stopped]
      exact ViewController.greenTells_timerRuns
  | stop vc wasRunning =>
      rw [ViewController.isTimerRunning_stop wasRunning] at running
      cases running
  | ice vc =>
      rw [ViewController.buttonIceTapped_eq] at running ⊢
      exact tells running
  | green vc =>
      rw [ViewController.buttonGreenTapped_eq]
      exact iff_of_true rfl rfl
  | shopStop vc wasRunning =>
      rw [ViewController.isTimerRunning_buttonShop] at running
      cases running
  | tick app vc timer scheduled =>
      rcases vc.fire_writes timer with ⟨_, _, _, _, _, _, written⟩
      have color := vc.trackStrokeColor_fire timer
      have wasRunning : vc.isTimerRunning = true := by rwa [written] at running
      have shield : (vc.fire timer).greenActiveted = vc.greenActiveted := by rw [written]
      rw [ViewController.GreenTells, color, shield]
      exact tells wasRunning
  | appear app vc event appears =>
      rcases vc.setupUserDefaultSetLabel_loads with ⟨loading, written, _⟩
      rw [ViewController.viewDidAppear, written] at running ⊢
      exact tells running
  | openShop vc stopped => exact tells running
  | childAdded vc shop snapshot => exact tells running
  | select vc shop row => exact tells running

namespace App

variable {sort : SortRoutine PowerUp} {device : Device} {history : History App Event} {app : App}
  {vc : ViewController}

theorem greenTells_of_run (run : Run (system sort) (firstLaunch device) history app)
    (shown : app.viewController = some vc) (running : vc.isTimerRunning = true) :
    vc.GreenTells := by
  apply controllerAlways (motive := fun vc => vc.isTimerRunning = true → vc.GreenTells)
    run shown id _ _ running
  · intro device runs
    rw [ViewController.isTimerRunning_launch] at runs
    cases runs
  · intro _ _ _ _ _ _ _ tells move
    exact move.greenTells tells

/-- What a miss makes of score and best score: nothing under a shield, and otherwise the score
starts over after it went into the best score, which is stored. -/
theorem missed_of_step (run : Run (system sort) (firstLaunch device) history app)
    (shown : app.viewController = some vc) {event : Event} {next : App} {after : ViewController}
    (step : (system sort).Step app event next) (shownNext : next.viewController = some after)
    (missed : losingStop (app, event) = true) :
    after.tally = (if vc.greenActiveted then vc.tally else ⟨0, max vc.best vc.score⟩) ∧
      after.userDefault.integer .best = after.best := by
  rcases (Option.any_eq_true _ _).mp missed with ⟨stopped, stops, misses⟩
  have same := (shown_of_roundStopped stops).1
  rw [shown] at same
  cases same
  rcases Step.move step shownNext with ⟨device, rfl, rfl, rfl⟩ | ⟨old, current, move⟩
  · cases stops
  rw [shown] at current
  cases current
  rcases move.tally (stored_of_run run shown) with ⟨tally, stored, _⟩
  refine ⟨?_, stored⟩
  rw [tally, Tally.next, unshieldedMiss, winningStop, stops]
  simp only [Bool.not_eq_true'] at misses
  cases shield : vc.greenActiveted with
  | true => simp [misses, shield]
  | false => simp [misses, shield, ViewController.tally]

/-- While a round is running, the track is green exactly under a shield.  A miss then leaves the
score and the best score as they are; without green it starts the score over and keeps the better
of the two as the best score. -/
theorem green_tells_truth (run : Run (system sort) (firstLaunch device) history app)
    (shown : app.viewController = some vc) (running : vc.isTimerRunning = true) :
    (vc.circleProgress.trackStrokeColor = .greenPowerUp ↔ vc.greenActiveted = true) ∧
      ∀ event next after, (system sort).Step app event next →
        next.viewController = some after → losingStop (app, event) = true →
        (vc.circleProgress.trackStrokeColor = .greenPowerUp →
          after.score = vc.score ∧ after.best = vc.best ∧
            after.userDefault.integer .best = vc.userDefault.integer .best) ∧
        (vc.circleProgress.trackStrokeColor ≠ .greenPowerUp →
          after.score = 0 ∧ after.best = max vc.best vc.score ∧
            after.userDefault.integer .best = max vc.best vc.score) := by
  have tells := greenTells_of_run run shown running
  refine ⟨tells, ?_⟩
  intro event next after step shownNext missed
  rcases missed_of_step run shown step shownNext missed with ⟨tally, stored⟩
  refine ⟨?_, ?_⟩
  · intro green
    rw [if_pos (tells.mp green)] at tally
    have best : after.best = vc.best := congrArg Tally.best tally
    refine ⟨congrArg Tally.score tally, best, ?_⟩
    rw [stored, best, stored_of_run run shown]
  · intro notGreen
    rw [if_neg (fun shield => notGreen (tells.mpr shield))] at tally
    have best : after.best = max vc.best vc.score := congrArg Tally.best tally
    refine ⟨congrArg Tally.score tally, best, ?_⟩
    rw [stored, best]

/-- The first round of a fresh installation under a shield: its miss at once costs nothing. -/
theorem green_tells_truth_shielded :
    ∃ history vc,
      Run (uikit .insertion) (firstLaunch .fresh) history (.mainScreen vc) ∧
        vc.isTimerRunning = true ∧ vc.circleProgress.trackStrokeColor = .greenPowerUp ∧
        vc.startStopButtonTapped.score = vc.score ∧ vc.startStopButtonTapped.best = vc.best := by
  have script := exists_uikit_run .insertion (firstLaunch .fresh)
    [.startStopButtonTapped, .buttonGreenTapped]
    (fun _ app => app.viewController.any fun vc => vc.isTimerRunning && !vc.stopWins &&
      decide (vc.circleProgress.trackStrokeColor = .greenPowerUp))
    (by decide +kernel)
  rcases script with ⟨history, app, run, tested⟩
  rcases (Option.any_eq_true _ _).mp tested with ⟨vc, shown, green⟩
  simp only [Bool.and_eq_true, Bool.not_eq_true', decide_eq_true_iff] at green
  rcases green with ⟨⟨running, misses⟩, green⟩
  cases app with
  | terminated device => cases shown
  | mainScreen vc =>
      cases shown
      have missed : losingStop (.mainScreen vc, .startStopButtonTapped) = true := by
        simp [losingStop, running, misses]
      have kept := ((green_tells_truth run.of_restrict rfl running).2 _ _ _ (.startStop vc) rfl
        missed).1 green
      exact ⟨history, vc, run, running, green, kept.1, kept.2.1⟩
  | shopScreen vc shop =>
      cases shown
      have stopped := stopped_of_shopScreen run.of_restrict
      rw [running] at stopped
      cases stopped

end App

end OneSecond
