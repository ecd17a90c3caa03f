import OneSecond.Occurrences

/-!
# Score, best score and leaderboard

`Tally` is the score keeping as the player understands it: a win adds one, a
miss without a shield moves the score into the best score and starts over.  The
controller's handlers keep exactly this tally, store the best score whenever it
changes and report it to the leaderboard.

The last part is about kills.  The score itself is never stored, so what a kill
leaves is the best score, and a streak going on at that moment is lost when it
is the longest one so far.
-/

namespace OneSecond

open Runs Sorting

structure Tally where
  score : ℤ
  best : ℤ
  deriving DecidableEq, Repr

def Tally.next (tally : Tally) (occurrence : App × Event) : Tally :=
  if unshieldedMiss occurrence then ⟨0, max tally.best tally.score⟩
  else if winningStop occurrence then ⟨tally.score + 1, tally.best⟩
  else tally

/-- The occurrences at which `checkBestScore` runs. -/
def reportsBest : App × Event → Bool
  | (.mainScreen vc, .startStopButtonTapped) => !vc.isTimerRunning
  | (.mainScreen vc, .buttonShop) => vc.isTimerRunning
  | _ => false

def lostScore (occurrence : App × Event) : Option ℤ :=
  (roundStopped occurrence).bind fun vc =>
    if !vc.stopWins && !vc.greenActiveted then some vc.score else none

/-- The largest of the best score stored at the start and all scores lost since. -/
def record (stored : ℤ) (history : History App Event) : ℤ :=
  (history.filterMap lostScore).foldr max stored

/-- The values reported, latest first: at each report the record at that time. -/
def reports (stored : ℤ) : History App Event → List ℤ
  | [] => []
  | occurrence :: history =>
      if reportsBest occurrence then
        record stored (occurrence :: history) :: reports stored history
      else reports stored history

def resetsScore (occurrence : App × Event) : Bool :=
  isLaunch occurrence || unshieldedMiss occurrence

theorem next_of_quiet (tally : Tally) {occurrence : App × Event}
    (quiet : roundStopped occurrence = none) : tally.next occurrence = tally := by
  simp [Tally.next, unshieldedMiss, winningStop, quiet]

namespace ViewController

variable {vc : ViewController}

def tally (vc : ViewController) : Tally := ⟨vc.score, vc.best⟩

theorem tally_timerStops {occurrence : App × Event} (stops : roundStopped occurrence = some vc) :
    vc.timerStops.tally = vc.tally.next occurrence := by
  simp only [Tally.next, unshieldedMiss, winningStop, stops, Option.any_some]
  rcases vc.timerStops_cases with ⟨wins, ended⟩ | ⟨misses, shield, ended⟩ | ⟨misses, exposed, ended⟩
  · rw [ended, wins, stopWon_eq, endRound_eq]
    rfl
  · rw [ended, misses, shield, endRound_eq]
    rfl
  · rw [ended, misses, exposed, scoreLost_eq, endRound_eq]
    rfl

theorem timerStops_stores (stored : vc.userDefault.integer .best = vc.best) :
    vc.timerStops.userDefault.integer .best = vc.timerStops.best := by
  rcases vc.timerStops_cases with ⟨_, ended⟩ | ⟨_, _, ended⟩ | ⟨_, _, ended⟩
  · rw [ended, stopWon_eq, endRound_eq]
    simp
  · rw [ended, endRound_eq]
    exact stored
  · rw [ended, scoreLost_eq, endRound_eq]
    by_cases better : vc.score > vc.best
    · simp [better, le_of_lt better]
    · simp [better, stored, not_lt.mp better]

theorem timerStops_reported : vc.timerStops.reported = vc.reported := by
  rcases vc.timerStops_cases with ⟨_, ended⟩ | ⟨_, _, ended⟩ | ⟨_, _, ended⟩
  · rw [ended, stopWon_eq, endRound_eq]
  · rw [ended, endRound_eq]
  · rw [ended, scoreLost_eq, endRound_eq]

def ShowsScore (vc : ViewController) : Prop :=
  vc.buttonScore.title = "Score: " ++ toString vc.score

theorem ShowsScore.timerStops (shows : vc.ShowsScore) : vc.timerStops.ShowsScore := by
  rcases vc.timerStops_cases with ⟨_, ended⟩ | ⟨_, _, ended⟩ | ⟨_, _, ended⟩
  · rw [ended, stopWon_eq]
    rfl
  · rw [ended, endRound_eq]
    exact shows
  · rw [ended, scoreLost_eq]
    rfl

end ViewController

section Moves

variable {app : App} {event : Event} {vc after : ViewController}

/-- Whatever moves the controller keeps the tally, the stored best score and the reports. -/
theorem Move.tally (move : Move app event vc after)
    (stored : vc.userDefault.integer .best = vc.best) :
    after.tally = vc.tally.next (app, event) ∧
      after.userDefault.integer .best = after.best ∧
      after.reported =
        if reportsBest (app, event) then after.best :: vc.reported else vc.reported := by
  cases move with
  | start vc stopped =>
      rcases vc.start_eq stopped with ⟨circle, started⟩
      have reports : reportsBest (.mainScreen vc, .startStopButtonTapped) = true := by
        simp [reportsBest, stopped]
      rw [next_of_quiet _ (roundStopped_startStop_of_stopped stopped), reports, started,
        ViewController.timerRuns_eq]
      exact ⟨rfl, stored, rfl⟩
  | stop vc running =>
      rcases vc.stop_eq running with ⟨circle, ended⟩
      have silent : reportsBest (.mainScreen vc, .startStopButtonTapped) = false := by
        simp [reportsBest, running]
      rw [← ViewController.tally_timerStops (roundStopped_startStop running), silent, ended]
      exact ⟨rfl, ViewController.timerStops_stores stored, ViewController.timerStops_reported⟩
  | ice vc =>
      rw [ViewController.buttonIceTapped_eq]
      exact ⟨rfl, by simpa using stored, rfl⟩
  | green vc =>
      rw [ViewController.buttonGreenTapped_eq]
      exact ⟨rfl, by simpa using stored, rfl⟩
  | shopStop vc running =>
      have reports : reportsBest (.mainScreen vc, .buttonShop) = true := running
      rw [← ViewController.tally_timerStops (roundStopped_buttonShop running), reports,
        ViewController.buttonShop_of_running vc running]
      refine ⟨rfl, ViewController.timerStops_stores stored, ?_⟩
      simp only [ViewController.timerStops_reported, if_true]
  | tick app vc timer scheduled =>
      have silent : reportsBest (app, .fire timer) = false := by
        cases app <;> rfl
      rw [next_of_quiet _ (roundStopped_fire app timer), silent]
      rcases vc.fire_writes timer with ⟨_, _, _, _, _, _, written⟩
      rw [written]
      exact ⟨rfl, stored, rfl⟩
  | appear app vc event appears =>
      have silent : reportsBest (app, event) = false := by
        rcases appears with rfl | rfl
        · cases app <;> rfl
        · cases app <;> rfl
      rcases vc.setupUserDefaultSetLabel_loads with ⟨loading, written, best⟩
      rw [next_of_quiet _ (quiet_of_appears _ appears).1, silent, ViewController.viewDidAppear,
        written]
      exact ⟨congrArg (Tally.mk vc.score) stored, best, rfl⟩
  | openShop vc stopped =>
      have silent : reportsBest (.mainScreen vc, .buttonShop) = false := stopped
      rw [next_of_quiet _ (roundStopped_buttonShop_of_stopped stopped), silent]
      exact ⟨rfl, stored, rfl⟩
  | childAdded vc shop snapshot => exact ⟨rfl, stored, rfl⟩
  | select vc shop row =>
      exact ⟨rfl, (App.select_best shop vc.userDefault row).trans stored, rfl⟩

theorem Move.showsScore (move : Move app event vc after) (shows : vc.ShowsScore) :
    after.ShowsScore := by
  cases move with
  | start vc stopped =>
      rcases vc.start_eq stopped with ⟨circle, started⟩
      rw [started, ViewController.timerRuns_eq]
      exact shows
  | stop vc running =>
      rcases vc.stop_eq running with ⟨circle, ended⟩
      rw [ended]
      exact shows.timerStops
  | ice vc =>
      rw [ViewController.buttonIceTapped_eq]
      exact shows
  | green vc =>
      rw [ViewController.buttonGreenTapped_eq]
      exact shows
  | shopStop vc running =>
      rw [ViewController.buttonShop_of_running vc running]
      exact shows.timerStops
  | tick app vc timer scheduled =>
      rcases vc.fire_writes timer with ⟨_, _, _, _, _, _, written⟩
      rw [written]
      exact shows
  | appear app vc event appears =>
      rcases vc.setupUserDefaultSetLabel_loads with ⟨loading, written, best⟩
      rw [ViewController.viewDidAppear, written]
      exact shows
  | openShop vc stopped => exact shows
  | childAdded vc shop snapshot => exact shows
  | select vc shop row => exact shows

end Moves

section Record

variable {stored : ℤ} {occurrence : App × Event} {history : History App Event}

theorem record_cons_of_quiet (quiet : roundStopped occurrence = none) :
    record stored (occurrence :: history) = record stored history := by
  simp [record, lostScore, quiet]

/-- The record follows the tally of the controller in memory. -/
theorem record_cons {app : App} {event : Event} {vc : ViewController}
    (shown : app.viewController = some vc) (best : vc.best = record stored history) :
    (vc.tally.next (app, event)).best = record stored ((app, event) :: history) := by
  cases stops : roundStopped (app, event) with
  | none =>
      rw [next_of_quiet _ stops, record_cons_of_quiet stops]
      exact best
  | some stopped =>
      have same : stopped = vc := by
        have alsoShown := (shown_of_roundStopped stops).1
        rw [shown] at alsoShown
        exact (Option.some.inj alsoShown).symm
      subst same
      simp only [Tally.next, unshieldedMiss, winningStop, stops, Option.any_some]
      cases missed : !stopped.stopWins && !stopped.greenActiveted with
      | true =>
          have lost : lostScore (app, event) = some stopped.score := by
            simpa [lostScore, stops] using missed
          simp [record, lost, ViewController.tally, best, max_comm]
      | false =>
          have lost : lostScore (app, event) = none := by
            simpa [lostScore, stops] using missed
          cases won : stopped.stopWins <;>
            simp [record, lost, ViewController.tally, best]

theorem record_le_cons : record stored history ≤ record stored (occurrence :: history) := by
  cases lost : lostScore occurrence with
  | none => simp [record, lost]
  | some score => simp [record, lost]

theorem le_record_of_mem_reports {value : ℤ} (reported : value ∈ reports stored history) :
    value ≤ record stored history := by
  induction history with
  | nil => simp [reports] at reported
  | cons occurrence history ih =>
      simp only [reports] at reported
      split at reported
      · rcases List.mem_cons.mp reported with rfl | earlier
        · exact le_refl _
        · exact (ih earlier).trans record_le_cons
      · exact (ih reported).trans record_le_cons

theorem reports_pairwise : (reports stored history).Pairwise fun later earlier =>
    earlier ≤ later := by
  induction history with
  | nil => simp [reports]
  | cons occurrence history ih =>
      simp only [reports]
      split
      · apply List.Pairwise.cons _ ih
        intro value reported
        exact (le_record_of_mem_reports reported).trans record_le_cons
      · exact ih

end Record

namespace App

variable {sort : SortRoutine PowerUp} {device : Device} {history : History App Event} {app : App}
  {vc : ViewController}

/-- The best score in memory, the stored one and the reports all follow the record. -/
theorem best_of_run (run : Run (system sort) (firstLaunch device) history app) :
    (∀ vc, app.viewController = some vc →
        vc.best = record (device.userDefault.integer .best) history) ∧
      app.userDefault.integer .best = record (device.userDefault.integer .best) history ∧
      app.reported =
        reports (device.userDefault.integer .best) history ++ device.reported := by
  apply run.historyInvariant
    (motive := fun history app =>
      (∀ vc, app.viewController = some vc →
          vc.best = record (device.userDefault.integer .best) history) ∧
        app.userDefault.integer .best = record (device.userDefault.integer .best) history ∧
        app.reported =
          reports (device.userDefault.integer .best) history ++ device.reported)
  · rcases ViewController.launch_loads device with ⟨loading, written, best⟩
    refine ⟨?_, ?_, ?_⟩
    · intro vc shown
      cases shown
      rw [written]
      rfl
    · rw [firstLaunch, written]
      exact best
    · rw [firstLaunch, written]
      rfl
  intro history state next event run kept step
  rcases kept with ⟨best, stored, reported⟩
  cases front : next.viewController with
  | none =>
      rcases step.kill_of_gone front with ⟨rfl, kept, keptReports⟩
      have quiet : roundStopped (state, .kill) = none := by
        cases state <;> rfl
      have silent : reportsBest (state, .kill) = false := by
        cases state <;> rfl
      rw [record_cons_of_quiet quiet, reports, silent, kept, keptReports]
      refine ⟨?_, stored, reported⟩
      intro vc shown
      cases shown
  | some after =>
      rw [userDefault_of_shown front, reported_of_shown front]
      have bests : after.best =
          record (device.userDefault.integer .best) ((state, event) :: history) ∧
            after.userDefault.integer .best = after.best ∧
            after.reported =
              if reportsBest (state, event) then after.best :: state.reported
              else state.reported := by
        rcases step.move front with ⟨device, rfl, rfl, rfl⟩ | ⟨vc, current, move⟩
        · rcases ViewController.launch_loads device with ⟨loading, written, kept⟩
          rw [written, record_cons_of_quiet rfl]
          exact ⟨stored, kept, rfl⟩
        · have agree : vc.userDefault.integer .best = vc.best := by
            rw [← userDefault_of_shown current, stored, best vc current]
          have moved := move.tally agree
          rw [reported_of_shown current, ← record_cons current (best vc current), ← moved.1]
          exact ⟨rfl, moved.2⟩
      rcases bests with ⟨bestNext, storedNext, reportedNext⟩
      refine ⟨?_, ?_, ?_⟩
      · intro vc shown
        rw [← Option.some.inj shown]
        exact bestNext
      · rw [storedNext, bestNext]
      · rw [reportedNext, reports, reported, bestNext]
        split <;> rfl

theorem stored_of_run (run : Run (system sort) (firstLaunch device) history app)
    (shown : app.viewController = some vc) : vc.userDefault.integer .best = vc.best := by
  have bests := best_of_run run
  rw [← userDefault_of_shown shown, bests.2.1, bests.1 vc shown]

theorem score_of_run (run : Run (system sort) (firstLaunch device) history app)
    (shown : app.viewController = some vc) :
    vc.score = (since resetsScore history).countP winningStop := by
  apply controllerMeter ViewController.score resetsScore winningStop run shown (fun step => step)
  · intro device
    rcases ViewController.launch_loads device with ⟨loading, written, _⟩
    rw [written]
    rfl
  · intro device
    rfl
  intro history state event next vc after run step current move
  have score : after.score = (vc.tally.next (state, event)).score :=
    congrArg Tally.score (move.tally (stored_of_run run current)).1
  rw [score, resetsScore, move.not_isLaunch, Bool.false_or, Tally.next]
  cases missed : unshieldedMiss (state, event) with
  | true => simp
  | false =>
      cases won : winningStop (state, event) with
      | true => simp [ViewController.tally]
      | false => simp [ViewController.tally]

theorem best_monotone (run : Run (system sort) (firstLaunch device) history app) :
    ∀ occurrence ∈ history,
      occurrence.1.userDefault.integer .best ≤ app.userDefault.integer .best := by
  apply run.monotone (fun app => app.userDefault.integer .best)
  intro history state next event run step
  rw [(best_of_run run).2.1, (best_of_run (run.snoc step)).2.1]
  exact record_le_cons

/-- Score, best score and leaderboard are exact: the score counts the wins since the last launch
or unshielded miss, the best score is the largest ever lost or found stored, and every report
says what it was at that time. -/
theorem scores_exact (run : Run (system sort) (firstLaunch device) history app) :
    (∀ vc, app.viewController = some vc →
        vc.score = (since resetsScore history).countP winningStop ∧
          vc.best = record (device.userDefault.integer .best) history) ∧
      app.userDefault.integer .best = record (device.userDefault.integer .best) history ∧
      app.reported =
        reports (device.userDefault.integer .best) history ++ device.reported ∧
      (∀ occurrence ∈ history,
        occurrence.1.userDefault.integer .best ≤ app.userDefault.integer .best) ∧
      (reports (device.userDefault.integer .best) history).Pairwise fun later earlier =>
        earlier ≤ later := by
  have bests := best_of_run run
  refine ⟨?_, bests.2.1, bests.2.2, best_monotone run, reports_pairwise⟩
  intro vc shown
  exact ⟨score_of_run run shown, bests.1 vc shown⟩

/-- A round won, a round missed, and the app launched again: the 1 is the best score. -/
theorem scores_exact_relaunched :
    ∃ (history : History App Event) (app : App),
      Run (system .insertion) (firstLaunch .fresh) history app ∧
        app.userDefault.integer .best = 1 ∧ app.reported = [1, 0, 0] := by
  have script := exists_run .insertion (firstLaunch .fresh)
    (roundOfOneSecond ++ roundOfOneTick ++ [.kill, .launch, .startStopButtonTapped])
    (fun history _ => record 0 history = 1 ∧ reports 0 history = [1, 0, 0]) (by decide +kernel)
  rcases script with ⟨history, app, run, tested⟩
  rcases of_decide_eq_true tested with ⟨best, reported⟩
  have exactly := scores_exact run
  refine ⟨history, app, run, exactly.2.1.trans best, ?_⟩
  rw [exactly.2.2.1, show Device.fresh.userDefault.integer .best = 0 from rfl, reported]
  rfl

def Displays (app : App) (score : ℤ) : Prop :=
  ∃ vc, app.viewController = some vc ∧
    vc.buttonScore.title = "Score: " ++ toString score

/-- No record is lost: whenever the process is killed, the best score which the next launch loads
is at least every score displayed until then. -/
def RecordKept (history : History App Event) : Prop :=
  ∀ killed older, (killed, Event.kill) :: older <:+ history →
    ∀ past ∈ (killed, Event.kill) :: older, ∀ score, Displays past.1 score →
      score ≤ (ViewController.launch killed.device).best

/-- At every kill, the wins since the last launch or unshielded miss are no more than the record
which stands. -/
def StreakCovered (stored : ℤ) (history : History App Event) : Prop :=
  ∀ killed older, (killed, Event.kill) :: older <:+ history →
    (since resetsScore older).countP winningStop ≤ record stored older

theorem displays_iff (run : Run (system sort) (firstLaunch device) history app) (score : ℤ) :
    Displays app score ↔ ∃ vc, app.viewController = some vc ∧ vc.score = score := by
  have shows : ∀ vc, app.viewController = some vc → vc.ShowsScore := by
    intro vc shown
    apply controllerAlways run shown (fun step => step)
    · intro device
      rcases ViewController.launch_loads device with ⟨loading, written, _⟩
      rw [written]
      rfl
    · intro _ _ _ _ _ _ _ shows move
      exact move.showsScore shows
  constructor
  · rintro ⟨vc, shown, title⟩
    refine ⟨vc, shown, ?_⟩
    have shown := shows vc shown
    rw [ViewController.ShowsScore, title] at shown
    exact (Int.repr_inj.mp ((String.append_right_inj _).mp shown)).symm
  · rintro ⟨vc, shown, rfl⟩
    exact ⟨vc, shown, shows vc shown⟩

/-- The most a player can have seen as score or best score. -/
def peak (app : App) : ℤ :=
  app.viewController.elim (app.userDefault.integer .best) fun vc => max vc.best vc.score

theorem launch_best (device : Device) :
    (ViewController.launch device).best = device.userDefault.integer .best := by
  rcases ViewController.launch_loads device with ⟨loading, written, _⟩
  rw [written]
  rfl

/-- The peak falls only at a kill in the middle of a record streak. -/
theorem peak_le_of_step {next : App} {event : Event}
    (run : Run (system sort) (firstLaunch device) history app) (step : Step sort app event next)
    (covered : event = .kill → (since resetsScore history).countP winningStop ≤
      record (device.userDefault.integer .best) history) : peak app ≤ peak next := by
  have bests := best_of_run run
  cases front : next.viewController with
  | none =>
      rcases step.kill_of_gone front with ⟨isKill, kept, _⟩
      have streak := covered isKill
      cases shown : app.viewController with
      | none => simp [peak, front, shown, kept]
      | some vc =>
          have score := score_of_run run shown
          have best := bests.1 vc shown
          have stored := bests.2.1
          simp only [peak, front, shown, kept, Option.elim]
          omega
  | some after =>
      rcases step.move front with ⟨device, rfl, rfl, rfl⟩ | ⟨vc, current, move⟩
      · have atRest : peak (.terminated device) = device.userDefault.integer .best := rfl
        have loaded : peak next = max (ViewController.launch device).best
            (ViewController.launch device).score := by
          simp [peak, front]
        rw [atRest, loaded, launch_best]
        exact le_max_left _ _
      · have tally := (move.tally (stored_of_run run current)).1
        have score : after.score = (vc.tally.next (app, event)).score := congrArg Tally.score tally
        have best : after.best = (vc.tally.next (app, event)).best := congrArg Tally.best tally
        simp only [peak, front, current, Option.elim, score, best, Tally.next]
        cases missed : unshieldedMiss (app, event) with
        | true =>
            simp only [if_true, ViewController.tally]
            omega
        | false =>
            cases won : winningStop (app, event) with
            | true =>
                simp only [Bool.false_eq_true, if_false, if_true, ViewController.tally]
                omega
            | false => simp [ViewController.tally]

/-- As long as every kill finds its streak covered, nothing displayed ever exceeds the peak. -/
theorem displayed_le_peak (run : Run (system sort) (firstLaunch device) history app)
    (covered : StreakCovered (device.userDefault.integer .best) history) :
    ∀ past ∈ history, ∀ score, Displays past.1 score → score ≤ peak app := by
  refine run.historyInvariant
    (motive := fun history app => StreakCovered (device.userDefault.integer .best) history →
      ∀ past ∈ history, ∀ score, Displays past.1 score → score ≤ peak app) ?_ ?_ covered
  · intro _ past occurred
    cases occurred
  intro history state next event run bounded step covered past occurred score displayed
  have grows : peak state ≤ peak next := by
    apply peak_le_of_step run step
    rintro rfl
    exact covered state history (List.suffix_refl _)
  apply le_trans _ grows
  rcases List.mem_cons.mp occurred with rfl | earlier
  · rcases (displays_iff run score).mp displayed with ⟨vc, shown, rfl⟩
    simp [peak, shown]
  · apply bounded _ past earlier score displayed
    intro killed older cut
    exact covered killed older (cut.trans (List.suffix_cons _ _))

/-- A record is kept exactly when no kill interrupts a streak longer than the record. -/
theorem recordKept_iff_streakCovered (run : Run (system sort) (firstLaunch device) history app) :
    RecordKept history ↔ StreakCovered (device.userDefault.integer .best) history := by
  constructor
  · intro kept killed older cut
    rcases run.before cut with ⟨before, next, step⟩
    have shown : ∃ vc, killed.viewController = some vc := by
      cases step with
      | killMain vc => exact ⟨vc, rfl⟩
      | killShop vc shop => exact ⟨vc, rfl⟩
    rcases shown with ⟨vc, shown⟩
    have displayed : Displays killed vc.score := (displays_iff before vc.score).mpr ⟨vc, shown, rfl⟩
    have saved := kept killed older cut (killed, .kill) (List.mem_cons_self ..) vc.score displayed
    rwa [launch_best, score_of_run before shown, App.device, (best_of_run before).2.1] at saved
  · intro covered killed older cut past occurred score displayed
    rcases run.before cut with ⟨before, next, step⟩
    have gone : next.viewController = none := by
      cases step <;> rfl
    have coveredBefore : StreakCovered (device.userDefault.integer .best)
        ((killed, .kill) :: older) := by
      intro earlier oldest cutAgain
      exact covered earlier oldest (cutAgain.trans cut)
    have bounded := displayed_le_peak (before.snoc step) coveredBefore past occurred score displayed
    have left := (step.kill_of_gone gone).2.1
    rw [launch_best, App.device, ← left]
    simpa [peak, gone] using bounded

/-- A round won, a round missed, and then a kill: the record is kept. -/
theorem recordKept_roundOfOneTick :
    ∃ (history : History App Event) (app : App),
      Run (system .insertion) (firstLaunch .fresh) history app ∧ history.any isKill = true ∧
        RecordKept history := by
  have script := exists_run .insertion (firstLaunch .fresh)
    (roundOfOneSecond ++ roundOfOneTick ++ [.kill])
    (fun history _ =>
      match history with
      | kill :: older => isKill kill && older.all (fun past => !isKill past) &&
          decide ((since resetsScore older).countP winningStop ≤ record 0 older)
      | [] => false)
    (by decide +kernel)
  rcases script with ⟨history, app, run, tested⟩
  split at tested
  · next kill before =>
      simp only [Bool.and_eq_true, decide_eq_true_iff] at tested
      rcases tested with ⟨⟨isLast, only⟩, streak⟩
      refine ⟨_, app, run, by simp [isLast], ?_⟩
      apply (recordKept_iff_streakCovered run).mpr
      intro killed older cut
      rcases List.suffix_cons_iff.mp cut with whole | earlier
      · cases whole
        exact streak
      · have noKill := List.all_eq_true.mp only _ (earlier.subset (List.mem_cons_self ..))
        cases noKill
  · cases tested

/-- A round won and the process killed: 1 was displayed, and the next launch loads 0. -/
theorem not_recordKept_roundOfOneSecond :
    ∃ (history : History App Event) (app : App),
      Run (uikit .insertion) (firstLaunch .fresh) history app ∧ ¬RecordKept history := by
  have script := exists_uikit_run .insertion (firstLaunch .fresh) (roundOfOneSecond ++ [.kill])
    (fun history _ =>
      match history with
      | kill :: _ => isKill kill && (ViewController.launch kill.1.device).best == 0 &&
          kill.1.viewController.any fun vc => vc.buttonScore.title == "Score: 1"
      | [] => false)
    (by decide +kernel)
  rcases script with ⟨history, app, run, tested⟩
  refine ⟨history, app, run, ?_⟩
  intro kept
  split at tested
  · next kill older =>
      simp only [Bool.and_eq_true, beq_iff_eq] at tested
      rcases tested with ⟨⟨killed, loaded⟩, shown⟩
      rcases (Option.any_eq_true _ _).mp shown with ⟨vc, shown, title⟩
      rcases kill with ⟨before, event⟩
      have isKill : event = .kill := by
        cases event with
        | kill => rfl
        | _ => cases killed
      subst isKill
      have saved := kept before older (List.suffix_refl _) _ (List.mem_cons_self ..) 1
        ⟨vc, shown, beq_iff_eq.mp title⟩
      rw [loaded] at saved
      exact absurd saved (by decide)
  · cases tested

end App

end OneSecond
