import OneSecond.Rounds

/-!
# Confetti (`SAConfettiView`)

`startConfetti` adds an emitter layer each time and remembers it; `stopConfetti`
stops the emitter remembered, and takes no layer away.  Started twice, it would
leave an emitter nobody can stop.  The rounds rule this out: a record is set at
the end of a round, and the start of a round stops the confetti.
-/

namespace OneSecond

open Runs Sorting

/-- An emitter layer; it emits unless its birth rate, 1 at first, is 0. -/
structure CAEmitterLayer where
  birthRate : ℕ

/-- The emitters among the view's layers, latest first; the first one is `emitter`. -/
structure SAConfettiView where
  sublayers : List CAEmitterLayer
  active : Bool

namespace SAConfettiView

/-- `setup`. -/
def new : SAConfettiView := ⟨[], false⟩

def startConfetti (view : SAConfettiView) : SAConfettiView :=
  { view with sublayers := ⟨1⟩ :: view.sublayers, active := true }

def stopConfetti (view : SAConfettiView) : SAConfettiView :=
  match view.sublayers with
  | emitter :: earlier =>
      { view with sublayers := { emitter with birthRate := 0 } :: earlier, active := false }
  | [] => { view with active := false }

/-- At most the emitter remembered emits, and it does exactly while the view is active. -/
structure Tidy (view : SAConfettiView) : Prop where
  emits : (∃ emitter ∈ view.sublayers, emitter.birthRate ≠ 0) ↔ view.active = true
  earlier : ∀ emitter ∈ view.sublayers.tail, emitter.birthRate = 0

variable {view : SAConfettiView}

theorem tidy_new : Tidy new := ⟨by simp [new], by simp [new]⟩

theorem Tidy.startConfetti (tidy : view.Tidy) (inactive : view.active = false) :
    view.startConfetti.Tidy where
  emits := ⟨fun _ => rfl, fun _ => ⟨⟨1⟩, List.mem_cons_self, by decide⟩⟩
  earlier := by
    intro emitter added
    by_contra emitting
    have active := tidy.emits.mp ⟨emitter, added, emitting⟩
    rw [inactive] at active
    cases active

theorem Tidy.stopConfetti (tidy : view.Tidy) : view.stopConfetti.Tidy := by
  cases layers : view.sublayers with
  | nil => exact ⟨by simp [SAConfettiView.stopConfetti, layers],
      by simp [SAConfettiView.stopConfetti, layers]⟩
  | cons emitter earlier =>
      have stopped : ∀ other ∈ earlier, other.birthRate = 0 := by
        simpa [layers] using tidy.earlier
      refine ⟨?_, ?_⟩
      · simpa [SAConfettiView.stopConfetti, layers] using stopped
      · simpa [SAConfettiView.stopConfetti, layers] using stopped

theorem length_stopConfetti : view.stopConfetti.sublayers.length = view.sublayers.length := by
  cases layers : view.sublayers <;> simp [SAConfettiView.stopConfetti, layers]

theorem active_stopConfetti : view.stopConfetti.active = false := by
  cases layers : view.sublayers <;> simp [SAConfettiView.stopConfetti, layers]

end SAConfettiView

/-- A stop which loses a score above the best one. -/
def newRecord (occurrence : App × Event) : Bool :=
  (roundStopped occurrence).any fun vc =>
    !vc.stopWins && !vc.greenActiveted && vc.score > vc.best

/-- The confetti view after the calls which the main screen has made since `setupConfetti`. -/
def confettiView : History App Event → SAConfettiView
  | [] => .new
  | occurrence :: older =>
      if isLaunch occurrence then .new
      else if newRecord occurrence then (confettiView older).startConfetti
      else if startsRound occurrence then (confettiView older).stopConfetti
      else confettiView older

section Moves

variable {app : App} {event : Event} {vc after : ViewController}

theorem newRecord_of_stop (stops : roundStopped (app, event) = some vc) :
    newRecord (app, event) = (!vc.stopWins && !vc.greenActiveted && vc.score > vc.best) := by
  simp [newRecord, stops]

theorem confettiStarted_timerStops (vc : ViewController) :
    vc.timerStops.confettiStarted =
      ((!vc.stopWins && !vc.greenActiveted && vc.score > vc.best) || vc.confettiStarted) := by
  rcases vc.timerStops_cases with ⟨wins, ended⟩ | ⟨misses, shield, ended⟩ | ⟨misses, exposed, ended⟩
  · rw [ended, ViewController.stopWon_eq, ViewController.endRound_eq, wins]
    rfl
  · rw [ended, ViewController.endRound_eq, misses, shield]
    rfl
  · rw [ended, ViewController.scoreLost_eq, ViewController.endRound_eq, misses, exposed]
    by_cases better : vc.score > vc.best
    · simp [better]
    · simp [better]

/-- What a move does to the confetti is what it asks of the view. -/
theorem Move.confettiStarted (move : Move app event vc after) :
    after.confettiStarted =
      if startsRound (app, event) then false
      else newRecord (app, event) || vc.confettiStarted := by
  cases move with
  | start vc stopped =>
      rcases vc.start_eq stopped with ⟨circle, started⟩
      rw [started, ViewController.timerRuns_eq, startsRound_startStop stopped]
      rfl
  | stop vc running =>
      rcases vc.stop_eq running with ⟨circle, ended⟩
      rw [newRecord_of_stop (roundStopped_startStop running),
        startsRound_startStop_of_running running, ended]
      exact confettiStarted_timerStops vc
  | ice vc =>
      rw [ViewController.buttonIceTapped_eq]
      rfl
  | green vc =>
      rw [ViewController.buttonGreenTapped_eq]
      rfl
  | shopStop vc running =>
      rw [newRecord_of_stop (roundStopped_buttonShop running),
        ViewController.buttonShop_of_running vc running]
      exact confettiStarted_timerStops vc
  | tick app vc timer scheduled =>
      rw [startsRound_fire, newRecord, roundStopped_fire]
      rcases vc.fire_writes timer with ⟨_, _, _, _, _, _, written⟩
      rw [written]
      rfl
  | appear app vc event appears =>
      have quiet := quiet_of_appears app appears
      rcases vc.setupUserDefaultSetLabel_loads with ⟨loading, written, _⟩
      rw [newRecord, quiet.1, quiet.2.1, ViewController.viewDidAppear, written]
      rfl
  | openShop vc stopped => simp [startsRound, newRecord, stopped]
  | childAdded vc shop snapshot => rfl
  | select vc shop row => rfl

end Moves

namespace App

/-- The view and the controller agree, and while a round runs nothing is emitted. -/
structure Celebrates (history : History App Event) (vc : ViewController) : Prop where
  tidy : (confettiView history).Tidy
  active : (confettiView history).active = vc.confettiStarted
  running : vc.isTimerRunning = true → vc.confettiStarted = false
  layers : (confettiView history).sublayers.length =
    (since isLaunch history).countP newRecord

theorem Celebrates.launch {history : History App Event} (device : Device)
    (fresh : confettiView history = .new)
    (nothing : (since isLaunch history).countP newRecord = 0) :
    Celebrates history (ViewController.launch device) where
  tidy := by
    rw [fresh]
    exact SAConfettiView.tidy_new
  active := by
    rcases ViewController.launch_loads device with ⟨loading, launched, _⟩
    rw [fresh, launched]
    rfl
  running := by
    intro running
    rw [ViewController.isTimerRunning_launch] at running
    cases running
  layers := by
    rw [fresh, nothing]
    rfl

theorem Celebrates.move {history : History App Event} {app : App} {event : Event}
    {vc after : ViewController} (celebrates : Celebrates history vc)
    (current : app.viewController = some vc) (move : Move app event vc after) :
    Celebrates ((app, event) :: history) after := by
  have started := move.confettiStarted
  have runs := move.isTimerRunning
  have view : confettiView ((app, event) :: history) =
      if newRecord (app, event) then (confettiView history).startConfetti
      else if startsRound (app, event) then (confettiView history).stopConfetti
      else confettiView history := by
    simp [confettiView, move.not_isLaunch]
  have counted : (since isLaunch ((app, event) :: history)).countP newRecord =
      (since isLaunch history).countP newRecord + if newRecord (app, event) then 1 else 0 := by
    rw [since_cons_of_not_reset move.not_isLaunch, List.countP_cons]
  cases record : newRecord (app, event) with
  | true =>
      -- a round ends here, and nothing was emitted during it
      rcases (Option.any_eq_true _ _).mp record with ⟨stopped, stops, _⟩
      have ending := shown_of_roundStopped stops
      have same : stopped = vc := Option.some.inj (ending.1.symm.trans current)
      subst same
      have noStart := startsRound_of_stop stops
      have inactive : (confettiView history).active = false := by
        rw [celebrates.active, celebrates.running ending.2]
      rw [record] at view
      rw [record, noStart] at started
      rw [noStart, stops] at runs
      simp only [if_true, Bool.false_eq_true, if_false, Bool.true_or, Option.isSome_some]
        at view started runs
      refine ⟨?_, ?_, ?_, ?_⟩
      · rw [view]
        exact celebrates.tidy.startConfetti inactive
      · rw [view, started]
        rfl
      · intro running
        rw [runs] at running
        cases running
      · rw [view, counted, record]
        simp [SAConfettiView.startConfetti, celebrates.layers]
  | false =>
      cases starts : startsRound (app, event) with
      | true =>
          rw [record, starts] at view
          rw [starts] at started
          simp only [Bool.false_eq_true, if_false, if_true] at view started
          refine ⟨?_, ?_, fun _ => started, ?_⟩
          · rw [view]
            exact celebrates.tidy.stopConfetti
          · rw [view, started, SAConfettiView.active_stopConfetti]
          · rw [view, counted, record, SAConfettiView.length_stopConfetti]
            exact celebrates.layers
      | false =>
          rw [record, starts] at view
          rw [record, starts] at started
          rw [starts] at runs
          simp only [Bool.false_eq_true, if_false, Bool.false_or] at view started runs
          refine ⟨?_, ?_, ?_, ?_⟩
          · rw [view]
            exact celebrates.tidy
          · rw [view, started]
            exact celebrates.active
          · intro running
            rw [started]
            apply celebrates.running
            rw [runs] at running
            split at running
            · cases running
            · exact running
          · rw [view, counted, record]
            exact celebrates.layers

/-- In every run the confetti view emits while the main screen's controller takes it to, and with
one emitter only, the one which can be stopped.  While a round runs no emitter emits, though what
was emitted before may still be falling; and every record since the launch has left its layer
behind. -/
theorem confetti_of_run {sort : SortRoutine PowerUp} {device : Device}
    {history : History App Event} {app : App} {vc : ViewController}
    (run : Run (system sort) (firstLaunch device) history app)
    (shown : app.viewController = some vc) :
    ((∃ emitter ∈ (confettiView history).sublayers, emitter.birthRate ≠ 0) ↔
        vc.confettiStarted = true) ∧
      (∀ emitter ∈ (confettiView history).sublayers.tail, emitter.birthRate = 0) ∧
      (vc.isTimerRunning = true →
        ∀ emitter ∈ (confettiView history).sublayers, emitter.birthRate = 0) ∧
      (confettiView history).sublayers.length = (since isLaunch history).countP newRecord := by
  have celebrates : Celebrates history vc := by
    apply controllerInvariant (motive := Celebrates) run shown id
    · exact .launch device rfl rfl
    · intro history device
      exact .launch device rfl rfl
    · intro history app event next vc after _ _ current celebrates move
      exact celebrates.move current move
  have emits := celebrates.tidy.emits
  rw [celebrates.active] at emits
  refine ⟨emits, celebrates.tidy.earlier, ?_, celebrates.layers⟩
  intro running emitter added
  by_contra emitting
  have started := emits.mp ⟨emitter, added, emitting⟩
  rw [celebrates.running running] at started
  cases started

/-- A round won and a round lost set a record; the next round stops the confetti. -/
theorem confetti_of_run_afterRecord :
    ∃ (history : History App Event) (app : App) (vc : ViewController),
      Run (system .insertion) (firstLaunch .fresh) history app ∧
        app.viewController = some vc ∧
        (∀ emitter ∈ (confettiView history).sublayers, emitter.birthRate = 0) ∧
        (confettiView history).sublayers.length = 1 := by
  have script := exists_run .insertion (firstLaunch .fresh)
    (roundOfOneSecond ++ roundOfOneTick ++ [.startStopButtonTapped])
    (fun history app =>
      (app.viewController.any fun vc => vc.isTimerRunning) &&
        (since isLaunch history).countP newRecord == 1)
    (by decide +kernel)
  rcases script with ⟨history, app, run, tested⟩
  simp only [Bool.and_eq_true, beq_iff_eq] at tested
  rcases tested with ⟨runs, records⟩
  rcases (Option.any_eq_true _ _).mp runs with ⟨vc, shown, running⟩
  rcases confetti_of_run run shown with ⟨_, _, still, layers⟩
  exact ⟨history, app, vc, run, shown, still running, by rw [layers, records]⟩

end App

end OneSecond
