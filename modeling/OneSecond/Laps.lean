import OneSecond.Freeze
import OneSecond.Stopwatch

/-!
# Laps of the circle

The timer block restarts the circle when its count of ticks wraps from 100 back to
1.  A round starts to count at 0, so its first lap has 101 ticks while every later
one has 100, and each restart comes one tick after the whole second it was meant
for.  The two agree only in rounds which end, or are frozen, before their 100th
tick.
-/

namespace OneSecond

open Runs Sorting

/-- The count of the timer block after so many ticks of a round. -/
def lapCount : ℕ → ℤ
  | 0 => 0
  | ticks + 1 => if lapCount ticks + 1 = 101 then 1 else lapCount ticks + 1

theorem lapCount_eq (ticks : ℕ) :
    lapCount ticks = if ticks = 0 then 0 else ((ticks - 1) % 100 : ℕ) + 1 := by
  induction ticks with
  | zero => rfl
  | succ ticks ih =>
      rw [lapCount, ih]
      by_cases first : ticks = 0
      · simp [first]
      · simp only [first, if_false, Nat.add_one_ne_zero]
        split <;> omega

/-- The count wraps at the ticks 101, 201, and so on. -/
theorem lapCount_wraps_iff (ticks : ℕ) :
    lapCount ticks + 1 = 101 ↔ 100 ≤ ticks ∧ 100 ∣ ticks := by
  rw [lapCount_eq]
  split <;> omega

/-- The controller after the tick, if the occurrence is one. -/
def ticked : App × Event → Option ViewController
  | (app, .fire timer) => app.viewController.map fun vc => vc.fire timer
  | _ => none

/-- The tick calls `circleProgress.start()`. -/
def restartsCircle : App × Event → Bool
  | (app, .fire timer) => timer.block == .incrementAndLap &&
      app.viewController.any fun vc => vc.count + 1 == 101
  | _ => false

theorem circleProgress_ticked {app : App} {vc : ViewController} {timer : Timer TimerBlock}
    (shown : app.viewController = some vc) :
    (vc.fire timer).circleProgress =
      if restartsCircle (app, .fire timer) then vc.circleProgress.start else vc.circleProgress := by
  rw [ViewController.circleProgress_fire]
  simp [restartsCircle, shown]

/-- The number of the next tick of the round. -/
def tickNumber (older : History App Event) : ℕ :=
  (since startsRound older).countP isTick + 1

/-- Ice has not been tapped in the round. -/
def IceFree (older : History App Event) : Prop :=
  ∀ occurrence ∈ since startsRound older, iceTap occurrence = false

theorem iceFree_cons {older : History App Event} {occurrence : App × Event}
    (noStart : startsRound occurrence = false) :
    IceFree (occurrence :: older) ↔ iceTap occurrence = false ∧ IceFree older := by
  rw [IceFree, since_cons_of_not_reset noStart, List.forall_mem_cons]
  rfl

/-- As long as Ice is not tapped in a round, its ticks restart the circle at the multiples of 100,
which are the ticks which bring the display to a whole second, and after which a stop wins. -/
def LapsAreSeconds (history : History App Event) : Prop :=
  ∀ tick older, tick :: older <:+ history → IceFree older → ∀ vc ∈ ticked tick,
    [restartsCircle tick = true, vc.suffix = 0, 100 ∣ tickNumber older, vc.stopWins = true].TFAE

/-- No round ticks 100 times without a tap on Ice. -/
def NoFullLap (history : History App Event) : Prop :=
  ∀ tick older, tick :: older <:+ history → isTick tick = true → IceFree older →
    tickNumber older < 100

theorem iceTap_of_isTick {occurrence : App × Event} (ticks : isTick occurrence = true) :
    iceTap occurrence = false := by
  rcases occurrence with ⟨app, event⟩
  cases event with
  | fire timer => rfl
  | _ => cases ticks

theorem isTick_of_ticked {occurrence : App × Event} {vc : ViewController}
    (isTicked : ticked occurrence = some vc) : isTick occurrence = true := by
  rcases occurrence with ⟨app, event⟩
  cases event with
  | fire timer => rfl
  | _ => cases isTicked

namespace App

variable {sort : SortRoutine PowerUp} {device : Device} {history : History App Event} {app : App}
  {vc : ViewController}

theorem isTimerRunningIce_of_iceFree (run : Run (system sort) (firstLaunch device) history app)
    (shown : app.viewController = some vc) (iceFree : IceFree history) :
    vc.isTimerRunningIce = false := by
  have flag : vc.isTimerRunningIce = (since endsFreeze history).any iceTap := by
    rw [← (IceEffect.after_eq history).1, ← iceEffect_of_run run shown]
    rfl
  rw [flag, List.any_eq_false]
  intro occurrence occurred
  rw [iceFree occurrence (since_subset (fun _ => endsFreeze_of_startsRound) history occurred)]
  exact Bool.false_ne_true

theorem block_of_iceFree (run : Run (uikit sort) (firstLaunch device) history app)
    (shown : app.viewController = some vc) (iceFree : IceFree history) :
    ∀ timer ∈ vc.runLoop.timers, vc.isTimerRunning = true ∧ timer.block = .incrementAndLap := by
  intro timer scheduled
  have running := (ticks_of_run run shown timer scheduled).1
  have notFrozen := isTimerRunningIce_of_iceFree run.of_restrict shown iceFree
  have shows := (shows_after run).2 vc shown
  generalize Mode.after history = mode at shows
  have isRunning : vc.isTimerRunning = mode.isRunning := shows.isTimerRunning
  have isFrozen : vc.isTimerRunningIce = decide (mode = .frozen) := shows.isTimerRunningIce
  have timers : vc.runLoop.timers = if mode.isRunning then [vc.timer] else [] := shows.timers
  refine ⟨running, ?_⟩
  cases mode with
  | stopped =>
      rw [running] at isRunning
      cases isRunning
  | running =>
      have same : timer = vc.timer := by simpa [timers, Mode.isRunning] using scheduled
      rw [same]
      exact (shows.timer rfl).2
  | frozen =>
      rw [notFrozen] at isFrozen
      simp at isFrozen

/-- In a running round in which Ice was not tapped, the count is the one its ticks make, and the
counter is as many ticks past a whole second. -/
theorem laps_of_run (run : Run (uikit sort) (firstLaunch device) history app)
    (shown : app.viewController = some vc) (running : vc.isTimerRunning = true)
    (iceFree : IceFree history) :
    vc.count = lapCount ((since startsRound history).countP isTick) ∧
      100 ∣ vc.milliseconds - ((since startsRound history).countP isTick : ℕ) := by
  apply controllerInvariant (motive := fun history vc => vc.isTimerRunning = true →
    IceFree history → vc.count = lapCount ((since startsRound history).countP isTick) ∧
      100 ∣ vc.milliseconds - ((since startsRound history).countP isTick : ℕ))
    run shown (fun step => step.2) _ _ _ running iceFree
  · intro runs
    rw [ViewController.isTimerRunning_launch] at runs
    cases runs
  · intro _ device runs
    rw [ViewController.isTimerRunning_launch] at runs
    cases runs
  intro history app event next vc after run step current laps move running iceFree
  have counter := milliseconds_of_move run current move
  -- the handlers which neither start nor stop a round nor tick
  have aside (noStart : startsRound (app, event) = false) (noTick : isTick (app, event) = false)
      (runs : after.isTimerRunning = vc.isTimerRunning) (count : after.count = vc.count)
      (milliseconds : after.milliseconds = vc.milliseconds) :
      after.count = lapCount ((since startsRound ((app, event) :: history)).countP isTick) ∧
        100 ∣ after.milliseconds -
          ((since startsRound ((app, event) :: history)).countP isTick : ℕ) := by
    rw [since_cons_of_not_reset noStart, List.countP_cons_of_neg (by simp [noTick]), count,
      milliseconds]
    exact laps (runs.symm.trans running) ((iceFree_cons noStart).mp iceFree).2
  cases move with
  | start vc stopped =>
      rcases vc.start_eq stopped with ⟨circle, started⟩
      rw [since_cons_of_reset (startsRound_startStop stopped), started, ViewController.timerRuns_eq]
      refine ⟨rfl, ?_⟩
      simpa using dvd_milliseconds run current (Or.inl stopped)
  | stop vc wasRunning =>
      rw [ViewController.isTimerRunning_stop wasRunning] at running
      cases running
  | ice vc => exact absurd ((iceFree_cons rfl).mp iceFree).1 (by simp [iceTap])
  | green vc =>
      apply aside rfl rfl
      · rw [ViewController.buttonGreenTapped_eq]
      · rw [ViewController.buttonGreenTapped_eq]
      · rw [ViewController.buttonGreenTapped_eq]
  | shopStop vc wasRunning =>
      rw [ViewController.isTimerRunning_buttonShop] at running
      cases running
  | tick app vc timer scheduled =>
      have noStart : startsRound (app, .fire timer) = false := startsRound_fire app timer
      have stillFree := ((iceFree_cons noStart).mp iceFree).2
      rcases block_of_iceFree run current stillFree timer scheduled with ⟨wasRunning, block⟩
      rcases laps wasRunning stillFree with ⟨count, whole⟩
      have advances : (vc.fire timer).milliseconds = vc.milliseconds + 1 := by
        rw [counter]
        rfl
      rw [since_cons_of_not_reset noStart, List.countP_cons_of_pos rfl, advances]
      refine ⟨?_, ?_⟩
      · simp only [ViewController.fire, block]
        rw [ViewController.incrementAndLap_eq, lapCount, ← count]
      · push_cast
        omega
  | appear app vc event appears =>
      have quiet := quiet_of_appears app appears
      rcases vc.setupUserDefaultSetLabel_loads with ⟨loading, written, _⟩
      apply aside quiet.2.1 quiet.2.2.2.1
      · rw [ViewController.viewDidAppear, written]
        rfl
      · rw [ViewController.viewDidAppear, written]
        rfl
      · rw [ViewController.viewDidAppear, written]
        rfl
  | openShop vc stopped =>
      rw [stopped] at running
      cases running
  | childAdded vc shop snapshot => exact aside rfl rfl rfl rfl rfl
  | select vc shop row => exact aside rfl rfl rfl rfl rfl

theorem Step.tick {next : App} {event : Event} (step : Step sort app event next)
    (ticks : isTick (app, event) = true) :
    ∃ vc timer, app.viewController = some vc ∧ timer ∈ vc.runLoop.timers ∧
      event = .fire timer := by
  cases step with
  | fireMain vc timer scheduled => exact ⟨vc, timer, rfl, scheduled, rfl⟩
  | fireShop vc shop timer scheduled => exact ⟨vc, timer, rfl, scheduled, rfl⟩
  | _ => cases ticks

/-- The two counters after a tick: the circle restarts at the ticks 101, 201, and so on, and the
display shows a whole second, and a stop wins, at the ticks 100, 200, and so on. -/
theorem laps_of_tick (run : Run (uikit sort) (firstLaunch device) history app) {next : App}
    {event : Event} (step : (uikit sort).Step app event next)
    (ticks : isTick (app, event) = true) (iceFree : IceFree history) :
    ∃ vc, ticked (app, event) = some vc ∧
      (restartsCircle (app, event) = true ↔
        100 < tickNumber history ∧ 100 ∣ tickNumber history - 1) ∧
      (vc.suffix = 0 ↔ 100 ∣ tickNumber history) ∧
      (vc.stopWins = true ↔ 100 ∣ tickNumber history) := by
  rcases step.2.tick ticks with ⟨vc, timer, shown, scheduled, rfl⟩
  rcases block_of_iceFree run shown iceFree timer scheduled with ⟨running, block⟩
  rcases laps_of_run run shown running iceFree with ⟨count, whole⟩
  have live : timer.block ≠ .none := by simp [block]
  have sound : (vc.fire timer).stopwatch.Sound := by
    rw [ViewController.stopwatch_fire live]
    exact (sound_of_run run shown).tick
  have advances : (vc.fire timer).stopwatch.milliseconds = vc.milliseconds + 1 := by
    rw [ViewController.stopwatch_fire live]
    rfl
  have nonneg : 0 ≤ vc.milliseconds := (sound_of_run run shown).nonneg
  have number : tickNumber history = (since startsRound history).countP isTick + 1 := rfl
  refine ⟨vc.fire timer, by simp [ticked, shown], ?_, ?_, ?_⟩
  · have restarts : restartsCircle (app, .fire timer) = true ↔ vc.count + 1 = 101 := by
      simp [restartsCircle, block, shown]
    rw [restarts, count, lapCount_wraps_iff, number]
    omega
  · have suffix : (vc.fire timer).suffix = (vc.milliseconds + 1) % 100 := by
      rcases sound.shown with ⟨_, shows⟩ | ⟨zero, _⟩
      · rw [← advances]
        exact shows
      · omega
    rw [suffix, number]
    omega
  · rw [ViewController.stopWins_iff, sound.showsWholeSecond_iff, advances, number]
    omega

/-- The laps of the rounds without Ice are seconds exactly when none of these rounds is long enough
to close the circle. -/
theorem lapsAreSeconds_iff (run : Run (uikit sort) (firstLaunch device) history app) :
    LapsAreSeconds history ↔ NoFullLap history := by
  constructor
  · rintro seconds ⟨state, event⟩ older cut ticks iceFree
    by_contra full
    have noStart : startsRound (state, event) = false := by
      rcases (run.before cut).2 with ⟨next, step⟩
      rcases step.2.tick ticks with ⟨_, timer, _, _, rfl⟩
      exact startsRound_fire state timer
    -- the 100th tick of the round comes before the present one, or is it
    have reached : 99 < (since startsRound ((state, event) :: older)).countP isTick := by
      rw [since_cons_of_not_reset noStart, List.countP_cons_of_pos ticks]
      rw [tickNumber] at full
      omega
    rcases exists_counted_since reached with ⟨⟨before, tick⟩, earlier, part, isTick, number, within⟩
    have freeBefore : IceFree earlier := by
      have free : IceFree ((state, event) :: older) :=
        (iceFree_cons noStart).mpr ⟨iceTap_of_isTick ticks, iceFree⟩
      intro occurrence occurred
      exact free occurrence (within occurred)
    have hundred : tickNumber earlier = 100 := by rw [tickNumber, number]
    rcases run.before (part.trans cut) with ⟨earlierRun, next, step⟩
    rcases laps_of_tick earlierRun step isTick freeBefore with ⟨vc, isTicked, restarts, _, _⟩
    have agree := seconds (before, tick) earlier (part.trans cut) freeBefore vc isTicked
    have late := restarts.mp ((agree.out 0 2).mpr (by rw [hundred]))
    omega
  · rintro short ⟨state, event⟩ older cut iceFree vc isTicked
    have ticks : isTick (state, event) = true := isTick_of_ticked isTicked
    rcases run.before cut with ⟨olderRun, next, step⟩
    rcases laps_of_tick olderRun step ticks iceFree with ⟨_, same, restarts, suffix, wins⟩
    cases isTicked.symm.trans same
    have below : tickNumber older < 100 := short (state, event) older cut ticks iceFree
    have positive : 0 < tickNumber older := Nat.succ_pos _
    apply List.tfae_of_forall (100 ∣ tickNumber older)
    intro fact isFact
    simp only [List.mem_cons, List.not_mem_nil, or_false] at isFact
    rcases isFact with rfl | rfl | rfl | rfl
    · rw [restarts]
      omega
    · exact suffix
    · rfl
    · exact wins

/-- A round of 50 ticks. -/
theorem lapsAreSeconds_fiftyTicks :
    ∃ (history : History App Event) (app : App),
      Run (uikit .insertion) (firstLaunch .fresh) history app ∧ history.countP isTick = 50 ∧
        LapsAreSeconds history := by
  have script := exists_uikit_run .insertion (firstLaunch .fresh)
    (.startStopButtonTapped :: List.replicate 50 (.fire ⟨2, 0.01, .incrementAndLap⟩))
    (fun history _ => history.countP isTick == 50) (by decide +kernel)
  rcases script with ⟨history, app, run, tested⟩
  have fifty : history.countP isTick = 50 := beq_iff_eq.mp tested
  refine ⟨history, app, run, fifty, ?_⟩
  apply (lapsAreSeconds_iff run).mpr
  intro tick older cut _ _
  have part : (since startsRound older).Sublist history :=
    (List.takeWhile_sublist _).trans ((List.suffix_cons tick older).trans cut).sublist
  have few := part.countP_le (p := isTick)
  rw [tickNumber]
  omega

/-- The 100th tick brings the display to 1.00 but does not restart the circle; the 101st does. -/
theorem not_lapsAreSeconds_firstLap :
    ∃ (history : History App Event) (app : App),
      Run (uikit .insertion) (firstLaunch .fresh) history app ∧ history.countP isTick = 100 ∧
        ¬LapsAreSeconds history := by
  have script := exists_uikit_run .insertion (firstLaunch .fresh) roundOfOneSecond.dropLast
    (fun history _ =>
      match history with
      | tick :: older => history.countP isTick == 100 && !restartsCircle tick &&
          (ticked tick).isSome && (since startsRound older).countP isTick == 99 &&
          older.all fun past => !iceTap past
      | [] => false)
    (by decide +kernel)
  rcases script with ⟨history, app, run, tested⟩
  refine ⟨history, app, run, ?_⟩
  split at tested
  · next tick older =>
      simp only [Bool.and_eq_true, beq_iff_eq, Bool.not_eq_true'] at tested
      rcases tested with ⟨⟨⟨⟨hundred, noRestart⟩, shown⟩, earlier⟩, noIce⟩
      refine ⟨hundred, ?_⟩
      intro seconds
      rcases Option.isSome_iff_exists.mp shown with ⟨vc, isTicked⟩
      have iceFree : IceFree older := by
        intro occurrence occurred
        have noTap := List.all_eq_true.mp noIce occurrence ((List.takeWhile_subset _) occurred)
        simpa using noTap
      have agree := seconds tick older (List.suffix_refl _) iceFree vc isTicked
      have restarts : restartsCircle tick = true :=
        (agree.out 0 2).mpr (by rw [tickNumber, earlier])
      rw [noRestart] at restarts
      cases restarts
  · cases tested

end App

end OneSecond
