import OneSecond.Decimal
import OneSecond.Rounds

/-!
# The stopwatch

`Stopwatch` is the counter with its display: a tick moves both, a miss sets only
the counter back, and a win leaves both.  So after a miss the display is stale,
and `Stopwatch.Sound` says what is left of their agreement: either the display
shows the counter, or the counter is at 0 and the display does not show a whole
second.  That is enough for the verdict, the label and the counter to agree.

The last part is about rounds stopped before their first tick.
-/

namespace OneSecond

open Runs Sorting Decimal

structure Stopwatch where
  milliseconds : ℤ
  seconds : ℤ
  suffix : ℤ
  text : String

def resetsStopwatch (occurrence : App × Event) : Bool :=
  isLaunch occurrence || losingStop occurrence

namespace Stopwatch

def tick (stopwatch : Stopwatch) : Stopwatch where
  milliseconds := stopwatch.milliseconds + 1
  seconds := (stopwatch.milliseconds + 1).tdiv 100
  suffix := stopwatch.milliseconds + 1 - (stopwatch.milliseconds + 1).tdiv 100 * 100
  text :=
    if stopwatch.milliseconds + 1 - (stopwatch.milliseconds + 1).tdiv 100 * 100 < 10 then
      toString ((stopwatch.milliseconds + 1).tdiv 100) ++ ".0" ++
        toString (stopwatch.milliseconds + 1 - (stopwatch.milliseconds + 1).tdiv 100 * 100)
    else
      toString ((stopwatch.milliseconds + 1).tdiv 100) ++ "." ++
        toString (stopwatch.milliseconds + 1 - (stopwatch.milliseconds + 1).tdiv 100 * 100)

def next (stopwatch : Stopwatch) (occurrence : App × Event) : Stopwatch :=
  if isTick occurrence then stopwatch.tick
  else if losingStop occurrence then { stopwatch with milliseconds := 0 }
  else stopwatch

/-- The display shows a whole second other than the zeroth. -/
def ShowsWholeSecond (stopwatch : Stopwatch) : Prop :=
  1 ≤ stopwatch.seconds ∧ stopwatch.suffix = 0

/-- The text is the decimal of the two numbers shown, and these are the counter's, unless a miss
set the counter back under a display of no whole second. -/
structure Sound (stopwatch : Stopwatch) : Prop where
  nonneg : 0 ≤ stopwatch.milliseconds
  text : ∃ whole fraction : ℕ, stopwatch.seconds = whole ∧ stopwatch.suffix = fraction ∧
    fraction < 100 ∧ stopwatch.text = fixedPoint 2 whole fraction
  shown : stopwatch.seconds = stopwatch.milliseconds / 100 ∧
      stopwatch.suffix = stopwatch.milliseconds % 100 ∨
    stopwatch.milliseconds = 0 ∧ ¬stopwatch.ShowsWholeSecond

variable {stopwatch : Stopwatch}

/-- The two branches of `display` write one two-digit fraction. -/
theorem text_eq_fixedPoint (whole fraction : ℕ) (small : fraction < 100) :
    (if (fraction : ℤ) < 10 then toString (whole : ℤ) ++ ".0" ++ toString (fraction : ℤ)
      else toString (whole : ℤ) ++ "." ++ toString (fraction : ℤ)) =
      fixedPoint 2 whole fraction := by
  have digits (number : ℕ) : (toString (number : ℤ)).toList = Nat.toDigits 10 number :=
    Nat.toList_repr
  apply String.toList_inj.mp
  rw [toList_fixedPoint]
  by_cases oneDigit : fraction < 10
  · have isOne : (fraction : ℤ) < 10 := by omega
    have padding : padded 2 fraction = '0' :: Nat.toDigits 10 fraction := by
      rw [← padded_one]
      exact padded_succ (by decide) oneDigit
    simp only [isOne, if_true, padding, String.toList_append, digits]
    simp
  · have isTwo : ¬(fraction : ℤ) < 10 := by omega
    have padding : padded 2 fraction = Nat.toDigits 10 fraction :=
      padded_of_le (by decide) (not_lt.mp oneDigit)
    simp only [isTwo, if_false, padding, String.toList_append, digits]
    simp

theorem Sound.tick (sound : stopwatch.Sound) : stopwatch.tick.Sound := by
  have nonneg := sound.nonneg
  rcases Int.eq_ofNat_of_zero_le (by omega : 0 ≤ stopwatch.milliseconds + 1) with ⟨ticks, isTicks⟩
  have whole : (stopwatch.milliseconds + 1).tdiv 100 = (ticks / 100 : ℕ) := by
    rw [isTicks]
    rfl
  have fraction : stopwatch.milliseconds + 1 - (ticks / 100 : ℕ) * 100 = (ticks % 100 : ℕ) := by
    omega
  have small : ticks % 100 < 100 := Nat.mod_lt _ (by decide)
  refine ⟨?_, ?_, ?_⟩
  · simp only [Stopwatch.tick]
    omega
  · refine ⟨ticks / 100, ticks % 100, whole, ?_, small, ?_⟩
    · simp only [Stopwatch.tick, whole, fraction]
    · simp only [Stopwatch.tick, whole, fraction]
      exact text_eq_fixedPoint _ _ small
  · left
    simp only [Stopwatch.tick, whole, fraction]
    omega

/-- A miss leaves a stale display, but not one of a whole second. -/
theorem Sound.miss (sound : stopwatch.Sound) (missed : ¬stopwatch.ShowsWholeSecond) :
    ({ stopwatch with milliseconds := 0 } : Stopwatch).Sound where
  nonneg := le_refl _
  text := sound.text
  shown := Or.inr ⟨rfl, missed⟩

theorem Sound.showsWholeSecond_iff (sound : stopwatch.Sound) :
    stopwatch.ShowsWholeSecond ↔ 0 < stopwatch.milliseconds ∧ 100 ∣ stopwatch.milliseconds := by
  have nonneg := sound.nonneg
  rcases sound.shown with ⟨seconds, suffix⟩ | ⟨zero, notWhole⟩
  · simp only [ShowsWholeSecond, seconds, suffix]
    omega
  · refine ⟨fun whole => absurd whole notWhole, ?_⟩
    rintro ⟨positive, _⟩
    omega

theorem Sound.reads_iff (sound : stopwatch.Sound) :
    (∃ whole, 1 ≤ whole ∧ readFixedPoint 2 stopwatch.text = some (whole, 0)) ↔
      stopwatch.ShowsWholeSecond := by
  rcases sound.text with ⟨whole, fraction, seconds, suffix, small, text⟩
  rw [ShowsWholeSecond, seconds, suffix, text,
    readFixedPoint_fixedPoint (by decide) (show fraction < 10 ^ 2 from small)]
  constructor
  · rintro ⟨read, atLeast, same⟩
    simp only [Option.some.injEq, Prod.mk.injEq] at same
    omega
  · rintro ⟨atLeast, zero⟩
    have noFraction : fraction = 0 := by omega
    refine ⟨whole, by omega, ?_⟩
    rw [noFraction]

end Stopwatch

namespace ViewController

variable {vc : ViewController}

def stopwatch (vc : ViewController) : Stopwatch where
  milliseconds := vc.milliseconds
  seconds := vc.seconds
  suffix := vc.suffix
  text := vc.labelTimer.text

theorem stopWins_iff : vc.stopWins = true ↔ vc.stopwatch.ShowsWholeSecond := by
  simp [stopWins, Stopwatch.ShowsWholeSecond, stopwatch]

theorem stopwatch_fire {timer : Timer TimerBlock} (live : timer.block ≠ .none) :
    (vc.fire timer).stopwatch = vc.stopwatch.tick := by
  rcases vc.fire_of_live live with ⟨count, circle, ticked⟩
  rw [ticked, incrementMiliseconds_eq]
  simp [stopwatch, Stopwatch.tick, apply_ite]

theorem stopwatch_timerStops {occurrence : App × Event}
    (stops : roundStopped occurrence = some vc) :
    vc.timerStops.stopwatch =
      if losingStop occurrence then { vc.stopwatch with milliseconds := 0 } else vc.stopwatch := by
  simp only [losingStop, stops, Option.any_some]
  rcases vc.timerStops_cases with ⟨wins, ended⟩ | ⟨misses, _, ended⟩ | ⟨misses, _, ended⟩
  · rw [ended, wins, stopWon_eq, endRound_eq]
    rfl
  · rw [ended, misses, endRound_eq]
    rfl
  · rw [ended, misses, scoreLost_eq, endRound_eq]
    rfl

end ViewController

section Moves

variable {app : App} {event : Event} {vc after : ViewController}

theorem Stopwatch.next_of_quiet (stopwatch : Stopwatch) {occurrence : App × Event}
    (quiet : roundStopped occurrence = none) (noTick : isTick occurrence = false) :
    stopwatch.next occurrence = stopwatch := by
  simp [Stopwatch.next, losingStop, quiet, noTick]

theorem Move.stopwatch (move : Move app event vc after)
    (live : ∀ timer ∈ vc.runLoop.timers, timer.block ≠ .none) :
    after.stopwatch = vc.stopwatch.next (app, event) := by
  cases move with
  | start vc stopped =>
      rcases vc.start_eq stopped with ⟨circle, started⟩
      rw [Stopwatch.next_of_quiet _ (roundStopped_startStop_of_stopped stopped) rfl, started,
        ViewController.timerRuns_eq]
      rfl
  | stop vc running =>
      rcases vc.stop_eq running with ⟨circle, ended⟩
      rw [ended]
      exact ViewController.stopwatch_timerStops (roundStopped_startStop running)
  | ice vc =>
      rw [ViewController.buttonIceTapped_eq]
      rfl
  | green vc =>
      rw [ViewController.buttonGreenTapped_eq]
      rfl
  | shopStop vc running =>
      rw [ViewController.buttonShop_of_running vc running]
      exact ViewController.stopwatch_timerStops (roundStopped_buttonShop running)
  | tick app vc timer scheduled => exact ViewController.stopwatch_fire (live timer scheduled)
  | appear app vc event appears =>
      have quiet := quiet_of_appears app appears
      rcases vc.setupUserDefaultSetLabel_loads with ⟨loading, written, _⟩
      rw [Stopwatch.next_of_quiet _ quiet.1 quiet.2.2.2.1, ViewController.viewDidAppear, written]
      rfl
  | openShop vc stopped =>
      rw [Stopwatch.next_of_quiet _ (roundStopped_buttonShop_of_stopped stopped) rfl]
  | childAdded vc shop snapshot => rfl
  | select vc shop row => rfl

end Moves

namespace App

variable {sort : SortRoutine PowerUp} {device : Device} {history : History App Event} {app : App}
  {vc : ViewController}

theorem stopwatch_launch (device : Device) :
    (ViewController.launch device).stopwatch = ⟨0, 0, 0, "0.00"⟩ := by
  rcases ViewController.launch_loads device with ⟨loading, written, _⟩
  rw [written]
  rfl

theorem sound_launch (device : Device) : (ViewController.launch device).stopwatch.Sound := by
  have text : "0.00" = fixedPoint 2 0 0 := by decide +kernel
  rw [stopwatch_launch]
  exact ⟨le_refl _, ⟨0, 0, rfl, rfl, by decide, text⟩, Or.inl ⟨rfl, rfl⟩⟩

/-- An occurrence keeps the stopwatch sound: a miss was not at a whole second. -/
theorem sound_next {event : Event} (shown : app.viewController = some vc)
    (sound : vc.stopwatch.Sound) : (vc.stopwatch.next (app, event)).Sound := by
  cases ticks : isTick (app, event) with
  | true =>
      simp only [Stopwatch.next, ticks, if_true]
      exact sound.tick
  | false =>
      cases missed : losingStop (app, event) with
      | true =>
          simp only [Stopwatch.next, ticks, missed, if_true, Bool.false_eq_true, if_false]
          rcases (Option.any_eq_true _ _).mp missed with ⟨stopped, stops, loses⟩
          have same := (shown_of_roundStopped stops).1
          rw [shown] at same
          cases same
          apply sound.miss
          rw [← ViewController.stopWins_iff]
          simpa using loses
      | false =>
          simp only [Stopwatch.next, ticks, missed, Bool.false_eq_true, if_false]
          exact sound

/-- In a run every timer is live, so a move does to the stopwatch what its occurrence does. -/
theorem stopwatch_of_move (run : Run (uikit sort) (firstLaunch device) history app)
    (current : app.viewController = some vc) {event : Event} {after : ViewController}
    (move : Move app event vc after) : after.stopwatch = vc.stopwatch.next (app, event) := by
  apply move.stopwatch
  intro timer scheduled
  exact (ticks_of_run run current timer scheduled).2

theorem milliseconds_of_move (run : Run (uikit sort) (firstLaunch device) history app)
    (current : app.viewController = some vc) {event : Event} {after : ViewController}
    (move : Move app event vc after) :
    after.milliseconds = (vc.stopwatch.next (app, event)).milliseconds :=
  congrArg Stopwatch.milliseconds (stopwatch_of_move run current move)

theorem sound_of_run (run : Run (uikit sort) (firstLaunch device) history app)
    (shown : app.viewController = some vc) : vc.stopwatch.Sound := by
  apply controllerAlways (motive := fun vc => vc.stopwatch.Sound) run shown (fun step => step.2)
  · exact sound_launch
  · intro history app event vc after run current sound move
    rw [stopwatch_of_move run current move]
    exact sound_next current sound

theorem milliseconds_of_run (run : Run (uikit sort) (firstLaunch device) history app)
    (shown : app.viewController = some vc) :
    vc.milliseconds = (since resetsStopwatch history).countP isTick := by
  apply controllerMeter ViewController.milliseconds resetsStopwatch isTick run shown
    (fun step => step.2)
  · intro device
    exact congrArg Stopwatch.milliseconds (stopwatch_launch device)
  · intro device
    rfl
  intro history state event next vc after run step current move
  rw [milliseconds_of_move run current move, resetsStopwatch, move.not_isLaunch, Bool.false_or,
    Stopwatch.next]
  cases ticks : isTick (state, event) with
  | true =>
      have noMiss : losingStop (state, event) = false := by
        simp [losingStop, roundStopped_of_isTick ticks]
      simp [noMiss, Stopwatch.tick, ViewController.stopwatch]
  | false =>
      cases missed : losingStop (state, event) with
      | true => simp
      | false => simp [ViewController.stopwatch]

/-- A stop leaves the counter at a whole second: where it won, or at 0. -/
theorem dvd_of_stop {event : Event} (sound : vc.stopwatch.Sound)
    (stops : roundStopped (app, event) = some vc) :
    100 ∣ (vc.stopwatch.next (app, event)).milliseconds := by
  have noTick : isTick (app, event) = false := isTick_of_stop stops
  simp only [Stopwatch.next, noTick, Bool.false_eq_true, if_false]
  cases wins : vc.stopWins with
  | true =>
      have noMiss : losingStop (app, event) = false := by simp [losingStop, stops, wins]
      rw [noMiss]
      exact (sound.showsWholeSecond_iff.mp (ViewController.stopWins_iff.mp wins)).2
  | false =>
      have missed : losingStop (app, event) = true := by simp [losingStop, stops, wins]
      rw [missed]
      exact Int.dvd_zero 100

/-- Before the first tick of a round, and between rounds, the counter is at a whole second. -/
theorem dvd_milliseconds (run : Run (uikit sort) (firstLaunch device) history app)
    (shown : app.viewController = some vc)
    (untouched : vc.isTimerRunning = false ∨ (since startsRound history).countP isTick = 0) :
    100 ∣ vc.milliseconds := by
  have launched (device : Device) : 100 ∣ (ViewController.launch device).milliseconds := by
    have zero : (ViewController.launch device).milliseconds = 0 :=
      congrArg Stopwatch.milliseconds (stopwatch_launch device)
    rw [zero]
    exact Int.dvd_zero 100
  apply controllerInvariant (motive := fun history vc =>
    (vc.isTimerRunning = false ∨ (since startsRound history).countP isTick = 0) →
      100 ∣ vc.milliseconds) run shown (fun step => step.2) _ _ _ untouched
  · intro _
    exact launched device
  · intro _ device _
    exact launched device
  intro history app event next vc after run step current whole move untouched
  have sound := sound_of_run run current
  have counter := milliseconds_of_move run current move
  -- the handlers which neither stop nor start a round nor move the counter
  have aside (quiet : roundStopped (app, event) = none) (noTick : isTick (app, event) = false)
      (noStart : startsRound (app, event) = false)
      (same : after.isTimerRunning = vc.isTimerRunning) : 100 ∣ after.milliseconds := by
    rw [since_cons_of_not_reset noStart, List.countP_cons_of_neg (by simp [noTick]), same]
      at untouched
    rw [counter, Stopwatch.next_of_quiet _ quiet noTick]
    exact whole untouched
  cases move with
  | start vc stopped =>
      rw [counter, Stopwatch.next_of_quiet _ (roundStopped_startStop_of_stopped stopped) rfl]
      exact whole (Or.inl stopped)
  | stop vc running =>
      rw [counter]
      exact dvd_of_stop sound (roundStopped_startStop running)
  | shopStop vc running =>
      rw [counter]
      exact dvd_of_stop sound (roundStopped_buttonShop running)
  | tick app vc timer scheduled =>
      have live := ticks_of_run run current timer scheduled
      rcases vc.fire_of_live live.2 with ⟨count, circle, ticked⟩
      have running : (vc.fire timer).isTimerRunning = true := by
        rw [ticked]
        exact live.1
      rw [running, since_cons_of_not_reset (startsRound_fire app timer),
        List.countP_cons_of_pos (by rfl)] at untouched
      simp at untouched
  | ice vc => exact aside rfl rfl rfl (by rw [ViewController.buttonIceTapped_eq])
  | green vc => exact aside rfl rfl rfl (by rw [ViewController.buttonGreenTapped_eq])
  | appear app vc event appears =>
      have quiet := quiet_of_appears app appears
      rcases vc.setupUserDefaultSetLabel_loads with ⟨loading, written, _⟩
      apply aside quiet.1 quiet.2.2.2.1 quiet.2.1
      rw [ViewController.viewDidAppear, written]
      rfl
  | openShop vc stopped =>
      exact aside (roundStopped_buttonShop_of_stopped stopped) rfl rfl rfl
  | childAdded vc shop snapshot => exact aside rfl rfl rfl rfl
  | select vc shop row => exact aside rfl rfl rfl rfl

/-- The verdict, the label and the counter agree in every state reached. -/
theorem stopwatch_agrees (run : Run (uikit sort) (firstLaunch device) history app)
    (shown : app.viewController = some vc) :
    vc.milliseconds = (since resetsStopwatch history).countP isTick ∧
      (vc.isTimerRunning = false → 100 ∣ vc.milliseconds) ∧
      (∃ whole fraction : ℕ, vc.seconds = whole ∧ vc.suffix = fraction ∧ fraction < 100 ∧
        vc.labelTimer.text = fixedPoint 2 whole fraction) ∧
      [vc.endRound.stopWins = true,
        ∃ whole, 1 ≤ whole ∧ readFixedPoint 2 vc.labelTimer.text = some (whole, 0),
        0 < vc.milliseconds ∧ 100 ∣ vc.milliseconds].TFAE := by
  have sound := sound_of_run run shown
  refine ⟨milliseconds_of_run run shown, ?_, sound.text, ?_⟩
  · intro stopped
    exact dvd_milliseconds run shown (Or.inl stopped)
  rw [ViewController.stopWins_endRound]
  tfae_have 1 ↔ 2 := ViewController.stopWins_iff.trans sound.reads_iff.symm
  tfae_have 1 ↔ 3 := ViewController.stopWins_iff.trans sound.showsWholeSecond_iff
  tfae_finish

/-- The 100th tick of a fresh installation: the label reads 1.00. -/
theorem stopwatch_agrees_oneSecond :
    ∃ (history : History App Event) (app : App) (vc : ViewController),
      Run (uikit .insertion) (firstLaunch .fresh) history app ∧ app.viewController = some vc ∧
        vc.milliseconds = 100 ∧ readFixedPoint 2 vc.labelTimer.text = some (1, 0) := by
  have script := exists_uikit_run .insertion (firstLaunch .fresh) roundOfOneSecond.dropLast
    (fun history app => (since resetsStopwatch history).countP isTick == 100 &&
      app.viewController.any fun vc => vc.labelTimer.text == "1.00") (by decide +kernel)
  rcases script with ⟨history, app, run, tested⟩
  simp only [Bool.and_eq_true, beq_iff_eq] at tested
  rcases tested with ⟨hundred, label⟩
  rcases (Option.any_eq_true _ _).mp label with ⟨vc, shown, text⟩
  have agrees := stopwatch_agrees run shown
  rw [hundred] at agrees
  refine ⟨history, app, vc, run, shown, agrees.1, ?_⟩
  have same : "1.00" = fixedPoint 2 1 0 := by decide +kernel
  rw [beq_iff_eq.mp text, same]
  exact readFixedPoint_fixedPoint (by decide) (by decide)

/-- No win is free: a win has a tick of its own round before it, and comes at a later time than
every win before it since the last miss or launch. -/
def NoFreeWin (history : History App Event) : Prop :=
  ∀ stop older, stop :: older <:+ history →
    ∀ vc, roundStopped stop = some vc → vc.stopWins = true →
      0 < (since startsRound older).countP isTick ∧
        ∀ earlier ∈ since resetsStopwatch older, ∀ won, roundStopped earlier = some won →
          won.stopWins = true → won.milliseconds < vc.milliseconds

/-- No round is stopped before its first tick unless the counter is at 0. -/
def StopsTicked (history : History App Event) : Prop :=
  ∀ stop older, stop :: older <:+ history →
    ∀ vc, roundStopped stop = some vc →
      0 < (since startsRound older).countP isTick ∨ vc.milliseconds = 0

/-- Since the last miss or launch, wins come at times the counter does not fall below again, and
which it has passed once the present round has ticked. -/
theorem wins_before (run : Run (uikit sort) (firstLaunch device) history app)
    (shown : app.viewController = some vc) :
    ∀ earlier ∈ since resetsStopwatch history, ∀ won, roundStopped earlier = some won →
      won.milliseconds ≤ vc.milliseconds ∧
        (vc.isTimerRunning = true → 0 < (since startsRound history).countP isTick →
          won.milliseconds < vc.milliseconds) := by
  apply controllerInvariant (motive := fun history vc =>
    ∀ earlier ∈ since resetsStopwatch history, ∀ won, roundStopped earlier = some won →
      won.milliseconds ≤ vc.milliseconds ∧
        (vc.isTimerRunning = true → 0 < (since startsRound history).countP isTick →
          won.milliseconds < vc.milliseconds)) run shown (fun step => step.2)
  · intro earlier occurred
    cases occurred
  · intro _ _ earlier occurred
    cases occurred
  intro history app event next vc after run step current passed move earlier occurred won stops
  have counter := milliseconds_of_move run current move
  -- a win is either the present occurrence or was passed before
  have cases : losingStop (app, event) = false ∧ (earlier = (app, event) ∨
      won.milliseconds ≤ vc.milliseconds ∧ (vc.isTimerRunning = true →
        0 < (since startsRound history).countP isTick → won.milliseconds < vc.milliseconds)) := by
    rw [since_cons] at occurred
    split at occurred
    · cases occurred
    · next noReset =>
        simp only [resetsStopwatch, Bool.or_eq_true, not_or, Bool.not_eq_true] at noReset
        refine ⟨noReset.2, ?_⟩
        rcases List.mem_cons.mp occurred with now | before
        · exact Or.inl now
        · exact Or.inr (passed earlier before won stops)
  rcases cases with ⟨noMiss, isNow | ⟨atMost, strict⟩⟩
  · -- the win made now: the counter stays where it is, and no round runs
    subst isNow
    have same := (shown_of_roundStopped stops).1
    rw [current] at same
    cases same
    have noTick : isTick (app, event) = false := isTick_of_stop stops
    have stays : after.milliseconds = vc.milliseconds := by
      rw [counter]
      simp [Stopwatch.next, noTick, noMiss, ViewController.stopwatch]
    have noStart : startsRound (app, event) = false := startsRound_of_stop stops
    rw [stays, move.isTimerRunning, noStart, stops]
    refine ⟨le_refl _, ?_⟩
    intro running
    cases running
  cases ticks : isTick (app, event) with
  | true =>
      have advances : after.milliseconds = vc.milliseconds + 1 := by
        rw [counter]
        simp [Stopwatch.next, ticks, Stopwatch.tick, ViewController.stopwatch]
      omega
  | false =>
      have stays : after.milliseconds = vc.milliseconds := by
        rw [counter]
        simp [Stopwatch.next, ticks, noMiss, ViewController.stopwatch]
      rw [stays]
      refine ⟨atMost, ?_⟩
      intro running ticked
      rw [move.isTimerRunning] at running
      cases starts : startsRound (app, event) with
      | true => simp [since_cons_of_reset starts] at ticked
      | false =>
          rw [since_cons_of_not_reset starts, List.countP_cons_of_neg (by simp [ticks])] at ticked
          apply strict _ ticked
          cases quiet : roundStopped (app, event) with
          | none => simpa [starts, quiet] using running
          | some stopped => simp [starts, quiet] at running

/-- No win is free exactly when every round stopped at a counter above 0 has ticked. -/
theorem noFreeWin_iff_stopsTicked (run : Run (uikit sort) (firstLaunch device) history app) :
    NoFreeWin history ↔ StopsTicked history := by
  constructor
  · rintro fair ⟨before, event⟩ older cut vc stops
    have reached := (run.before cut).1
    have shown := (shown_of_roundStopped stops).1
    have sound := sound_of_run reached shown
    by_cases ticked : 0 < (since startsRound older).countP isTick
    · exact Or.inl ticked
    right
    have whole := dvd_milliseconds reached shown (Or.inr (by omega))
    have nonneg : 0 ≤ vc.milliseconds := sound.nonneg
    by_contra notZero
    have positive : 0 < vc.milliseconds := by omega
    have wins : vc.stopWins = true := by
      rw [ViewController.stopWins_iff, sound.showsWholeSecond_iff]
      exact ⟨positive, whole⟩
    exact ticked (fair (before, event) older cut vc stops wins).1
  · rintro ticked ⟨before, event⟩ older cut vc stops wins
    have reached := (run.before cut).1
    rcases shown_of_roundStopped stops with ⟨shown, running⟩
    have sound := sound_of_run reached shown
    have positive : 0 < vc.milliseconds :=
      (sound.showsWholeSecond_iff.mp (ViewController.stopWins_iff.mp wins)).1
    have ticks : 0 < (since startsRound older).countP isTick := by
      rcases ticked (before, event) older cut vc stops with ticks | zero
      · exact ticks
      · omega
    refine ⟨ticks, ?_⟩
    intro earlier occurred won wonStops _
    exact (wins_before reached shown earlier occurred won wonStops).2 running ticks

/-- One round of exactly one second: its win is not free. -/
theorem noFreeWin_roundOfOneSecond :
    ∃ (history : History App Event) (app : App),
      Run (uikit .insertion) (firstLaunch .fresh) history app ∧
        history.countP winningStop = 1 ∧ NoFreeWin history := by
  have script := exists_uikit_run .insertion (firstLaunch .fresh) roundOfOneSecond
    (fun history _ =>
      match history with
      | stop :: older => history.countP winningStop == 1 &&
          decide (0 < (since startsRound older).countP isTick) &&
          older.all fun past => !isStop past
      | [] => false)
    (by decide +kernel)
  rcases script with ⟨history, app, run, tested⟩
  split at tested
  · next stop before =>
      simp only [Bool.and_eq_true, beq_iff_eq, decide_eq_true_iff] at tested
      rcases tested with ⟨⟨one, ticks⟩, only⟩
      refine ⟨_, app, run, one, ?_⟩
      apply (noFreeWin_iff_stopsTicked run).mpr
      intro last older cut vc stops
      rcases List.suffix_cons_iff.mp cut with whole | earlier
      · cases whole
        exact Or.inl ticks
      · have noStop := List.all_eq_true.mp only _ (earlier.subset (List.mem_cons_self ..))
        simp [isStop, stops] at noStop
  · cases tested

/-- After a round won at 1.00, a second one is started and stopped at once: it wins as well. -/
theorem not_noFreeWin_twoStops :
    ∃ (history : History App Event) (app : App),
      Run (uikit .insertion) (firstLaunch .fresh) history app ∧ ¬NoFreeWin history := by
  have script := exists_uikit_run .insertion (firstLaunch .fresh)
    (roundOfOneSecond ++ [.startStopButtonTapped, .startStopButtonTapped])
    (fun history _ =>
      match history with
      | stop :: older => winningStop stop && (since startsRound older).countP isTick == 0
      | [] => false)
    (by decide +kernel)
  rcases script with ⟨history, app, run, tested⟩
  refine ⟨history, app, run, ?_⟩
  intro fair
  split at tested
  · next stop older =>
      simp only [Bool.and_eq_true, beq_iff_eq] at tested
      rcases tested with ⟨wins, untouched⟩
      rcases (Option.any_eq_true _ _).mp wins with ⟨vc, stops, won⟩
      have ticked := (fair stop older (List.suffix_refl _) vc stops won).1
      omega
  · cases tested

end App

end OneSecond
