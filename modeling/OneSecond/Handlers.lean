import OneSecond.ViewController

/-!
# What the handlers of the main screen do

One equation for every handler and every way it can go, giving the record it
leaves as a single update of the record it was called on.  Later modules read
the fields they care about off these equations and do not unfold a handler.
-/

namespace OneSecond

namespace ViewController

variable (vc : ViewController)

theorem setScore_eq (score : ℤ) :
    vc.setScore score =
      { vc with
        score
        buttonScore := vc.buttonScore.setTitle ("Score: " ++ toString score) } := rfl

theorem setBest_eq (best : ℤ) :
    vc.setBest best =
      { vc with
        best
        buttonBest := vc.buttonBest.setTitle ("Best: " ++ toString best) } := rfl

/-- The value read back is the one just written, so the observer assigns nothing new. -/
theorem setAcornNumber_eq (acornNumber : ℤ) :
    vc.setAcornNumber acornNumber =
      { vc with
        acornNumber
        userDefault := vc.userDefault.set acornNumber .acorn
        labelAcorn := ⟨toString acornNumber⟩ } := by
  simp [setAcornNumber]

theorem setGreenNumber_eq (greenNumber : ℤ) :
    vc.setGreenNumber greenNumber =
      { vc with
        greenNumber
        userDefault := vc.userDefault.set greenNumber .green
        buttonViewGreen := vc.buttonViewGreen.setTitle (toString greenNumber) } := by
  simp [setGreenNumber]

theorem setIceNumber_eq (iceNumber : ℤ) :
    vc.setIceNumber iceNumber =
      { vc with
        iceNumber
        userDefault := vc.userDefault.set iceNumber .ice
        buttonViewIce := vc.buttonViewIce.setTitle (toString iceNumber) } := by
  simp [setIceNumber]

theorem endRound_eq :
    vc.endRound =
      { vc with
        isTimerRunning := false
        isTimerRunningIce := false
        buttonViewIce := { vc.buttonViewIce with
          isHidden := true, isUserInteractionEnabled := false }
        buttonViewGreen := { vc.buttonViewGreen with
          isHidden := true, isUserInteractionEnabled := false }
        buttonShopOutlet := { vc.buttonShopOutlet with isHidden := false }
        durationRotate := 0.9
        imageWoodRotation := none
        runLoop := (vc.runLoop.invalidate vc.timeIntervalIce).invalidate vc.timer
        circleProgress := vc.circleProgress.pause
        startStopButton := vc.startStopButton.setTitle "Start" } := by
  dsimp only [endRound, setIsTimerRunning, showHideButtons, invalidateTimeIntervalIce,
    stopAnimationForView, invalidateTimer, setUpTimer, rotate]
  rfl

theorem stopWon_eq :
    vc.stopWon =
      { vc with
        score := vc.score + 1
        buttonScore := vc.buttonScore.setTitle ("Score: " ++ toString (vc.score + 1))
        acornNumber := vc.acornNumber + 1
        labelAcorn := ⟨toString (vc.acornNumber + 1)⟩
        userDefault := (vc.userDefault.set (vc.acornNumber + 1) .acorn).set vc.best .best
        buttonBest := vc.buttonBest.setTitle ("Best: " ++ toString vc.best)
        circleProgress := vc.circleProgress.fullColorWin } := by
  simp [stopWon, setScore_eq, setAcornNumber_eq, setBest_eq]

theorem scoreLost_eq :
    vc.scoreLost =
      { vc with
        score := 0
        buttonScore := vc.buttonScore.setTitle ("Score: " ++ toString (0 : ℤ))
        best := max vc.best vc.score
        buttonBest := if vc.score > vc.best
          then vc.buttonBest.setTitle ("Best: " ++ toString vc.score) else vc.buttonBest
        userDefault := if vc.score > vc.best
          then vc.userDefault.set vc.score .best else vc.userDefault
        confettiStarted := if vc.score > vc.best then true else vc.confettiStarted
        circleProgress := vc.circleProgress.resetColor } := by
  by_cases better : vc.score > vc.best
  · have larger : max vc.best vc.score = vc.score := by omega
    simp [scoreLost, newBest, setScore_eq, setBest_eq, better, larger]
  · have larger : max vc.best vc.score = vc.best := by omega
    simp [scoreLost, setScore_eq, better, larger]

/-- Ending the round does not touch what the verdict reads. -/
theorem stopWins_endRound : vc.endRound.stopWins = vc.stopWins := by
  rw [endRound_eq]
  rfl

theorem timerStops_of_wins (wins : vc.stopWins = true) :
    vc.timerStops = vc.endRound.stopWon := by
  simp [timerStops, stopWins_endRound, wins]

theorem timerStops_of_shielded (misses : vc.stopWins = false) (shield : vc.greenActiveted = true) :
    vc.timerStops = { vc.endRound with count := 0, milliseconds := 0 } := by
  have shieldKept : vc.endRound.greenActiveted = true := by rw [endRound_eq, shield]
  simp [timerStops, stopWins_endRound, misses, stopMissed, shieldKept]

theorem timerStops_of_exposed (misses : vc.stopWins = false) (exposed : vc.greenActiveted = false) :
    vc.timerStops = { vc.endRound.scoreLost with count := 0, milliseconds := 0 } := by
  have noShield : vc.endRound.greenActiveted = false := by rw [endRound_eq, exposed]
  simp [timerStops, stopWins_endRound, misses, stopMissed, noShield, scoreLost_eq]

/-- The three ways a stop can go: a win, a miss under the shield, and a miss which loses the
score. -/
theorem timerStops_cases :
    (vc.stopWins = true ∧ vc.timerStops = vc.endRound.stopWon) ∨
      (vc.stopWins = false ∧ vc.greenActiveted = true ∧
        vc.timerStops = { vc.endRound with count := 0, milliseconds := 0 }) ∨
      (vc.stopWins = false ∧ vc.greenActiveted = false ∧
        vc.timerStops = { vc.endRound.scoreLost with count := 0, milliseconds := 0 }) := by
  cases verdict : vc.stopWins with
  | true =>
      left
      exact ⟨rfl, timerStops_of_wins vc verdict⟩
  | false =>
      right
      cases shield : vc.greenActiveted with
      | true => exact Or.inl ⟨rfl, rfl, timerStops_of_shielded vc verdict shield⟩
      | false => exact Or.inr ⟨rfl, rfl, timerStops_of_exposed vc verdict shield⟩

theorem timerRuns_eq :
    vc.timerRuns =
      { vc with
        reported := vc.best :: vc.reported
        confettiStarted := false
        circleProgress :=
          if vc.keepsShield then vc.circleProgress.greenPowerUp else vc.circleProgress.resetColor
        greenActiveted := if vc.keepsShield then vc.greenActiveted else false
        count := 0
        isTimerRunningIce := false
        isTimerRunning := true
        overlayIsHidden := true
        startStopButton := vc.startStopButton.setTitle "Stop"
        imageWoodRotation := some vc.durationRotate
        buttonViewIce := { vc.buttonViewIce with
          isHidden := false
          isUserInteractionEnabled := if vc.iceNumber = 0 then false else true }
        buttonViewGreen := { vc.buttonViewGreen with
          isHidden := false
          isUserInteractionEnabled := if vc.greenNumber = 0 then false else true }
        buttonShopOutlet := { vc.buttonShopOutlet with isHidden := true }
        timer := ⟨vc.runLoop.created, 0.01, .incrementAndLap⟩
        runLoop := ((vc.runLoop.invalidate vc.timer).invalidate vc.timeIntervalIce).add
          ⟨vc.runLoop.created, 0.01, .incrementAndLap⟩ } := by
  simp only [timerRuns, checkBestScore, invalidateTimer, setIsTimerRunning, showHideButtons,
    shouldShowOverlayEffect, invalidateTimeIntervalIce, rotate, scheduleTimer, keepsShield,
    RunLoop.makeTimer, RunLoop.created_invalidate, Bool.not_true]
  rfl

theorem checkCirlceProgress_eq :
    vc.checkCirlceProgress =
      { vc with
        circleProgress := if vc.checkerCirlceProgress then vc.circleProgress.start
          else vc.circleProgress.pause
        checkerCirlceProgress := !vc.checkerCirlceProgress } := by
  cases checker : vc.checkerCirlceProgress with
  | true => simp [checkCirlceProgress, checker]
  | false => simp [checkCirlceProgress, checker]

theorem buttonTapped_of_running (running : vc.isTimerRunning = true) :
    vc.startStopButtonTapped = vc.checkCirlceProgress.timerStops := by
  simp [startStopButtonTapped, buttonTapped, checkCirlceProgress_eq, running]

theorem buttonTapped_of_stopped (stopped : vc.isTimerRunning = false) :
    vc.startStopButtonTapped = vc.checkCirlceProgress.timerRuns := by
  simp [startStopButtonTapped, buttonTapped, checkCirlceProgress_eq, stopped]

/-- The Stop button ends the round as `timerStops` does, but for the circle and its toggle. -/
theorem stop_eq (running : vc.isTimerRunning = true) :
    ∃ circle : CircleProgress, vc.startStopButtonTapped =
      { vc.timerStops with
        circleProgress := circle, checkerCirlceProgress := !vc.checkerCirlceProgress } := by
  have toggled := checkCirlceProgress_eq vc
  rw [buttonTapped_of_running vc running]
  cases wins : vc.stopWins with
  | true =>
      have stillWins : vc.checkCirlceProgress.stopWins = true := by rwa [toggled]
      rw [timerStops_of_wins _ stillWins, timerStops_of_wins _ wins, stopWon_eq, stopWon_eq,
        endRound_eq, endRound_eq, toggled]
      exact ⟨_, rfl⟩
  | false =>
      have stillMisses : vc.checkCirlceProgress.stopWins = false := by rwa [toggled]
      cases shield : vc.greenActiveted with
      | true =>
          have stillShielded : vc.checkCirlceProgress.greenActiveted = true := by rwa [toggled]
          rw [timerStops_of_shielded _ stillMisses stillShielded,
            timerStops_of_shielded _ wins shield, endRound_eq, endRound_eq, toggled]
          exact ⟨_, rfl⟩
      | false =>
          have stillExposed : vc.checkCirlceProgress.greenActiveted = false := by rwa [toggled]
          rw [timerStops_of_exposed _ stillMisses stillExposed, timerStops_of_exposed _ wins shield,
            scoreLost_eq, scoreLost_eq, endRound_eq, endRound_eq, toggled]
          exact ⟨_, rfl⟩

theorem start_eq (stopped : vc.isTimerRunning = false) :
    ∃ circle : CircleProgress, vc.startStopButtonTapped =
      { vc.timerRuns with
        circleProgress := circle, checkerCirlceProgress := !vc.checkerCirlceProgress } := by
  rw [buttonTapped_of_stopped vc stopped, timerRuns_eq, timerRuns_eq, checkCirlceProgress_eq]
  exact ⟨_, rfl⟩

theorem buttonIceTapped_eq :
    vc.buttonIceTapped =
      { vc with
        powerStatus := .freeze
        overlayIsHidden := false
        isTimerRunningIce := true
        timer := ⟨vc.runLoop.created, 0.15, .increment⟩
        runLoop := (vc.runLoop.invalidate vc.timer).add ⟨vc.runLoop.created, 0.15, .increment⟩
        durationRotate := 3
        imageWoodRotation := some 3
        circleProgress := vc.circleProgress.pause
        iceNumber := vc.iceNumber - 1
        userDefault := vc.userDefault.set (vc.iceNumber - 1) .ice
        buttonViewIce := { vc.buttonViewIce with
          title := toString (vc.iceNumber - 1), isUserInteractionEnabled := false } } := by
  simp [buttonIceTapped, setPowerStatus, shouldShowOverlayEffect, invalidateTimer, scheduleTimer,
    RunLoop.makeTimer, stopAnimationForView, setUpTimer, rotate,
    setIceNumber_eq, UIButton.setTitle]

theorem buttonGreenTapped_eq :
    vc.buttonGreenTapped =
      { vc with
        circleProgress := vc.circleProgress.greenPowerUp
        greenActiveted := true
        greenNumber := vc.greenNumber - 1
        userDefault := vc.userDefault.set (vc.greenNumber - 1) .green
        buttonViewGreen := { vc.buttonViewGreen with
          title := toString (vc.greenNumber - 1), isUserInteractionEnabled := false } } := by
  simp [buttonGreenTapped, setGreenNumber_eq, UIButton.setTitle]

theorem buttonShop_of_running (running : vc.isTimerRunning = true) :
    vc.buttonShop =
      { vc.timerStops with
        reported := vc.timerStops.best :: vc.timerStops.reported
        checkerCirlceProgress := !vc.timerStops.checkerCirlceProgress } := by
  simp [buttonShop, running, checkBestScore]

theorem buttonShop_of_stopped (stopped : vc.isTimerRunning = false) : vc.buttonShop = vc := by
  simp [buttonShop, stopped]

theorem incrementMiliseconds_eq :
    vc.incrementMiliseconds =
      { vc with
        milliseconds := vc.milliseconds + 1
        seconds := (vc.milliseconds + 1).tdiv 100
        suffix := vc.milliseconds + 1 - (vc.milliseconds + 1).tdiv 100 * 100
        labelTimer :=
          if vc.milliseconds + 1 - (vc.milliseconds + 1).tdiv 100 * 100 < 10 then
            ⟨toString ((vc.milliseconds + 1).tdiv 100) ++ ".0" ++
              toString (vc.milliseconds + 1 - (vc.milliseconds + 1).tdiv 100 * 100)⟩
          else
            ⟨toString ((vc.milliseconds + 1).tdiv 100) ++ "." ++
              toString (vc.milliseconds + 1 - (vc.milliseconds + 1).tdiv 100 * 100)⟩ } := by
  dsimp only [incrementMiliseconds, display]

theorem incrementAndLap_eq :
    vc.incrementAndLap =
      { vc.incrementMiliseconds with
        count := if vc.count + 1 = 101 then 1 else vc.count + 1
        circleProgress :=
          if vc.count + 1 = 101 then vc.circleProgress.start else vc.circleProgress } := by
  by_cases lap : vc.count + 1 = 101
  · simp [incrementAndLap, restartLap, incrementMiliseconds_eq, lap]
  · simp [incrementAndLap, restartLap, incrementMiliseconds_eq, lap]

theorem fire_of_live {timer : Timer TimerBlock} (live : timer.block ≠ .none) :
    ∃ (count : ℤ) (circle : CircleProgress),
      vc.fire timer = { vc.incrementMiliseconds with count, circleProgress := circle } := by
  cases block : timer.block with
  | none => exact absurd block live
  | increment =>
      exact ⟨vc.incrementMiliseconds.count, vc.incrementMiliseconds.circleProgress,
        by simp [fire, block]⟩
  | incrementAndLap => exact ⟨_, _, by simp only [fire, block]; exact incrementAndLap_eq vc⟩

/-- The circle is restarted by the fast timer, at the end of a lap, and by no other tick. -/
theorem circleProgress_fire (timer : Timer TimerBlock) :
    (vc.fire timer).circleProgress =
      if timer.block = .incrementAndLap ∧ vc.count + 1 = 101 then vc.circleProgress.start
      else vc.circleProgress := by
  cases block : timer.block with
  | none => simp [fire, block]
  | increment =>
      simp only [fire, block]
      rw [incrementMiliseconds_eq]
      simp
  | incrementAndLap =>
      simp only [fire, block]
      rw [incrementAndLap_eq]
      simp

/-- Whatever its block, a timer writes nothing but the stopwatch, the lap count and the circle. -/
theorem fire_writes (timer : Timer TimerBlock) :
    ∃ (milliseconds seconds suffix count : ℤ) (labelTimer : UILabel) (circle : CircleProgress),
      vc.fire timer =
        { vc with
          milliseconds, seconds, suffix, labelTimer, count, circleProgress := circle } := by
  by_cases live : timer.block = .none
  · refine ⟨vc.milliseconds, vc.seconds, vc.suffix, vc.count, vc.labelTimer, vc.circleProgress, ?_⟩
    simp [fire, live]
  · rcases fire_of_live vc live with ⟨count, circle, ticked⟩
    rw [ticked, incrementMiliseconds_eq]
    exact ⟨_, _, _, _, _, _, rfl⟩

@[simp]
theorem fire_userDefault (timer : Timer TimerBlock) :
    (vc.fire timer).userDefault = vc.userDefault := by
  rcases vc.fire_writes timer with ⟨_, _, _, _, _, _, written⟩
  rw [written]

/-- The first of its two kinds of call: the flag was set before. -/
theorem setupUserDefaultSetLabel_of_loaded (loaded : vc.boolCheckUserDefault = true) :
    vc.setupUserDefaultSetLabel =
      { vc with
        best := vc.userDefault.integer .best
        buttonBest := vc.buttonBest.setTitle ("Best: " ++ toString (vc.userDefault.integer .best))
        greenNumber := vc.userDefault.integer .green
        buttonViewGreen :=
          vc.buttonViewGreen.setTitle (toString (vc.userDefault.integer .green))
        iceNumber := vc.userDefault.integer .ice
        buttonViewIce := vc.buttonViewIce.setTitle (toString (vc.userDefault.integer .ice))
        acornNumber := vc.userDefault.integer .acorn
        labelAcorn := ⟨toString (vc.userDefault.integer .acorn)⟩
        userDefault := ((vc.userDefault.set (vc.userDefault.integer .green) .green).set
          (vc.userDefault.integer .ice) .ice).set (vc.userDefault.integer .acorn) .acorn } := by
  simp [setupUserDefaultSetLabel, reloadBest, reloadBalances, setBest_eq, setGreenNumber_eq,
    setIceNumber_eq, setAcornNumber_eq, loaded]

/-- What a balance of 0 is replaced by while the flag is not set. -/
def starter (balance grant : ℤ) : ℤ := if balance = 0 then grant else balance

theorem grantIce_eq :
    vc.grantIce =
      { vc with
        iceNumber := starter vc.iceNumber 5
        userDefault := if vc.iceNumber = 0 then vc.userDefault.set 5 .ice else vc.userDefault
        buttonViewIce := vc.buttonViewIce.setTitle
          (if vc.iceNumber = 0 then toString (5 : ℤ) else vc.buttonViewIce.title) } := by
  by_cases empty : vc.iceNumber = 0
  · simp [grantIce, setIceNumber_eq, starter, empty]
  · simp [grantIce, starter, empty, UIButton.setTitle]

theorem grantGreen_eq :
    vc.grantGreen =
      { vc with
        greenNumber := starter vc.greenNumber 5
        userDefault := if vc.greenNumber = 0 then vc.userDefault.set 5 .green else vc.userDefault
        buttonViewGreen := vc.buttonViewGreen.setTitle
          (if vc.greenNumber = 0 then toString (5 : ℤ) else vc.buttonViewGreen.title) } := by
  by_cases empty : vc.greenNumber = 0
  · simp [grantGreen, setGreenNumber_eq, starter, empty]
  · simp [grantGreen, starter, empty, UIButton.setTitle]

theorem grantAcorn_eq :
    vc.grantAcorn =
      { vc with
        acornNumber := starter vc.acornNumber 20
        userDefault := if vc.acornNumber = 0 then vc.userDefault.set 20 .acorn else vc.userDefault
        labelAcorn := if vc.acornNumber = 0 then ⟨toString (20 : ℤ)⟩ else vc.labelAcorn } := by
  by_cases empty : vc.acornNumber = 0
  · simp [grantAcorn, setAcornNumber_eq, starter, empty]
  · simp [grantAcorn, starter, empty]

@[simp]
theorem integer_grant (userDefault : UserDefaults) (balance grant : ℤ) (key other : DefaultsKey) :
    (if balance = 0 then userDefault.set grant key else userDefault).integer other =
      if other = key then if balance = 0 then grant else userDefault.integer other
      else userDefault.integer other := by
  by_cases empty : balance = 0
  · simp [empty]
  · simp [empty]

theorem grantStarters_best : vc.grantStarters.userDefault.integer .best =
    vc.userDefault.integer .best := by
  simp [grantStarters, grantIce_eq, grantGreen_eq, grantAcorn_eq]

/-- What loading writes besides the best score: the flag, the balances and the texts showing
them, and the store. -/
structure Loading where
  boolCheckUserDefault : Bool
  acornNumber : ℤ
  greenNumber : ℤ
  iceNumber : ℤ
  acornText : String
  greenTitle : String
  iceTitle : String
  userDefault : UserDefaults

def load (loading : Loading) : ViewController :=
  { vc with
    best := vc.userDefault.integer .best
    buttonBest := vc.buttonBest.setTitle ("Best: " ++ toString (vc.userDefault.integer .best))
    boolCheckUserDefault := loading.boolCheckUserDefault
    acornNumber := loading.acornNumber
    labelAcorn := ⟨loading.acornText⟩
    greenNumber := loading.greenNumber
    buttonViewGreen := vc.buttonViewGreen.setTitle loading.greenTitle
    iceNumber := loading.iceNumber
    buttonViewIce := vc.buttonViewIce.setTitle loading.iceTitle
    userDefault := loading.userDefault }

/-- On either of its branches `setupUserDefaultSetLabel` is a loading which leaves the stored best
score alone. -/
theorem setupUserDefaultSetLabel_loads :
    ∃ loading : Loading, vc.setupUserDefaultSetLabel = vc.load loading ∧
      loading.userDefault.integer .best = vc.userDefault.integer .best := by
  cases flag : vc.boolCheckUserDefault with
  | true =>
      have best : vc.setupUserDefaultSetLabel.userDefault.integer .best =
          vc.userDefault.integer .best := by
        simp [setupUserDefaultSetLabel_of_loaded vc flag]
      rw [setupUserDefaultSetLabel_of_loaded vc flag] at best ⊢
      exact ⟨⟨vc.boolCheckUserDefault, _, _, _, _, _, _, _⟩, rfl, best⟩
  | false =>
      have starters : vc.setupUserDefaultSetLabel = vc.reloadBest.grantStarters := by
        simp [setupUserDefaultSetLabel, reloadBest, setBest_eq, flag]
      have best := grantStarters_best vc.reloadBest
      rw [starters]
      simp only [grantStarters, grantIce_eq, grantGreen_eq, grantAcorn_eq] at best ⊢
      exact ⟨⟨_, _, _, _, _, _, _, _⟩, rfl, best⟩

theorem launch_loads (device : Device) :
    ∃ loading : Loading,
      launch device =
        (((instantiate device).shouldShowOverlayEffect true).load loading).showHideButtons ∧
      loading.userDefault.integer .best = device.userDefault.integer .best := by
  rcases setupUserDefaultSetLabel_loads ((instantiate device).shouldShowOverlayEffect true) with
    ⟨loading, loads, best⟩
  refine ⟨loading, ?_, best⟩
  rw [launch, viewDidLoad, loads]

theorem isTimerRunning_launch (device : Device) : (launch device).isTimerRunning = false := by
  rcases launch_loads device with ⟨loading, written, _⟩
  rw [written]
  rfl

end ViewController

end OneSecond
