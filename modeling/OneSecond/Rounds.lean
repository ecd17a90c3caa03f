import OneSecond.Currency

/-!
# Round modes

A player sees three modes: stopped, running, and running on the slow timer after
a tap on Ice.  `Mode` is that machine.  The controller has no such variable; it
spreads the mode over its flags, its timer and the run loop, the circle, the
rotating wood and the buttons, which its handlers restore piecemeal.

`Panel` collects those fields, `Panel.Shows` says which mode they spell, and
`shows_after` is the simulation: in every run the panel shows the mode which
the abstract machine reaches on the same events.
-/

namespace OneSecond

open Runs Sorting

inductive Mode where
  | stopped
  | running
  | frozen
  deriving DecidableEq, Repr

namespace Mode

def isRunning : Mode → Bool
  | .stopped => false
  | .running => true
  | .frozen => true

/-- The machine: what an event the app receives does to the mode. -/
def next (mode : Mode) : Event → Mode
  | .startStopButtonTapped => if mode.isRunning then .stopped else .running
  | .buttonIceTapped => .frozen
  | .buttonShop => .stopped
  | .kill => .stopped
  | _ => mode

def after (history : History App Event) : Mode :=
  history.foldr (fun occurrence mode => mode.next occurrence.2) .stopped

def timeInterval : Mode → ℚ
  | .frozen => 0.15
  | _ => 0.01

def block : Mode → TimerBlock
  | .frozen => .increment
  | _ => .incrementAndLap

def durationRotate : Mode → ℚ
  | .frozen => 3
  | _ => 0.9

@[simp]
theorem after_cons (occurrence : App × Event) (history : History App Event) :
    after (occurrence :: history) = (after history).next occurrence.2 := rfl

theorem eq_stopped {mode : Mode} (notRunning : mode.isRunning = false) : mode = .stopped := by
  cases mode with
  | stopped => rfl
  | running => cases notRunning
  | frozen => cases notRunning

theorem timeInterval_eq_iff (mode : Mode) : mode.timeInterval = 0.15 ↔ mode = .frozen := by
  cases mode <;> decide +kernel

theorem next_of_appears (mode : Mode) {event : Event}
    (appears : event = .viewDidAppear ∨ event = .didTapBackButton) : mode.next event = mode := by
  rcases appears with rfl | rfl
  · rfl
  · rfl

end Mode

/-- The fields which spell the mode, and the two stocks the power-up buttons depend on. -/
structure Panel where
  isTimerRunning : Bool
  isTimerRunningIce : Bool
  timer : Timer TimerBlock
  timers : List (Timer TimerBlock)
  checkerCirlceProgress : Bool
  durationRotate : ℚ
  imageWoodRotation : Option ℚ
  shapeSpeed : ℚ
  shapeAnimated : Bool
  startStopTitle : String
  shopIsHidden : Bool
  iceIsHidden : Bool
  iceIsEnabled : Bool
  greenIsHidden : Bool
  greenIsEnabled : Bool
  iceNumber : ℤ
  greenNumber : ℤ

def ViewController.panel (vc : ViewController) : Panel where
  isTimerRunning := vc.isTimerRunning
  isTimerRunningIce := vc.isTimerRunningIce
  timer := vc.timer
  timers := vc.runLoop.timers
  checkerCirlceProgress := vc.checkerCirlceProgress
  durationRotate := vc.durationRotate
  imageWoodRotation := vc.imageWoodRotation
  shapeSpeed := vc.circleProgress.shapeSpeed
  shapeAnimated := vc.circleProgress.shapeAnimated
  startStopTitle := vc.startStopButton.title
  shopIsHidden := vc.buttonShopOutlet.isHidden
  iceIsHidden := vc.buttonViewIce.isHidden
  iceIsEnabled := vc.buttonViewIce.isUserInteractionEnabled
  greenIsHidden := vc.buttonViewGreen.isHidden
  greenIsEnabled := vc.buttonViewGreen.isUserInteractionEnabled
  iceNumber := vc.iceNumber
  greenNumber := vc.greenNumber

namespace Panel

/-- The panel spells the mode.  What the buttons of a hidden power-up would do, and where the
last timer came from, is left open while the round is stopped. -/
structure Shows (panel : Panel) (mode : Mode) : Prop where
  isTimerRunning : panel.isTimerRunning = mode.isRunning
  isTimerRunningIce : panel.isTimerRunningIce = decide (mode = .frozen)
  timers : panel.timers = if mode.isRunning then [panel.timer] else []
  timer : mode.isRunning = true →
    panel.timer.timeInterval = mode.timeInterval ∧ panel.timer.block = mode.block
  checker : panel.checkerCirlceProgress = !mode.isRunning
  durationRotate : panel.durationRotate = mode.durationRotate
  rotation : panel.imageWoodRotation = if mode.isRunning then some mode.durationRotate else none
  circle : panel.shapeAnimated = true ∧ panel.shapeSpeed ≠ 0 ↔ mode = .running
  title : panel.startStopTitle = if mode.isRunning then "Stop" else "Start"
  shopIsHidden : panel.shopIsHidden = mode.isRunning
  iceIsHidden : panel.iceIsHidden = !mode.isRunning
  iceIsEnabled : mode.isRunning = true →
    panel.iceIsEnabled = (decide (mode = .running) && decide (panel.iceNumber ≠ 0))
  greenIsHidden : panel.greenIsHidden = !mode.isRunning
  greenIsEnabled : mode.isRunning = true → panel.greenIsEnabled = true → panel.greenNumber ≠ 0

end Panel

namespace ViewController

variable {vc : ViewController} {mode : Mode}

theorem panel_stopWon : vc.stopWon.panel = vc.panel := by
  rw [stopWon_eq]
  rfl

theorem panel_scoreLost : vc.scoreLost.panel = vc.panel := by
  rw [scoreLost_eq]
  rfl

/-- Whatever the verdict, the panel is the one the end of the round leaves. -/
theorem panel_timerStops : vc.timerStops.panel = vc.endRound.panel := by
  rcases vc.timerStops_cases with ⟨_, ended⟩ | ⟨_, _, ended⟩ | ⟨_, _, ended⟩
  · rw [ended, panel_stopWon]
  · rw [ended]
    rfl
  · rw [ended]
    exact panel_scoreLost

theorem isTimerRunning_timerStops : vc.timerStops.isTimerRunning = false := by
  have ended : vc.timerStops.panel.isTimerRunning = false := by
    rw [panel_timerStops, endRound_eq]
    rfl
  exact ended

theorem isTimerRunning_stop (running : vc.isTimerRunning = true) :
    vc.startStopButtonTapped.isTimerRunning = false := by
  rcases vc.stop_eq running with ⟨circle, ended⟩
  rw [ended]
  exact isTimerRunning_timerStops

/-- Whether or not it ends a round, the shop button leaves none running. -/
theorem isTimerRunning_buttonShop : vc.buttonShop.isTimerRunning = false := by
  cases running : vc.isTimerRunning with
  | true =>
      rw [buttonShop_of_running vc running]
      exact isTimerRunning_timerStops
  | false => rwa [buttonShop_of_stopped vc running]

theorem checkerCirlceProgress_timerStops :
    vc.timerStops.checkerCirlceProgress = vc.checkerCirlceProgress := by
  have kept : vc.timerStops.panel.checkerCirlceProgress = vc.checkerCirlceProgress := by
    rw [panel_timerStops, endRound_eq]
    rfl
  exact kept

theorem timers_endRound (shows : vc.panel.Shows mode) (running : mode.isRunning = true) :
    vc.endRound.runLoop.timers = [] := by
  have scheduled : vc.runLoop.timers = [vc.timer] := by
    have timers := shows.timers
    rwa [running] at timers
  rw [endRound_eq]
  simp [RunLoop.invalidate, scheduled]

/-- Ending a round leaves a panel which shows the stopped mode but for the circle's toggle. -/
theorem shows_endRound (shows : vc.panel.Shows mode) (running : mode.isRunning = true) :
    ({ vc.endRound.panel with checkerCirlceProgress := true } : Panel).Shows .stopped where
  isTimerRunning := by rw [endRound_eq]; rfl
  isTimerRunningIce := by rw [endRound_eq]; rfl
  timers := timers_endRound shows running
  timer := by simp [Mode.isRunning]
  checker := rfl
  durationRotate := by rw [endRound_eq]; rfl
  rotation := by rw [endRound_eq]; rfl
  circle := by rw [endRound_eq]; simp [panel, CircleProgress.pause]
  title := by rw [endRound_eq]; rfl
  shopIsHidden := by rw [endRound_eq]; rfl
  iceIsHidden := by rw [endRound_eq]; rfl
  iceIsEnabled := by simp [Mode.isRunning]
  greenIsHidden := by rw [endRound_eq]; rfl
  greenIsEnabled := by simp [Mode.isRunning]

/-- The Stop button flips the toggle before the round ends. -/
theorem shows_stop (shows : vc.panel.Shows mode) (running : mode.isRunning = true) :
    vc.startStopButtonTapped.panel.Shows .stopped := by
  have isRunning : vc.isTimerRunning = true := shows.isTimerRunning.trans running
  have checker : vc.checkerCirlceProgress = false := by
    have toggle := shows.checker
    rwa [running] at toggle
  have ended : vc.startStopButtonTapped.panel =
      { vc.endRound.panel with checkerCirlceProgress := true } := by
    rw [buttonTapped_of_running vc isRunning, panel_timerStops, checkCirlceProgress_eq, checker,
      endRound_eq, endRound_eq]
    rfl
  rw [ended]
  exact shows_endRound shows running

/-- The shop button flips the toggle after the round has ended. -/
theorem shows_shopStop (shows : vc.panel.Shows mode) (running : mode.isRunning = true) :
    vc.buttonShop.panel.Shows .stopped := by
  have isRunning : vc.isTimerRunning = true := shows.isTimerRunning.trans running
  have checker : vc.checkerCirlceProgress = false := by
    have toggle := shows.checker
    rwa [running] at toggle
  have ended : vc.buttonShop.panel =
      { vc.endRound.panel with checkerCirlceProgress := true } := by
    rw [← panel_timerStops, buttonShop_of_running vc isRunning, checkerCirlceProgress_timerStops,
      checker]
    rfl
  rw [ended]
  exact shows_endRound shows running

theorem shows_start (shows : vc.panel.Shows .stopped) :
    vc.startStopButtonTapped.panel.Shows .running := by
  have stopped : vc.isTimerRunning = false := shows.isTimerRunning
  have noTimers : vc.runLoop.timers = [] := shows.timers
  have duration : vc.durationRotate = 0.9 := shows.durationRotate
  have checker : vc.checkerCirlceProgress = true := shows.checker
  rw [buttonTapped_of_stopped vc stopped, timerRuns_eq, checkCirlceProgress_eq, checker]
  refine ⟨rfl, rfl, ?_, fun _ => ⟨rfl, rfl⟩, rfl, duration, ?_, ?_, rfl, rfl, rfl, ?_, rfl, ?_⟩
  · simp [panel, RunLoop.invalidate, noTimers, Mode.isRunning]
  · simp [panel, duration, Mode.isRunning, Mode.durationRotate]
  · cases keeps : vc.keepsShield <;>
      simp [panel, keepsShield, CircleProgress.start, CircleProgress.greenPowerUp,
        CircleProgress.resetColor, apply_ite]
  · intro _
    simp [panel]
  · intro _ enabled
    simpa [panel] using enabled

theorem shows_ice (shows : vc.panel.Shows .running) :
    vc.buttonIceTapped.panel.Shows .frozen := by
  have scheduled : vc.runLoop.timers = [vc.timer] := shows.timers
  rw [buttonIceTapped_eq]
  refine ⟨shows.isTimerRunning, rfl, ?_, fun _ => ⟨rfl, rfl⟩, shows.checker, rfl, rfl, ?_,
    shows.title, shows.shopIsHidden, shows.iceIsHidden, fun _ => rfl, shows.greenIsHidden,
    shows.greenIsEnabled⟩
  · simp [panel, RunLoop.invalidate, scheduled, Mode.isRunning]
  · simp [panel, CircleProgress.pause]

theorem shows_green (shows : vc.panel.Shows mode) :
    vc.buttonGreenTapped.panel.Shows mode := by
  rw [buttonGreenTapped_eq]
  exact { shows with greenIsEnabled := by simp [panel] }

/-- Only the fast timer ever restarts the circle, and it is scheduled only in the running mode. -/
theorem shows_fire (shows : vc.panel.Shows mode) {timer : Timer TimerBlock}
    (scheduled : timer ∈ vc.runLoop.timers) : (vc.fire timer).panel.Shows mode := by
  have timers : vc.runLoop.timers = if mode.isRunning then [vc.timer] else [] := shows.timers
  have live := shows.timer
  rw [timers] at scheduled
  cases mode with
  | stopped => simp [Mode.isRunning] at scheduled
  | running =>
      have same : timer = vc.timer := by simpa [Mode.isRunning] using scheduled
      have block : timer.block = .incrementAndLap := by
        rw [same]
        exact (live rfl).2
      simp only [fire, block]
      rw [incrementAndLap_eq, incrementMiliseconds_eq]
      have advancing : vc.circleProgress.shapeAnimated = true ∧ vc.circleProgress.shapeSpeed ≠ 0 :=
        shows.circle.mpr rfl
      by_cases lap : vc.count + 1 = 101
      · exact { shows with circle := by simp [panel, lap, CircleProgress.start] }
      · exact { shows with circle := by simp [panel, lap, advancing] }
  | frozen =>
      have same : timer = vc.timer := by simpa [Mode.isRunning] using scheduled
      have block : timer.block = .increment := by
        rw [same]
        exact (live rfl).2
      simp only [fire, block]
      rw [incrementMiliseconds_eq]
      exact { shows with }

/-- Reading the balances again moves no button, as long as a running round sees the same
balances. -/
theorem shows_viewDidAppear (shows : vc.panel.Shows mode) (loaded : vc.Loaded)
    (same : mode.isRunning = true → vc.userDefault.integer .ice = vc.iceNumber ∧
      vc.userDefault.integer .green = vc.greenNumber) :
    vc.viewDidAppear.panel.Shows mode := by
  rw [viewDidAppear, setupUserDefaultSetLabel_of_loaded vc loaded.inMemory]
  refine { shows with iceIsEnabled := ?_, greenIsEnabled := ?_ }
  · intro running
    have unchanged : vc.panel.iceNumber = vc.userDefault.integer .ice := (same running).1.symm
    have enabled := shows.iceIsEnabled running
    rw [unchanged] at enabled
    exact enabled
  · intro running
    simpa [panel, (same running).2] using shows.greenIsEnabled running

theorem shows_launch (device : Device) : (launch device).panel.Shows .stopped := by
  rcases launch_loads device with ⟨loading, written, best⟩
  rw [written]
  refine ⟨rfl, rfl, rfl, ?_, rfl, rfl, rfl, ?_, rfl, rfl, rfl, ?_, rfl, ?_⟩
  · simp [Mode.isRunning]
  · constructor
    · rintro ⟨animated, _⟩
      cases animated
    · intro running
      cases running
  · simp [Mode.isRunning]
  · simp [Mode.isRunning]

/-- The Ice button reaches the player only in the running mode, and with ice left. -/
theorem iceTappable_iff (shows : vc.panel.Shows mode) :
    vc.buttonViewIce.Tappable ↔ mode = .running ∧ vc.iceNumber ≠ 0 := by
  have hidden : vc.buttonViewIce.isHidden = !mode.isRunning := shows.iceIsHidden
  have enabled : mode.isRunning = true → vc.buttonViewIce.isUserInteractionEnabled =
      (decide (mode = .running) && decide (vc.iceNumber ≠ 0)) := shows.iceIsEnabled
  cases mode with
  | stopped => simp [UIButton.Tappable, hidden, Mode.isRunning]
  | running => simp [UIButton.Tappable, hidden, enabled rfl, Mode.isRunning]
  | frozen => simp [UIButton.Tappable, hidden, enabled rfl, Mode.isRunning]

theorem isRunning_of_greenTappable (shows : vc.panel.Shows mode)
    (tappable : vc.buttonViewGreen.Tappable) : mode.isRunning = true ∧ vc.greenNumber ≠ 0 := by
  have running : mode.isRunning = true := by
    have hidden : vc.buttonViewGreen.isHidden = !mode.isRunning := shows.greenIsHidden
    rw [tappable.1] at hidden
    simpa using hidden.symm
  exact ⟨running, shows.greenIsEnabled running tappable.2⟩

end ViewController

/-- A round runs from its start to its stop. -/
theorem Move.isTimerRunning {app : App} {event : Event} {vc after : ViewController}
    (move : Move app event vc after) :
    after.isTimerRunning =
      if startsRound (app, event) then true
      else if (roundStopped (app, event)).isSome then false else vc.isTimerRunning := by
  cases move with
  | start vc stopped =>
      rcases vc.start_eq stopped with ⟨circle, started⟩
      rw [started, ViewController.timerRuns_eq]
      simp [startsRound, stopped]
  | stop vc running =>
      rw [ViewController.isTimerRunning_stop running]
      simp [running]
  | ice vc =>
      rw [ViewController.buttonIceTapped_eq]
      rfl
  | green vc =>
      rw [ViewController.buttonGreenTapped_eq]
      rfl
  | shopStop vc running =>
      rw [ViewController.isTimerRunning_buttonShop]
      simp [startsRound, running]
  | tick app vc timer scheduled =>
      rw [startsRound_fire, roundStopped_fire]
      rcases vc.fire_writes timer with ⟨_, _, _, _, _, _, written⟩
      rw [written]
      rfl
  | appear app vc event appears =>
      have quiet := quiet_of_appears app appears
      rcases vc.setupUserDefaultSetLabel_loads with ⟨loading, written, _⟩
      rw [quiet.1, quiet.2.1, ViewController.viewDidAppear, written]
      rfl
  | openShop vc stopped => simp [startsRound, stopped]
  | childAdded vc shop snapshot => rfl
  | select vc shop row => rfl

/-- Everything the player and the run loop see agrees on one mode. -/
structure ViewController.Coherent (vc : ViewController) : Prop where
  timers : vc.runLoop.timers = if vc.isTimerRunning then [vc.timer] else []
  slowTimer : vc.isTimerRunning = true →
    (vc.timer.timeInterval = 0.15 ↔ vc.isTimerRunningIce = true)
  frozenRuns : vc.isTimerRunningIce = true → vc.isTimerRunning = true
  checker : vc.checkerCirlceProgress = !vc.isTimerRunning
  durationRotate : vc.durationRotate = if vc.isTimerRunningIce then 3 else 0.9
  rotates : vc.imageWoodRotation.isSome = vc.isTimerRunning
  advancing : vc.circleProgress.Advancing ↔
    vc.isTimerRunning = true ∧ vc.isTimerRunningIce = false
  title : vc.startStopButton.title = "Stop" ↔ vc.isTimerRunning = true
  shopIsHidden : vc.buttonShopOutlet.isHidden = vc.isTimerRunning
  iceTappable : vc.buttonViewIce.Tappable ↔
    vc.isTimerRunning = true ∧ vc.isTimerRunningIce = false ∧ vc.iceNumber ≠ 0
  greenTappable : vc.buttonViewGreen.Tappable → vc.isTimerRunning = true ∧ vc.greenNumber ≠ 0

theorem ViewController.coherent_of_shows {vc : ViewController} {mode : Mode}
    (shows : vc.panel.Shows mode) : vc.Coherent := by
  have running : vc.isTimerRunning = mode.isRunning := shows.isTimerRunning
  have frozen : vc.isTimerRunningIce = decide (mode = .frozen) := shows.isTimerRunningIce
  have interval : mode.isRunning = true → vc.timer.timeInterval = mode.timeInterval :=
    fun runs => (shows.timer runs).1
  have duration : vc.durationRotate = mode.durationRotate := shows.durationRotate
  have rotation : vc.imageWoodRotation =
      if mode.isRunning then some mode.durationRotate else none := shows.rotation
  have title : vc.startStopButton.title = if mode.isRunning then "Stop" else "Start" := shows.title
  refine ⟨?_, ?_, ?_, ?_, ?_, ?_, ?_, ?_, ?_, ?_, ?_⟩
  · rw [running]
    exact shows.timers
  · rw [running, frozen]
    intro runs
    rw [interval runs, Mode.timeInterval_eq_iff, decide_eq_true_iff]
  · rw [running, frozen]
    cases mode <;> simp [Mode.isRunning]
  · rw [running]
    exact shows.checker
  · rw [frozen, duration]
    cases mode <;> simp [Mode.durationRotate]
  · rw [running, rotation]
    cases mode <;> simp [Mode.isRunning]
  · rw [running, frozen]
    apply shows.circle.trans
    cases mode <;> simp [Mode.isRunning]
  · rw [running, title]
    cases mode <;> simp [Mode.isRunning]
  · rw [running]
    exact shows.shopIsHidden
  · rw [iceTappable_iff shows, running, frozen]
    cases mode <;> simp [Mode.isRunning]
  · rw [running]
    exact isRunning_of_greenTappable shows

namespace App

variable {sort : SortRoutine PowerUp} {device : Device} {history : History App Event} {app : App}
  {vc : ViewController}

theorem stopped_of_shopScreen {shop : ShopController}
    (run : Run (system sort) (firstLaunch device) history (.shopScreen vc shop)) :
    vc.isTimerRunning = false := by
  have stopped : ∀ {app}, Run (system sort) (firstLaunch device) history app →
      ∀ vc shop, app = .shopScreen vc shop → vc.isTimerRunning = false := by
    intro app run
    apply run.invariant
      (fun app => ∀ vc shop, app = .shopScreen vc shop → vc.isTimerRunning = false)
    · intro vc shop front
      cases front
    · rintro state next event before step vc shop rfl
      cases step with
      | openShop vc => exact ViewController.isTimerRunning_buttonShop
      | fireShop vc _ timer scheduled =>
          rcases vc.fire_writes timer with ⟨_, _, _, _, _, _, written⟩
          rw [written]
          exact before vc shop rfl
      | appearShop vc _ =>
          rcases vc.setupUserDefaultSetLabel_loads with ⟨loading, written, _⟩
          rw [ViewController.viewDidAppear, written]
          exact before vc shop rfl
      | childAdded vc shop snapshot => exact before vc shop rfl
      | select vc shop row shown => exact before vc shop rfl
  exact stopped run vc shop rfl

/-- The simulation: the panel shows the mode of the abstract machine on the same events. -/
theorem shows_after (run : Run (uikit sort) (firstLaunch device) history app) :
    (app.viewController = none → Mode.after history = .stopped) ∧
      ∀ vc, app.viewController = some vc → vc.panel.Shows (Mode.after history) := by
  apply run.historyInvariant
    (motive := fun history app => (app.viewController = none → Mode.after history = .stopped) ∧
      ∀ vc, app.viewController = some vc → vc.panel.Shows (Mode.after history))
  · refine ⟨fun _ => rfl, ?_⟩
    intro vc shown
    cases shown
    exact ViewController.shows_launch device
  intro history state next event run simulated step
  rcases simulated with ⟨idle, shows⟩
  rcases step with ⟨delivered, step⟩
  refine ⟨?_, ?_⟩
  · intro gone
    cases step with
    | killMain vc => rfl
    | killShop vc shop => rfl
    | _ => cases gone
  intro after shown
  rcases step.move shown with ⟨device, rfl, rfl, rfl⟩ | ⟨vc, current, move⟩
  · rw [Mode.after_cons, idle rfl]
    exact ViewController.shows_launch device
  have now := shows vc current
  rw [Mode.after_cons]
  generalize Mode.after history = mode at now
  have isRunning : vc.isTimerRunning = mode.isRunning := now.isTimerRunning
  cases move with
  | start vc stopped =>
      have isStopped : mode = .stopped := Mode.eq_stopped (isRunning.symm.trans stopped)
      subst isStopped
      exact ViewController.shows_start now
  | stop vc running =>
      rw [isRunning] at running
      have stops : mode.next .startStopButtonTapped = .stopped := by simp [Mode.next, running]
      rw [stops]
      exact ViewController.shows_stop now running
  | ice vc =>
      have runs : mode = .running := ((ViewController.iceTappable_iff now).mp delivered).1
      subst runs
      exact ViewController.shows_ice now
  | green vc =>
      exact ViewController.shows_green now
  | shopStop vc running =>
      rw [isRunning] at running
      exact ViewController.shows_shopStop now running
  | openShop vc stopped =>
      have isStopped : mode = .stopped := Mode.eq_stopped (isRunning.symm.trans stopped)
      subst isStopped
      exact now
  | tick _ vc timer scheduled =>
      exact ViewController.shows_fire now scheduled
  | appear app vc event appears =>
      rw [Mode.next_of_appears mode appears]
      apply ViewController.shows_viewDidAppear now (loaded_of_run run.of_restrict current)
      intro running
      -- a running round has the main screen in front, so the balances are the persisted ones
      cases state with
      | terminated killed => cases current
      | mainScreen _ =>
          cases current
          have books := books_of_run run.of_restrict
          exact ⟨(ViewController.Books.held books .ice).symm,
            (ViewController.Books.held books .green).symm⟩
      | shopScreen _ shop =>
          cases current
          have stopped := stopped_of_shopScreen run.of_restrict
          rw [isRunning, running] at stopped
          cases stopped
  | childAdded vc shop snapshot => exact now
  | select vc shop row =>
      have same : ({ vc with userDefault := (shop.didSelectItemAt vc.userDefault row).2 } :
          ViewController).panel = vc.panel := rfl
      rw [same]
      exact now

/-- A timer which can fire belongs to a running round, and has a block. -/
theorem ticks_of_run (run : Run (uikit sort) (firstLaunch device) history app)
    (shown : app.viewController = some vc) :
    ∀ timer ∈ vc.runLoop.timers, vc.isTimerRunning = true ∧ timer.block ≠ .none := by
  intro timer scheduled
  have shows := (shows_after run).2 vc shown
  generalize Mode.after history = mode at shows
  have timers : vc.runLoop.timers = if mode.isRunning then [vc.timer] else [] := shows.timers
  have isRunning : vc.isTimerRunning = mode.isRunning := shows.isTimerRunning
  cases runs : mode.isRunning with
  | true =>
      have same : timer = vc.timer := by simpa [timers, runs] using scheduled
      have block : vc.timer.block = mode.block := (shows.timer runs).2
      rw [isRunning, runs, same, block]
      refine ⟨rfl, ?_⟩
      cases mode with
      | stopped => cases runs
      | running => simp [Mode.block]
      | frozen => simp [Mode.block]
  | false => simp [timers, runs] at scheduled

def GreenTappable (app : App) : Prop :=
  ∃ vc, app.viewController = some vc ∧ vc.buttonViewGreen.Tappable

/-- Green is tapped at most once after a Start, and once tapped the button is dead until the
next. -/
theorem greenTap_once (run : Run (uikit sort) (firstLaunch device) history app) :
    (since startsRound history).countP greenTap ≤ 1 ∧
      (app.GreenTappable → (since startsRound history).countP greenTap = 0) := by
  apply run.atMostOnce (fun _ app => app.GreenTappable) startsRound greenTap
  intro history state next event run step notStart
  refine ⟨?_, ?_⟩
  · intro tapped
    rcases step with ⟨delivered, step⟩
    cases step with
    | green vc => exact ⟨vc, rfl, delivered⟩
    | _ => cases tapped
  rintro ⟨after, shown, tappable⟩
  have showsNext := (shows_after (run.snoc step)).2 after shown
  have runs := (ViewController.isRunning_of_greenTappable showsNext tappable).1
  rcases step.2.move shown with ⟨device, rfl, rfl, rfl⟩ | ⟨vc, current, move⟩
  · have stopped : (Mode.after history).isRunning = false := by
      rw [(shows_after run).1 rfl]
      rfl
    rw [Mode.after_cons] at runs
    exact absurd (stopped.symm.trans runs) (by decide)
  cases move with
  | start vc stopped => simp [startsRound, stopped] at notStart
  | stop vc running =>
      have wasRunning := ((shows_after run).2 vc current).isTimerRunning.symm.trans running
      simp [Mode.next, wasRunning] at runs
      cases runs
  | ice vc =>
      rw [ViewController.buttonIceTapped_eq] at tappable
      exact ⟨⟨vc, current, tappable⟩, rfl⟩
  | green vc =>
      rw [ViewController.buttonGreenTapped_eq] at tappable
      cases tappable.2
  | shopStop vc running => cases runs
  | openShop vc stopped => exact ⟨⟨_, current, tappable⟩, rfl⟩
  | tick _ vc timer scheduled =>
      rcases vc.fire_writes timer with ⟨_, _, _, _, _, _, written⟩
      rw [written] at tappable
      refine ⟨⟨vc, current, tappable⟩, ?_⟩
      cases state <;> rfl
  | appear _ vc event appears =>
      rcases vc.setupUserDefaultSetLabel_loads with ⟨loading, written, _⟩
      rw [ViewController.viewDidAppear, written] at tappable
      exact ⟨⟨vc, current, tappable⟩, (quiet_of_appears _ appears).2.2.2.2.2⟩
  | childAdded vc shop snapshot => exact ⟨⟨_, current, tappable⟩, rfl⟩
  | select vc shop row => exact ⟨⟨_, current, tappable⟩, rfl⟩

/-- Ice is tapped at most once after a Start: the tap leaves the mode only a Start leads back to. -/
theorem iceTap_once (run : Run (uikit sort) (firstLaunch device) history app) :
    (since startsRound history).countP iceTap ≤ 1 := by
  refine (run.atMostOnce (fun history _ => Mode.after history = .running) startsRound iceTap ?_).1
  intro history state next event run step notStart
  rcases step with ⟨delivered, step⟩
  refine ⟨?_, ?_⟩
  · intro tapped
    cases step with
    | ice vc => exact ((ViewController.iceTappable_iff ((shows_after run).2 vc rfl)).mp delivered).1
    | _ => cases tapped
  intro running
  rw [Mode.after_cons] at running
  cases step with
  | ice vc => cases running
  | startStop vc =>
      have isRunning : vc.isTimerRunning = (Mode.after history).isRunning :=
        ((shows_after run).2 vc rfl).isTimerRunning
      simp only [startsRound, isRunning, Bool.not_eq_false'] at notStart
      simp [Mode.next, notStart] at running
  | openShop vc => cases running
  | killMain vc => cases running
  | killShop vc shop => cases running
  | _ => exact ⟨running, rfl⟩

/-- Round-mode coherence: in every state reached, the timers, the circle, the wood and the buttons
all show the same mode, and Green is not offered twice in a round. -/
theorem round_coherent (run : Run (uikit sort) (firstLaunch device) history app)
    (shown : app.viewController = some vc) :
    vc.Coherent ∧ (vc.buttonViewGreen.Tappable →
      ∀ occurrence ∈ since startsRound history, greenTap occurrence = false) := by
  have coherent := ViewController.coherent_of_shows ((shows_after run).2 vc shown)
  refine ⟨coherent, ?_⟩
  intro tappable occurrence occurred
  have untapped := (greenTap_once run).2 ⟨vc, shown, tappable⟩
  rw [List.countP_eq_zero] at untapped
  simpa using untapped occurrence occurred

/-- A round frozen after its first tick. -/
theorem round_coherent_frozen :
    ∃ (history : History App Event) (app : App) (vc : ViewController),
      Run (uikit .insertion) (firstLaunch .fresh) history app ∧ app.viewController = some vc ∧
        vc.isTimerRunningIce = true ∧ vc.Coherent := by
  have script := exists_uikit_run .insertion (firstLaunch .fresh)
    [.startStopButtonTapped, .fire ⟨2, 0.01, .incrementAndLap⟩, .buttonIceTapped]
    (fun _ app => app.viewController.any fun vc => vc.isTimerRunningIce) (by decide +kernel)
  rcases script with ⟨history, app, run, tested⟩
  rcases (Option.any_eq_true _ _).mp tested with ⟨vc, shown, frozen⟩
  exact ⟨history, app, vc, run, shown, frozen, (round_coherent run shown).1⟩

end App

end OneSecond
