import OneSecond.Catalogue
import OneSecond.Endings
import OneSecond.Game

/-!
# The app plays the game

`ViewController.screen` and `ShopController.stall` read off the controllers what
a player sees.  A controller tells a play when its fields and texts are those of
the play; together with the panel, which shows the mode, this makes the screens
equal.  Each handler tells the play which the game's move leads to, so the app
and the game are bisimilar: they accept the same inputs and display the same.
-/

namespace OneSecond

open Runs Sorting Decimal

def ViewController.screen (vc : ViewController) : Screen where
  score := vc.buttonScore.title
  best := vc.buttonBest.title
  acorn := vc.labelAcorn.text
  green := vc.buttonViewGreen.title
  ice := vc.buttonViewIce.title
  timer := vc.labelTimer.text
  startStop := vc.startStopButton.title
  iceTappable := decide vc.buttonViewIce.Tappable
  greenTappable := decide vc.buttonViewGreen.Tappable
  shopVisible := !vc.buttonShopOutlet.isHidden
  overlayVisible := !vc.overlayIsHidden
  confetti := vc.confettiStarted
  track := vc.circleProgress.trackStrokeColor
  circleAdvances := vc.circleProgress.shapeAnimated && vc.circleProgress.shapeSpeed ≠ 0
  woodTurns := vc.imageWoodRotation

def ShopController.stall (shop : ShopController) : Stall where
  acorn := shop.labelAcorn.text
  green := shop.labelGreen.text
  ice := shop.labelIce.text
  entries := shop.powerUps

def App.display : App → Display
  | .terminated _ => .off
  | .mainScreen vc => .main vc.screen
  | .shopScreen vc shop => .shop vc.screen shop.stall

/-- What an event is to the player, whichever timer fires and whatever is delivered. -/
def Event.input : Event → Input
  | .launch => .launch
  | .kill => .kill
  | .startStopButtonTapped => .press
  | .buttonIceTapped => .ice
  | .buttonGreenTapped => .green
  | .buttonShop => .shop
  | .fire _ => .tick
  | .viewDidAppear => .appear
  | .childAdded snapshot => .deliver (APIService.observePowerUps snapshot)
  | .didSelectItemAt row => .pick row
  | .didTapBackButton => .leave

namespace ViewController

variable {vc : ViewController} {save : Save} {play : Play}

/-- The text which shows a balance. -/
def text (vc : ViewController) : Currency → String
  | .acorn => vc.labelAcorn.text
  | .green => vc.buttonViewGreen.title
  | .ice => vc.buttonViewIce.title

/-- The fields and texts which the panel leaves out. -/
structure Tells (vc : ViewController) (save : Save) (play : Play) : Prop where
  score : vc.score = play.score
  scoreTitle : vc.buttonScore.title = "Score: " ++ toString play.score
  best : vc.best = save.best
  bestTitle : vc.buttonBest.title = "Best: " ++ toString save.best
  stored : vc.userDefault.integer .best = save.best
  reported : vc.reported = save.reported
  milliseconds : vc.milliseconds = play.clock
  seconds : vc.seconds = (play.dial / 100 : ℕ)
  suffix : vc.suffix = (play.dial % 100 : ℕ)
  timer : vc.labelTimer.text = fixedPoint 2 (play.dial / 100) (play.dial % 100)
  shield : vc.greenActiveted = play.shield
  greenOffered : play.mode.isRunning = true →
    vc.buttonViewGreen.isUserInteractionEnabled = play.greenOffered
  overlay : vc.overlayIsHidden = !play.iced
  confetti : vc.confettiStarted = play.confetti
  track : vc.circleProgress.trackStrokeColor = play.track
  shown : vc.balance = play.shown
  texts : vc.text = fun currency => toString (play.shown currency)

/-- The mode, and the rest. -/
structure Represents (vc : ViewController) (save : Save) (play : Play) : Prop where
  shows : vc.panel.Shows play.mode
  tells : vc.Tells save play

theorem Tells.stopWins (tells : vc.Tells save play) : vc.stopWins = play.wins := by
  rw [ViewController.stopWins, Play.wins, tells.seconds, tells.suffix, Bool.eq_iff_iff]
  simp only [Bool.and_eq_true, decide_eq_true_eq, beq_iff_eq]
  omega

theorem Tells.keepsShield (tells : vc.Tells save play) : vc.keepsShield = play.keepsShield := by
  rw [ViewController.keepsShield, Play.keepsShield, tells.score, tells.shield]

/-- The texts and the panel are the whole screen. -/
theorem Represents.screen (represents : vc.Represents save play) :
    vc.screen = Game.screen save play := by
  rcases represents with ⟨shows, tells⟩
  have ice : decide vc.buttonViewIce.Tappable =
      (decide (play.mode = .running) && decide (play.shown .ice ≠ 0)) := by
    rw [Bool.eq_iff_iff, Bool.and_eq_true, decide_eq_true_iff, decide_eq_true_iff,
      decide_eq_true_iff, iceTappable_iff shows, ← tells.shown]
    rfl
  have green : decide vc.buttonViewGreen.Tappable =
      (play.mode.isRunning && play.greenOffered) := by
    have hidden : vc.buttonViewGreen.isHidden = !play.mode.isRunning := shows.greenIsHidden
    cases running : play.mode.isRunning with
    | true => simp [UIButton.Tappable, hidden, running, tells.greenOffered running]
    | false => simp [UIButton.Tappable, hidden, running]
  have shop : vc.buttonShopOutlet.isHidden = play.mode.isRunning := shows.shopIsHidden
  have circle : (vc.circleProgress.shapeAnimated && decide (vc.circleProgress.shapeSpeed ≠ 0)) =
      decide (play.mode = .running) := by
    rw [Bool.eq_iff_iff, Bool.and_eq_true, decide_eq_true_iff, decide_eq_true_iff]
    exact shows.circle
  have title : vc.startStopButton.title = if play.mode.isRunning then "Stop" else "Start" :=
    shows.title
  have wood : vc.imageWoodRotation =
      if play.mode.isRunning then some play.mode.durationRotate else none := shows.rotation
  have texts (currency : Currency) : vc.text currency = toString (play.shown currency) :=
    congrFun tells.texts currency
  have acornText : vc.labelAcorn.text = toString (play.shown .acorn) := texts .acorn
  have greenTitle : vc.buttonViewGreen.title = toString (play.shown .green) := texts .green
  have iceTitle : vc.buttonViewIce.title = toString (play.shown .ice) := texts .ice
  rw [ViewController.screen, Game.screen, ice, green, circle, shop, title, wood,
    tells.scoreTitle, tells.bestTitle, acornText, greenTitle, iceTitle, tells.timer,
    tells.confetti, tells.track, tells.overlay, Bool.not_not]

/-- A handler which moves one balance, and rewrites its text, shows the new purse. -/
theorem Tells.booked {after : ViewController} (tells : vc.Tells save play)
    (purse : play.shown = save.purse) (currency : Currency) (value : ℤ)
    (balance : after.balance = vc.balance + amount currency value)
    (text : after.text =
      Function.update vc.text currency (toString (vc.balance currency + value))) :
    after.balance = save.purse + amount currency value ∧
      after.text = fun other => toString ((save.purse + amount currency value) other) := by
  have held : vc.balance = save.purse := tells.shown.trans purse
  refine ⟨by rw [balance, held], ?_⟩
  rw [text, tells.texts, held, purse]
  funext other
  by_cases same : other = currency
  · subst same
    simp [amount]
  · simp [amount, same]

theorem Tells.timerStops (tells : vc.Tells save play) (purse : play.shown = save.purse) :
    vc.timerStops.Tells (Game.stop save play).1 (Game.stop save play).2 := by
  have verdict := tells.stopWins
  rcases vc.timerStops_cases with ⟨wins, ended⟩ | ⟨misses, on, ended⟩ | ⟨misses, exposed, ended⟩
  · rw [wins] at verdict
    have booked : vc.endRound.stopWon.balance = save.purse + amount .acorn 1 ∧
        vc.endRound.stopWon.text =
          fun other => toString ((save.purse + amount .acorn 1) other) := by
      apply tells.booked purse
      · rw [stopWon_eq, endRound_eq]
        funext currency
        cases currency <;> simp [balance, amount]
      · rw [stopWon_eq, endRound_eq]
        funext currency
        cases currency <;> simp [text, balance]
    rw [ended, Game.stop_of_wins verdict.symm]
    rw [stopWon_eq, endRound_eq] at booked ⊢
    exact { tells with
      score := by simp [Game.book, tells.score]
      scoreTitle := by simp [Game.book, UIButton.setTitle, tells.score]
      bestTitle := by simp [Game.book, UIButton.setTitle, tells.best]
      stored := by simp [Game.book, tells.best]
      track := rfl
      greenOffered := by simp [Game.book, Mode.isRunning]
      shown := booked.1
      texts := booked.2 }
  · rw [misses] at verdict
    have shield : play.shield = true := tells.shield.symm.trans on
    rw [ended, Game.stop_of_shielded verdict.symm shield, endRound_eq]
    exact { tells with
      milliseconds := rfl
      greenOffered := by simp [Mode.isRunning] }
  · rw [misses] at verdict
    have shield : play.shield = false := tells.shield.symm.trans exposed
    rw [ended, Game.stop_of_exposed verdict.symm shield, scoreLost_eq, endRound_eq]
    exact { tells with
      score := rfl
      scoreTitle := rfl
      best := by simp [tells.best, tells.score]
      bestTitle := by
        by_cases better : play.score > save.best
        · simp [tells.best, tells.score, better, le_of_lt better, UIButton.setTitle]
        · simp [tells.best, tells.bestTitle, tells.score, better, not_lt.mp better]
      stored := by
        by_cases better : play.score > save.best
        · simp [tells.best, tells.score, better, le_of_lt better]
        · simp [tells.best, tells.stored, tells.score, better, not_lt.mp better]
      milliseconds := rfl
      greenOffered := by simp [Mode.isRunning]
      confetti := by
        by_cases better : play.score > save.best
        · simp [tells.best, tells.score, better]
        · simp [tells.best, tells.confetti, tells.score, better]
      track := rfl }

/-- Both ways to end a round. -/
theorem Represents.stop (represents : vc.Represents save play) (purse : play.shown = save.purse)
    (running : play.mode.isRunning = true) :
    vc.startStopButtonTapped.Represents (Game.stop save play).1 (Game.stop save play).2 ∧
      vc.buttonShop.Represents (Game.report (Game.stop save play).1) (Game.stop save play).2 := by
  rcases represents with ⟨shows, tells⟩
  have isRunning : vc.isTimerRunning = true := shows.isTimerRunning.trans running
  have checker : vc.checkerCirlceProgress = false := by
    have toggle : vc.checkerCirlceProgress = !play.mode.isRunning := shows.checker
    rwa [running] at toggle
  have ended := tells.timerStops purse
  refine ⟨⟨?_, ?_⟩, ⟨?_, ?_⟩⟩
  · rw [Game.mode_stop]
    exact shows_stop shows running
  · rw [buttonTapped_of_running vc isRunning, timerStops_checkCirlceProgress checker]
    exact { ended with }
  · rw [Game.mode_stop]
    exact shows_shopStop shows running
  · rw [buttonShop_of_running vc isRunning]
    exact { ended with reported := by simp [Game.report, ended.best, ended.reported] }

theorem Represents.start (represents : vc.Represents save play) (purse : play.shown = save.purse)
    (stopped : play.mode = .stopped) :
    vc.startStopButtonTapped.Represents (Game.start save play).1 (Game.start save play).2 := by
  rcases represents with ⟨shows, tells⟩
  rw [stopped] at shows
  have notRunning : vc.isTimerRunning = false := shows.isTimerRunning
  have keeps : vc.checkCirlceProgress.keepsShield = play.keepsShield := by
    rw [checkCirlceProgress_eq]
    exact tells.keepsShield
  have green : vc.greenNumber = save.purse .green := by
    rw [← purse, ← tells.shown]
    rfl
  refine ⟨shows_start shows, ?_⟩
  rw [buttonTapped_of_stopped vc notRunning, timerRuns_eq, keeps, checkCirlceProgress_eq]
  exact { tells with
    reported := by simp [Game.start, Game.report, tells.best, tells.reported]
    shield := by
      have shield := tells.shield
      simp only [Game.start, Play.keepsShield, ← shield]
      cases vc.greenActiveted <;> simp
    greenOffered := by
      intro _
      simp [Game.start, green]
    overlay := rfl
    confetti := rfl
    track := by
      simp only [Game.start]
      cases play.keepsShield <;> rfl }

theorem Represents.ice (represents : vc.Represents save play) (purse : play.shown = save.purse)
    (running : play.mode = .running) :
    vc.buttonIceTapped.Represents (Game.useIce save play).1 (Game.useIce save play).2 := by
  rcases represents with ⟨shows, tells⟩
  have booked : vc.buttonIceTapped.balance = save.purse + amount .ice (-1) ∧
      vc.buttonIceTapped.text =
        fun other => toString ((save.purse + amount .ice (-1)) other) := by
    apply tells.booked purse
    · rw [buttonIceTapped_eq]
      funext currency
      cases currency <;> simp [balance, amount, sub_eq_add_neg]
    · rw [buttonIceTapped_eq]
      funext currency
      cases currency <;> simp [text, balance, sub_eq_add_neg]
  refine ⟨?_, ?_⟩
  · rw [running] at shows
    exact shows_ice shows
  · rw [buttonIceTapped_eq] at booked ⊢
    exact { tells with
      stored := by simp [Game.useIce, Game.book, tells.stored]
      greenOffered := by
        intro _
        exact tells.greenOffered (by rw [running]; rfl)
      overlay := rfl
      shown := booked.1
      texts := booked.2 }

theorem Represents.green (represents : vc.Represents save play)
    (purse : play.shown = save.purse) :
    vc.buttonGreenTapped.Represents (Game.useGreen save play).1 (Game.useGreen save play).2 := by
  rcases represents with ⟨shows, tells⟩
  have booked : vc.buttonGreenTapped.balance = save.purse + amount .green (-1) ∧
      vc.buttonGreenTapped.text =
        fun other => toString ((save.purse + amount .green (-1)) other) := by
    apply tells.booked purse
    · rw [buttonGreenTapped_eq]
      funext currency
      cases currency <;> simp [balance, amount, sub_eq_add_neg]
    · rw [buttonGreenTapped_eq]
      funext currency
      cases currency <;> simp [text, balance, sub_eq_add_neg]
  refine ⟨shows_green shows, ?_⟩
  rw [buttonGreenTapped_eq] at booked ⊢
  exact { tells with
    stored := by simp [Game.useGreen, Game.book, tells.stored]
    shield := rfl
    greenOffered := fun _ => rfl
    track := rfl
    shown := booked.1
    texts := booked.2 }

/-- A tick moves the clock, and sets the dial by it. -/
theorem Represents.tick (represents : vc.Represents save play) {timer : Timer TimerBlock}
    (scheduled : timer ∈ vc.runLoop.timers) (live : timer.block ≠ .none) :
    (vc.fire timer).Represents save (Game.tick play) := by
  rcases represents with ⟨shows, tells⟩
  refine ⟨shows_fire shows scheduled, ?_⟩
  have color := vc.trackStrokeColor_fire timer
  rcases vc.fire_of_live live with ⟨count, circle, ticked⟩
  rw [ticked, incrementMiliseconds_eq] at color ⊢
  have whole : (vc.milliseconds + 1).tdiv 100 = ((play.clock + 1) / 100 : ℕ) := by
    rw [tells.milliseconds]
    rfl
  have fraction : vc.milliseconds + 1 - ((play.clock + 1) / 100 : ℕ) * 100 =
      ((play.clock + 1) % 100 : ℕ) := by
    rw [tells.milliseconds]
    omega
  rw [whole, fraction] at color ⊢
  exact { tells with
    milliseconds := by simp [Game.tick, tells.milliseconds]
    seconds := rfl
    suffix := rfl
    timer := by
      rw [apply_ite UILabel.text]
      exact Stopwatch.text_eq_fixedPoint _ _ (Nat.mod_lt _ (by decide))
    track := color.trans tells.track }

/-- When the main screen appears it shows the purse again. -/
theorem Represents.appear (represents : vc.Represents save play) (loaded : vc.Loaded)
    (stored : ∀ currency : Currency, vc.userDefault.integer currency.key = save.purse currency)
    (same : play.mode.isRunning = true → play.shown = save.purse) :
    vc.viewDidAppear.Represents save { play with shown := save.purse } := by
  rcases represents with ⟨shows, tells⟩
  refine ⟨?_, ?_⟩
  · apply shows_viewDidAppear shows loaded
    intro running
    have held : vc.balance = save.purse := tells.shown.trans (same running)
    exact ⟨(stored .ice).trans (congrFun held .ice).symm,
      (stored .green).trans (congrFun held .green).symm⟩
  · have books := Books.viewDidAppear loaded stored
    have shown : vc.viewDidAppear.balance = save.purse := funext books.held
    have acorn := stored .acorn
    have green := stored .green
    have ice := stored .ice
    simp only [Currency.key] at acorn green ice
    rw [viewDidAppear, setupUserDefaultSetLabel_of_loaded vc loaded.inMemory] at shown ⊢
    exact { tells with
      best := tells.stored
      bestTitle := by simp [UIButton.setTitle, tells.stored]
      stored := by simp [tells.stored]
      shown := shown
      texts := by
        funext currency
        cases currency <;> simp [text, UIButton.setTitle, acorn, green, ice] }

end ViewController

/-- Either the first launch is over, or nothing was stored yet. -/
def Device.Seasoned (device : Device) : Prop :=
  device.userDefault.bool .bool = true ∨
    ∀ currency : Currency, device.userDefault.integer currency.key = 0

namespace ViewController

/-- On other devices the storyboard's zeros stay until the main screen appears. -/
theorem text_launch {device : Device} (seasoned : device.Seasoned) :
    (launch device).text = fun currency => toString (opening device currency) := by
  have hides : (launch device).text =
      ((instantiate device).shouldShowOverlayEffect true).setupUserDefaultSetLabel.text := rfl
  rw [hides]
  cases flag : device.userDefault.bool .bool with
  | true =>
      have loaded : ((instantiate device).shouldShowOverlayEffect true).boolCheckUserDefault =
          true := flag
      rw [setupUserDefaultSetLabel_of_loaded _ loaded]
      funext currency
      cases currency <;>
        simp [text, opening, flag, Currency.key, UIButton.setTitle, instantiate,
          shouldShowOverlayEffect]
  | false =>
      have nothing : ∀ currency : Currency, device.userDefault.integer currency.key = 0 :=
        seasoned.resolve_left (by simp [flag])
      have acorn := nothing .acorn
      have green := nothing .green
      have ice := nothing .ice
      simp only [Currency.key] at acorn green ice
      funext currency
      cases currency <;>
        simp [text, opening, flag, Currency.key, Currency.grant, starter, UIButton.setTitle,
          instantiate, shouldShowOverlayEffect, setupUserDefaultSetLabel, reloadBest,
          grantStarters, grantIce_eq, grantGreen_eq, grantAcorn_eq, setBest_eq, acorn, green, ice]

theorem represents_launch {device : Device} (seasoned : device.Seasoned) :
    (launch device).Represents
      ⟨opening device, device.userDefault.integer .best, device.reported⟩
      (.fresh (opening device)) := by
  refine ⟨shows_launch device, ?_⟩
  have shown : (launch device).balance = opening device := funext (Books.launch device).held
  have dial : "0.00" = fixedPoint 2 0 0 := by decide +kernel
  have texts := text_launch seasoned
  rcases launch_loads device with ⟨loading, written, best⟩
  rw [written] at shown texts ⊢
  exact {
    score := rfl
    scoreTitle := rfl
    best := rfl
    bestTitle := rfl
    stored := best
    reported := rfl
    milliseconds := rfl
    seconds := by simp [Play.fresh, load, showHideButtons, shouldShowOverlayEffect, instantiate]
    suffix := by simp [Play.fresh, load, showHideButtons, shouldShowOverlayEffect, instantiate]
    timer := by
      simpa [Play.fresh, load, showHideButtons, shouldShowOverlayEffect, instantiate] using dial
    shield := rfl
    greenOffered := by simp [Play.fresh, Mode.isRunning]
    overlay := rfl
    confetti := rfl
    track := rfl
    shown := shown
    texts := texts }

end ViewController

/-- The labels show the balances. -/
def ShopController.Labelled (shop : ShopController) : Prop :=
  shop.stall = Game.stall shop.balance shop.powerUps

theorem ShopController.Labelled.select {shop : ShopController} (labelled : shop.Labelled)
    (userDefault : UserDefaults) (row : ℕ) : (shop.didSelectItemAt userDefault row).1.Labelled := by
  by_cases accepted : shop.acornNumber ≥ 5
  · by_cases first : row = 0
    · simp [Labelled, didSelectItemAt, accepted, first, stall, Game.stall, updateLabels, balance]
    · simp [Labelled, didSelectItemAt, accepted, first, stall, Game.stall, updateLabels, balance]
  · rw [didSelectItemAt_of_refused (by omega)]
    exact labelled

theorem ShopController.powerUps_select (shop : ShopController) (userDefault : UserDefaults)
    (row : ℕ) : (shop.didSelectItemAt userDefault row).1.powerUps = shop.powerUps := by
  simp only [didSelectItemAt]
  split
  · split <;> rfl
  · rfl

namespace App

/-- The app is where the game is. -/
inductive Represents : App → Game → Prop where
  | off (device : Device) (save : Save) (books : App.Books (.terminated device) save.purse)
      (best : device.userDefault.integer .best = save.best)
      (reported : device.reported = save.reported) :
      Represents (.terminated device) ⟨save, .off⟩
  | main (vc : ViewController) (save : Save) (play : Play) (books : vc.Books save.purse)
      (represents : vc.Represents save play) (shown : play.shown = save.purse) :
      Represents (.mainScreen vc) ⟨save, .main play⟩
  | shop (vc : ViewController) (shop : ShopController) (save : Save) (play : Play)
      (books : App.Books (.shopScreen vc shop) save.purse)
      (represents : vc.Represents save play) (stopped : play.mode = .stopped)
      (labelled : shop.Labelled) :
      Represents (.shopScreen vc shop) ⟨save, .shop play shop.powerUps⟩

theorem Represents.display {app : App} {game : Game} (represents : app.Represents game) :
    app.display = game.display := by
  cases represents with
  | off device save books best reported => rfl
  | main vc save play books represents shown =>
      exact congrArg Display.main represents.screen
  | shop vc shop save play books represents stopped labelled =>
      have purse : shop.balance = save.purse := funext books.2.1
      rw [App.display, Game.display, represents.screen, labelled, purse]

section Steps

variable {sort : SortRoutine PowerUp} {device : Device} {history : History App Event}
  {app next : App} {event : Event} {game : Game} {vc : ViewController} {save : Save} {play : Play}

/-- In a run the persisted balances are the ones held, so a represented play brings the books. -/
theorem Represents.of_main (run : Run (uikit sort) (firstLaunch device) history (.mainScreen vc))
    (represents : vc.Represents save play) (shown : play.shown = save.purse) :
    App.Represents (.mainScreen vc) ⟨save, .main play⟩ := by
  have books : vc.Books fun currency => vc.userDefault.integer currency.key :=
    books_of_run run.of_restrict
  have purse : (fun currency : Currency => vc.userDefault.integer currency.key) = save.purse := by
    rw [← shown, ← represents.tells.shown]
    funext currency
    exact (books.held currency).symm
  rw [purse] at books
  exact .main vc save play books represents shown

theorem Represents.of_presentShop
    (run : Run (uikit sort) (firstLaunch device) history (.shopScreen vc vc.presentShop))
    (represents : vc.Represents save play) (stopped : play.mode = .stopped)
    (shown : play.shown = save.purse) :
    App.Represents (.shopScreen vc vc.presentShop) ⟨save, .shop play []⟩ := by
  have books : App.Books (.shopScreen vc vc.presentShop)
      fun currency => vc.userDefault.integer currency.key := books_of_run run.of_restrict
  have purse : (fun currency : Currency => vc.userDefault.integer currency.key) = save.purse := by
    rw [← shown, ← represents.tells.shown]
    funext currency
    have copied : vc.presentShop.balance currency = vc.balance currency := by
      cases currency <;> rfl
    exact (books.2.1 currency).symm.trans copied
  rw [purse] at books
  exact .shop vc vc.presentShop save play books represents stopped rfl

/-- No timer fires while a round is stopped. -/
theorem running_of_scheduled (represents : vc.Represents save play) {timer : Timer TimerBlock}
    (scheduled : timer ∈ vc.runLoop.timers) : play.mode.isRunning = true := by
  have timers : vc.runLoop.timers = if play.mode.isRunning then [vc.timer] else [] :=
    represents.shows.timers
  cases running : play.mode.isRunning with
  | true => rfl
  | false => simp [timers, running] at scheduled

theorem press_represents (represents : vc.Represents save play) (shown : play.shown = save.purse) :
    vc.startStopButtonTapped.Represents (Game.press save play).1 (Game.press save play).2 ∧
      (Game.press save play).2.shown = (Game.press save play).1.purse := by
  cases running : play.mode.isRunning with
  | true =>
      simp only [Game.press, running, if_true]
      exact ⟨(represents.stop shown running).1, Game.shown_stop shown⟩
  | false =>
      simp only [Game.press, running, Bool.false_eq_true, if_false]
      exact ⟨represents.start shown (Mode.eq_stopped running), shown⟩

theorem quit_represents (represents : vc.Represents save play) (shown : play.shown = save.purse) :
    vc.buttonShop.Represents (Game.quit save play).1 (Game.quit save play).2 ∧
      (Game.quit save play).2.mode = .stopped ∧
      (Game.quit save play).2.shown = (Game.quit save play).1.purse := by
  have isRunning : vc.isTimerRunning = play.mode.isRunning := represents.shows.isTimerRunning
  cases running : play.mode.isRunning with
  | true =>
      simp only [Game.quit, running, if_true]
      exact ⟨(represents.stop shown running).2, Game.mode_stop, Game.shown_stop shown⟩
  | false =>
      simp only [Game.quit, running, Bool.false_eq_true, if_false]
      rw [ViewController.buttonShop_of_stopped vc (isRunning.trans running)]
      exact ⟨represents, Mode.eq_stopped running, shown⟩

theorem Represents.select {shop : ShopController}
    (books : App.Books (.shopScreen vc shop) save.purse) (represents : vc.Represents save play)
    (stopped : play.mode = .stopped) (labelled : shop.Labelled) (row : ℕ) :
    App.Represents
      (.shopScreen { vc with userDefault := (shop.didSelectItemAt vc.userDefault row).2 }
        (shop.didSelectItemAt vc.userDefault row).1)
      ⟨{ save with purse := Game.pick save.purse row }, .shop play shop.powerUps⟩ := by
  have booked := Books.select books row
  have acorn : shop.acornNumber = save.purse .acorn := books.2.1 .acorn
  have purse : save.purse + booking (.shopScreen vc shop, .didSelectItemAt row) =
      Game.pick save.purse row := by
    by_cases accepted : shop.acornNumber ≥ 5
    · rw [booking_of_accepted accepted, Game.pick, ← acorn, if_pos accepted]
    · rw [booking_of_refused (by omega), Game.pick, ← acorn, if_neg accepted, add_zero]
  rw [purse] at booked
  rw [← shop.powerUps_select vc.userDefault row]
  refine .shop _ _ _ play booked ⟨represents.shows, ?_⟩ stopped (labelled.select _ row)
  exact { represents.tells with
    stored := (select_best shop vc.userDefault row).trans represents.tells.stored }

theorem Represents.observe {shop : ShopController}
    (books : App.Books (.shopScreen vc shop) save.purse) (represents : vc.Represents save play)
    (stopped : play.mode = .stopped) (labelled : shop.Labelled) (snapshot : SnapshotValue) :
    App.Represents (.shopScreen vc (shop.observePowerUps sort snapshot))
      ⟨save, .shop play ((APIService.observePowerUps snapshot).elim shop.powerUps fun entry =>
        sort.sorted PowerUp.areInIncreasingOrder (shop.powerUps ++ [entry]))⟩ := by
  have balance : (shop.observePowerUps sort snapshot).balance = shop.balance := by
    cases snapshot <;> funext currency <;> cases currency <;> rfl
  have powerUps : (shop.observePowerUps sort snapshot).powerUps =
      (APIService.observePowerUps snapshot).elim shop.powerUps fun entry =>
        sort.sorted PowerUp.areInIncreasingOrder (shop.powerUps ++ [entry]) := by
    cases snapshot <;> rfl
  have labels : (shop.observePowerUps sort snapshot).Labelled := by
    rw [ShopController.Labelled, balance]
    have texts := congrArg Stall.acorn labelled
    have greens := congrArg Stall.green labelled
    have ices := congrArg Stall.ice labelled
    cases snapshot with
    | dictionary dictionary =>
        simp only [ShopController.stall, Game.stall] at texts greens ices ⊢
        simp only [ShopController.observePowerUps, APIService.observePowerUps,
          ShopController.append, texts, greens, ices]
    | other => exact labelled
  rw [← powerUps]
  exact .shop vc _ save play ⟨books.1, fun currency => (congrFun balance currency).trans
    (books.2.1 currency), books.2.2⟩ represents stopped labels

/-- What the app does, the game does. -/
theorem forth (run : Run (uikit sort) (firstLaunch device) history app)
    (represents : app.Represents game) (step : (uikit sort).Step app event next) :
    ∃ moved, game.next sort event.input = some moved ∧ next.Represents moved := by
  have after := run.snoc step
  rcases step with ⟨delivered, step⟩
  cases represents with
  | off device save books best reported =>
      cases step with
      | launch device =>
          rcases books with ⟨flagged, stored⟩
          have purse : ViewController.opening device = save.purse := by
            funext currency
            simp [ViewController.opening, flagged, stored]
          have launched := ViewController.represents_launch (Or.inl flagged)
          rw [purse, best, reported] at launched
          exact ⟨_, rfl, .of_main after launched rfl⟩
  | main vc save play books represents shown =>
      cases step with
      | killMain vc =>
          exact ⟨_, rfl, .off _ save ⟨books.loaded.stored, books.stored⟩
            represents.tells.stored represents.tells.reported⟩
      | startStop vc =>
          have pressed := press_represents represents shown
          exact ⟨_, rfl, .of_main after pressed.1 pressed.2⟩
      | ice vc =>
          have tappable := (ViewController.iceTappable_iff represents.shows).mp delivered
          have ice : play.shown .ice ≠ 0 := by
            rw [← represents.tells.shown]
            exact tappable.2
          refine ⟨_, if_pos ⟨tappable.1, ice⟩, .of_main after ?_ rfl⟩
          exact represents.ice shown tappable.1
      | green vc =>
          have running :=
            (ViewController.isRunning_of_greenTappable represents.shows delivered).1
          have offered : play.greenOffered = true :=
            (represents.tells.greenOffered running).symm.trans delivered.2
          exact ⟨_, if_pos ⟨running, offered⟩, .of_main after (represents.green shown) rfl⟩
      | openShop vc =>
          have quitted := quit_represents represents shown
          exact ⟨_, rfl, .of_presentShop after quitted.1 quitted.2.1 quitted.2.2⟩
      | fireMain vc timer scheduled =>
          have live := (ticks_of_run run rfl timer scheduled).2
          exact ⟨_, if_pos (running_of_scheduled represents scheduled),
            .of_main after (represents.tick scheduled live) shown⟩
      | appearMain vc =>
          exact ⟨_, rfl, .of_main after
            (represents.appear books.loaded books.stored fun _ => shown) rfl⟩
  | shop vc shop save play books represents stopped labelled =>
      have notRunning : play.mode.isRunning = true → play.shown = save.purse := by
        rw [stopped]
        intro running
        cases running
      cases step with
      | killShop vc shop =>
          exact ⟨_, rfl, .off _ save ⟨books.1.stored, books.2.2⟩
            represents.tells.stored represents.tells.reported⟩
      | fireShop vc shop timer scheduled =>
          have running := running_of_scheduled represents scheduled
          rw [stopped] at running
          cases running
      | appearShop vc shop =>
          have again := ViewController.Books.viewDidAppear books.1 books.2.2
          exact ⟨_, rfl, .shop _ shop save _ ⟨again.loaded, books.2.1, again.stored⟩
            (represents.appear books.1 books.2.2 notRunning) stopped labelled⟩
      | childAdded vc shop snapshot =>
          exact ⟨_, rfl, .observe books represents stopped labelled snapshot⟩
      | select vc shop row isRow =>
          exact ⟨_, if_pos isRow, .select books represents stopped labelled row⟩
      | back vc shop =>
          exact ⟨_, rfl, .of_main after
            (represents.appear books.1 books.2.2 notRunning) rfl⟩

theorem exists_delivery (entry : Option PowerUp) :
    ∃ snapshot, APIService.observePowerUps snapshot = entry := by
  cases entry with
  | none => exact ⟨.other, rfl⟩
  | some entry =>
      refine ⟨.dictionary entry.dictionary, ?_⟩
      rw [APIService.observePowerUps, PowerUp.ofDictionary_dictionary]

/-- What the game accepts, the app can do. -/
theorem back {moved : Game} {input : Input} (represents : app.Represents game)
    (accepted : game.next sort input = some moved) :
    ∃ event next, event.input = input ∧ (uikit sort).Step app event next := by
  cases represents with
  | off device save books best reported =>
      cases input with
      | launch => exact ⟨.launch, _, rfl, trivial, .launch device⟩
      | _ => cases accepted
  | main vc save play books represents shown =>
      cases input with
      | kill => exact ⟨.kill, _, rfl, trivial, .killMain vc⟩
      | press => exact ⟨.startStopButtonTapped, _, rfl, trivial, .startStop vc⟩
      | ice =>
          simp only [Game.next, Option.ite_none_right_eq_some] at accepted
          have tappable : vc.buttonViewIce.Tappable := by
            apply (ViewController.iceTappable_iff represents.shows).mpr
            refine ⟨accepted.1.1, ?_⟩
            have ice := accepted.1.2
            rwa [← represents.tells.shown] at ice
          exact ⟨.buttonIceTapped, _, rfl, tappable, .ice vc⟩
      | green =>
          simp only [Game.next, Option.ite_none_right_eq_some] at accepted
          rcases accepted with ⟨⟨running, offered⟩, _⟩
          have hidden : vc.buttonViewGreen.isHidden = !play.mode.isRunning :=
            represents.shows.greenIsHidden
          have tappable : vc.buttonViewGreen.Tappable := by
            refine ⟨?_, (represents.tells.greenOffered running).trans offered⟩
            rw [hidden, running]
            rfl
          exact ⟨.buttonGreenTapped, _, rfl, tappable, .green vc⟩
      | shop => exact ⟨.buttonShop, _, rfl, trivial, .openShop vc⟩
      | tick =>
          simp only [Game.next, Option.ite_none_right_eq_some] at accepted
          have timers : vc.runLoop.timers =
              if play.mode.isRunning then [vc.timer] else [] := represents.shows.timers
          have scheduled : vc.timer ∈ vc.runLoop.timers := by
            simp [timers, accepted.1]
          exact ⟨.fire vc.timer, _, rfl, trivial, .fireMain vc vc.timer scheduled⟩
      | appear => exact ⟨.viewDidAppear, _, rfl, trivial, .appearMain vc⟩
      | _ => cases accepted
  | shop vc shop save play books represents stopped labelled =>
      cases input with
      | kill => exact ⟨.kill, _, rfl, trivial, .killShop vc shop⟩
      | appear => exact ⟨.viewDidAppear, _, rfl, trivial, .appearShop vc shop⟩
      | deliver entry =>
          rcases exists_delivery entry with ⟨snapshot, delivers⟩
          exact ⟨.childAdded snapshot, _, congrArg Input.deliver delivers, trivial,
            .childAdded vc shop snapshot⟩
      | pick row =>
          simp only [Game.next, Option.ite_none_right_eq_some] at accepted
          exact ⟨.didSelectItemAt row, _, rfl, trivial, .select vc shop row accepted.1⟩
      | leave => exact ⟨.didTapBackButton, _, rfl, trivial, .back vc shop⟩
      | _ => cases accepted

theorem bisimulation (sort : SortRoutine PowerUp) (device : Device) :
    Bisimulation (uikit sort) (firstLaunch device) (Game.next sort) Event.input Represents where
  forth := forth
  back := by
    intro history app game moved input run represents accepted
    rcases back represents accepted with ⟨event, next, stands, step⟩
    rcases forth run represents step with ⟨reached, same, relatedNext⟩
    rw [stands, accepted] at same
    cases same
    exact ⟨event, next, stands, step, relatedNext⟩

theorem represents_opening (seasoned : device.Seasoned) :
    (firstLaunch device).Represents (Game.opening device) :=
  .main _ _ _ (ViewController.Books.launch device) (ViewController.represents_launch seasoned) rfl

end Steps

/-- On a device where nothing is stored before the first launch, the app plays the game: a run
of the app is a play of the game on the same inputs, each play is some run, and what is displayed
is what the game displays. -/
theorem plays_game (sort : SortRoutine PowerUp) {device : Device} (seasoned : device.Seasoned) :
    (∀ history app, Run (uikit sort) (firstLaunch device) history app →
      ∃ game, play (Game.next sort) (.opening device) (inputs Event.input history) = some game ∧
        app.display = game.display) ∧
      ∀ script game, play (Game.next sort) (.opening device) script = some game →
        ∃ history app, Run (uikit sort) (firstLaunch device) history app ∧
          inputs Event.input history = script ∧ app.display = game.display := by
  have initial := represents_opening seasoned
  refine ⟨?_, ?_⟩
  · intro history app run
    rcases (bisimulation sort device).plays initial run with ⟨game, played, represents⟩
    exact ⟨game, played, represents.display⟩
  · intro script game played
    rcases (bisimulation sort device).realizes initial played with
      ⟨history, app, run, same, represents⟩
    exact ⟨history, app, run, same, represents.display⟩

theorem seasoned_fresh : Device.fresh.Seasoned := by
  right
  intro currency
  cases currency <;> rfl

/-- A round stopped at 1.00 on a fresh device. -/
theorem plays_game_oneSecond :
    ∃ history app screen, Run (uikit .insertion) (firstLaunch .fresh) history app ∧
      inputs Event.input history = .press :: List.replicate 100 .tick ++ [.press] ∧
      app.display = .main screen ∧ screen.timer = "1.00" ∧ screen.score = "Score: 1" ∧
      screen.acorn = "21" := by
  let script : List Input := .press :: List.replicate 100 .tick ++ [.press]
  let won (game : Game) : Bool :=
    match game.display with
    | .main screen =>
        screen.timer == "1.00" && (screen.score == "Score: 1" && screen.acorn == "21")
    | _ => false
  have passes : (play (Game.next .insertion) (.opening .fresh) script).any won = true := by
    decide +kernel
  rcases (Option.any_eq_true _ _).mp passes with ⟨game, played, isWon⟩
  rcases (plays_game .insertion seasoned_fresh).2 script game played with
    ⟨history, app, run, same, display⟩
  simp only [won] at isWon
  split at isWon
  · next screen front =>
      simp only [Bool.and_eq_true, beq_iff_eq] at isWon
      exact ⟨history, app, screen, run, same, display.trans front, isWon⟩
  · cases isWon

end App

end OneSecond
