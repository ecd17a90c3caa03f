import OneSecond.Platform
import OneSecond.CircleProgress

/-!
# The main screen (`ViewController.swift`)

`ViewController` holds the controller's stored properties, what its outlets
show, and the three things its handlers reach outside the object: the standard
defaults database, the main run loop and the scores reported to Game Center.
Every handler is a function on this record, statement by statement as in the
source.

A property with a `didSet` observer is assigned through a setter (`setScore`,
`setAcornNumber`, ...) which runs the observer; an assignment inside the
observer itself does not run it again.  Left out are statements without effect
on this data: `print`, the geometry of views and animations, and the Game
Center login.
-/

namespace OneSecond

inductive PowerEffect where
  | none
  | freeze
  | fire
  | green
  deriving DecidableEq, Repr

/-- The closures the controller hands to its timers; `none` for a bare `Timer()`. -/
inductive TimerBlock where
  | none
  /-- `buttonIceTapped`: only increments the counter. -/
  | increment
  /-- `buttonTapped`: increments the counter, and restarts the circle after each lap. -/
  | incrementAndLap
  deriving DecidableEq, Repr

structure ViewController where
  powerStatus : PowerEffect
  score : ℤ
  best : ℤ
  isTimerRunning : Bool
  timer : Timer TimerBlock
  boolCheckUserDefault : Bool
  timeIntervalIce : Timer TimerBlock
  seconds : ℤ
  milliseconds : ℤ
  suffix : ℤ
  isTimerRunningIce : Bool
  durationRotate : ℚ
  count : ℤ
  checkerCirlceProgress : Bool
  greenActiveted : Bool
  acornNumber : ℤ
  greenNumber : ℤ
  iceNumber : ℤ
  /-- The outlets. -/
  circleProgress : CircleProgress
  labelAcorn : UILabel
  buttonBest : UIButton
  buttonScore : UIButton
  labelTimer : UILabel
  startStopButton : UIButton
  buttonViewIce : UIButton
  buttonViewGreen : UIButton
  buttonShopOutlet : UIButton
  /-- The duration of the rotation `imageWood`'s layer carries, if it carries one. -/
  imageWoodRotation : Option ℚ
  /-- `containerViewController?.overlayEffectImageView.isHidden`. -/
  overlayIsHidden : Bool
  /-- Whether `confettiView` emits. -/
  confettiStarted : Bool
  /-- `UserDefaults.standard`. -/
  userDefault : UserDefaults
  /-- `RunLoop.main`. -/
  runLoop : RunLoop TimerBlock
  /-- The values handed to `GKScore.report`, latest first. -/
  reported : List ℤ

/-- What outlives the process: the defaults database and the scores already reported. -/
structure Device where
  userDefault : UserDefaults
  reported : List ℤ

namespace ViewController

def device (vc : ViewController) : Device := ⟨vc.userDefault, vc.reported⟩

def shouldShowOverlayEffect (vc : ViewController) (isHidden : Bool) : ViewController :=
  { vc with overlayIsHidden := isHidden }

def showHideButtons (vc : ViewController) : ViewController :=
  { vc with
    buttonViewIce := { vc.buttonViewIce with isHidden := !vc.isTimerRunning }
    buttonViewGreen := { vc.buttonViewGreen with isHidden := !vc.isTimerRunning }
    buttonShopOutlet := { vc.buttonShopOutlet with isHidden := vc.isTimerRunning } }

/-- Adds the rotation to the wood's layer, under its one key. -/
def rotate (vc : ViewController) : ViewController :=
  { vc with imageWoodRotation := some vc.durationRotate }

/-- `stopAnimationForView(imageWood)`. -/
def stopAnimationForView (vc : ViewController) : ViewController :=
  { vc with imageWoodRotation := none }

def setPowerStatus (vc : ViewController) (powerStatus : PowerEffect) : ViewController :=
  let vc := { vc with powerStatus }
  match powerStatus with
  | .freeze => vc.shouldShowOverlayEffect false
  | .fire => vc.shouldShowOverlayEffect false
  | _ => vc

def setScore (vc : ViewController) (score : ℤ) : ViewController :=
  let vc := { vc with score }
  { vc with buttonScore := vc.buttonScore.setTitle ("Score: " ++ toString vc.score) }

def setBest (vc : ViewController) (best : ℤ) : ViewController :=
  let vc := { vc with best }
  { vc with buttonBest := vc.buttonBest.setTitle ("Best: " ++ toString vc.best) }

def setIsTimerRunning (vc : ViewController) (isTimerRunning : Bool) : ViewController :=
  let vc := { vc with isTimerRunning }
  vc.showHideButtons

def setAcornNumber (vc : ViewController) (acornNumber : ℤ) : ViewController :=
  let vc := { vc with acornNumber }
  let vc := { vc with userDefault := vc.userDefault.set vc.acornNumber .acorn }
  let vc := { vc with labelAcorn := ⟨toString vc.acornNumber⟩ }
  { vc with acornNumber := vc.userDefault.integer .acorn }

def setGreenNumber (vc : ViewController) (greenNumber : ℤ) : ViewController :=
  let vc := { vc with greenNumber }
  let vc := { vc with userDefault := vc.userDefault.set vc.greenNumber .green }
  let vc := { vc with greenNumber := vc.userDefault.integer .green }
  { vc with buttonViewGreen := vc.buttonViewGreen.setTitle (toString vc.greenNumber) }

def setIceNumber (vc : ViewController) (iceNumber : ℤ) : ViewController :=
  let vc := { vc with iceNumber }
  let vc := { vc with userDefault := vc.userDefault.set vc.iceNumber .ice }
  let vc := { vc with buttonViewIce := vc.buttonViewIce.setTitle (toString vc.iceNumber) }
  { vc with iceNumber := vc.userDefault.integer .ice }

/-- Swift's `/` truncates towards zero. -/
def display (vc : ViewController) (miliseconds : ℤ) : ViewController :=
  let vc := { vc with seconds := miliseconds.tdiv 100 }
  let vc := { vc with suffix := miliseconds - vc.seconds * 100 }
  { vc with labelTimer :=
      if vc.suffix < 10 then ⟨toString vc.seconds ++ ".0" ++ toString vc.suffix⟩
      else ⟨toString vc.seconds ++ "." ++ toString vc.suffix⟩ }

def incrementMiliseconds (vc : ViewController) : ViewController :=
  let vc := { vc with milliseconds := vc.milliseconds + 1 }
  vc.display vc.milliseconds

def restartLap (vc : ViewController) : ViewController :=
  if vc.count = 101 then
    { vc with count := 1, circleProgress := vc.circleProgress.start }
  else vc

/-- The closure of the timer made by `buttonTapped`. -/
def incrementAndLap (vc : ViewController) : ViewController :=
  let vc := vc.incrementMiliseconds
  let vc := { vc with count := vc.count + 1 }
  vc.restartLap

/-- A scheduled timer fires: its block runs. -/
def fire (vc : ViewController) (timer : Timer TimerBlock) : ViewController :=
  match timer.block with
  | .none => vc
  | .increment => vc.incrementMiliseconds
  | .incrementAndLap => vc.incrementAndLap

/-- `timer.invalidate()`. -/
def invalidateTimer (vc : ViewController) : ViewController :=
  { vc with runLoop := vc.runLoop.invalidate vc.timer }

/-- `timeIntervalIce.invalidate()`. -/
def invalidateTimeIntervalIce (vc : ViewController) : ViewController :=
  { vc with runLoop := vc.runLoop.invalidate vc.timeIntervalIce }

/-- `timer = Timer(timeInterval:repeats:block:)` and `RunLoop.main.add(timer, forMode:)`. -/
def scheduleTimer (vc : ViewController) (timeInterval : ℚ) (block : TimerBlock) :
    ViewController :=
  let vc := { vc with timer := vc.runLoop.makeTimer timeInterval block }
  { vc with runLoop := vc.runLoop.add vc.timer }

def setUpTimer (vc : ViewController) : ViewController :=
  let vc := vc.rotate
  let vc := { vc with circleProgress := vc.circleProgress.pause }
  { vc with buttonViewIce := { vc.buttonViewIce with isUserInteractionEnabled := false } }

/-- The verdict of `timerStops` on a stop made now. -/
def stopWins (vc : ViewController) : Bool :=
  vc.seconds ≥ 1 && vc.suffix == 0

/-- `timerStops` up to the verdict. -/
def endRound (vc : ViewController) : ViewController :=
  let vc := vc.setIsTimerRunning false
  let vc := vc.invalidateTimeIntervalIce
  let vc := { vc with isTimerRunningIce := false }
  let vc : ViewController := { vc with
    buttonViewGreen := { vc.buttonViewGreen with isUserInteractionEnabled := false } }
  let vc := vc.stopAnimationForView
  let vc := { vc with durationRotate := 0.9 }
  let vc := vc.invalidateTimer
  let vc := vc.setUpTimer
  let vc := { vc with startStopButton := vc.startStopButton.setTitle "Start" }
  vc.stopAnimationForView

/-- The winning branch. -/
def stopWon (vc : ViewController) : ViewController :=
  let vc := vc.setScore (vc.score + 1)
  let vc := vc.setAcornNumber (vc.acornNumber + 1)
  let vc := { vc with userDefault := vc.userDefault.set vc.acornNumber .acorn }
  let vc := vc.setAcornNumber (vc.userDefault.integer .acorn)
  let vc := { vc with userDefault := vc.userDefault.set vc.best .best }
  let vc := vc.setBest (vc.userDefault.integer .best)
  { vc with circleProgress := vc.circleProgress.fullColorWin }

/-- The score beats the best one. -/
def newBest (vc : ViewController) : ViewController :=
  let vc := vc.setBest vc.score
  let vc := { vc with userDefault := vc.userDefault.set vc.best .best }
  let vc := vc.setBest (vc.userDefault.integer .best)
  { vc with confettiStarted := true }

/-- A miss without a shield. -/
def scoreLost (vc : ViewController) : ViewController :=
  let vc := if vc.score > vc.best then vc.newBest else vc
  let vc := vc.setScore 0
  { vc with circleProgress := vc.circleProgress.resetColor }

/-- The losing branch. -/
def stopMissed (vc : ViewController) : ViewController :=
  let vc := { vc with count := 0 }
  let vc := if !vc.greenActiveted then vc.scoreLost else vc
  { vc with milliseconds := 0 }

def timerStops (vc : ViewController) : ViewController :=
  let vc := vc.endRound
  if vc.stopWins then vc.stopWon else vc.stopMissed

def checkCirlceProgress (vc : ViewController) : ViewController :=
  if vc.checkerCirlceProgress = true then
    { vc with circleProgress := vc.circleProgress.start, checkerCirlceProgress := false }
  else
    { vc with circleProgress := vc.circleProgress.pause, checkerCirlceProgress := true }

/-- Reports `best` to the leaderboard. -/
def checkBestScore (vc : ViewController) : ViewController :=
  { vc with reported := vc.best :: vc.reported }

/-- Whether the shield bought in an earlier round is still on in the round started now. -/
def keepsShield (vc : ViewController) : Bool :=
  vc.score ≤ 1 && vc.greenActiveted

/-- The `else` branch of `buttonTapped`: a round starts. -/
def timerRuns (vc : ViewController) : ViewController :=
  let vc := vc.checkBestScore
  let vc := { vc with confettiStarted := false }
  let vc := vc.invalidateTimer
  let vc : ViewController := { vc with
    circleProgress :=
      if vc.keepsShield then vc.circleProgress.greenPowerUp else vc.circleProgress.resetColor
    greenActiveted := if vc.keepsShield then vc.greenActiveted else false }
  let vc := { vc with count := 0 }
  let vc := { vc with isTimerRunningIce := false }
  let vc := vc.setIsTimerRunning true
  let vc := vc.shouldShowOverlayEffect true
  let vc := vc.invalidateTimeIntervalIce
  let vc := { vc with startStopButton := vc.startStopButton.setTitle "Stop" }
  let vc := vc.rotate
  let vc : ViewController := { vc with
    buttonViewIce := { vc.buttonViewIce with isUserInteractionEnabled := true }
    buttonViewGreen := { vc.buttonViewGreen with isUserInteractionEnabled := true } }
  let vc : ViewController := { vc with
    buttonViewGreen := { vc.buttonViewGreen with
      isUserInteractionEnabled := if vc.greenNumber = 0 then false else true } }
  let vc : ViewController := { vc with
    buttonViewIce := { vc.buttonViewIce with
      isUserInteractionEnabled := if vc.iceNumber = 0 then false else true } }
  vc.scheduleTimer 0.01 .incrementAndLap

def buttonTapped (vc : ViewController) : ViewController :=
  let vc := vc.checkCirlceProgress
  if vc.isTimerRunning then vc.timerStops else vc.timerRuns

def startStopButtonTapped (vc : ViewController) : ViewController :=
  vc.buttonTapped

def buttonIceTapped (vc : ViewController) : ViewController :=
  let vc := vc.setPowerStatus .freeze
  let vc := { vc with isTimerRunningIce := true }
  let vc := vc.invalidateTimer
  let vc := vc.scheduleTimer 0.15 .increment
  let vc := vc.stopAnimationForView
  let vc := { vc with durationRotate := 3 }
  let vc := vc.setUpTimer
  let vc := vc.setIceNumber (vc.iceNumber - 1)
  let vc := { vc with userDefault := vc.userDefault.set vc.iceNumber .ice }
  vc.setIceNumber (vc.userDefault.integer .ice)

def buttonGreenTapped (vc : ViewController) : ViewController :=
  let vc : ViewController := { vc with
    buttonViewGreen := { vc.buttonViewGreen with isUserInteractionEnabled := false } }
  let vc := { vc with circleProgress := vc.circleProgress.greenPowerUp }
  let vc := { vc with greenActiveted := true }
  vc.setGreenNumber (vc.greenNumber - 1)

def buttonShop (vc : ViewController) : ViewController :=
  if vc.isTimerRunning then
    let vc := vc.timerStops
    let vc := vc.checkBestScore
    { vc with checkerCirlceProgress := !vc.checkerCirlceProgress }
  else vc

/-- `setupUserDefaultSetLabel` once the flag is set: the balances are read again. -/
def reloadBalances (vc : ViewController) : ViewController :=
  let vc := vc.setGreenNumber (vc.userDefault.integer .green)
  let vc := { vc with buttonViewGreen := vc.buttonViewGreen.setTitle (toString vc.greenNumber) }
  let vc := vc.setIceNumber (vc.userDefault.integer .ice)
  let vc := { vc with buttonViewIce := vc.buttonViewIce.setTitle (toString vc.iceNumber) }
  let vc := vc.setAcornNumber (vc.userDefault.integer .acorn)
  { vc with labelAcorn := ⟨toString vc.acornNumber⟩ }

def grantIce (vc : ViewController) : ViewController :=
  if vc.iceNumber = 0 then
    let vc := { vc with userDefault := vc.userDefault.set 5 .ice }
    let vc := vc.setIceNumber (vc.userDefault.integer .ice)
    { vc with buttonViewIce := vc.buttonViewIce.setTitle (toString vc.iceNumber) }
  else vc

def grantGreen (vc : ViewController) : ViewController :=
  if vc.greenNumber = 0 then
    let vc := { vc with userDefault := vc.userDefault.set 5 .green }
    vc.setGreenNumber (vc.userDefault.integer .green)
  else vc

def grantAcorn (vc : ViewController) : ViewController :=
  if vc.acornNumber = 0 then
    let vc := { vc with userDefault := vc.userDefault.set 20 .acorn }
    let vc := vc.setAcornNumber (vc.userDefault.integer .acorn)
    { vc with labelAcorn := ⟨toString vc.acornNumber⟩ }
  else vc

/-- `setupUserDefaultSetLabel` while the flag is not set: what is missing is granted. -/
def grantStarters (vc : ViewController) : ViewController :=
  let vc := vc.grantIce
  let vc := vc.grantGreen
  let vc := vc.grantAcorn
  let vc := { vc with userDefault := vc.userDefault.setBool true .bool }
  { vc with boolCheckUserDefault := vc.userDefault.bool .bool }

/-- The stored best score is read, and shown. -/
def reloadBest (vc : ViewController) : ViewController :=
  let vc := vc.setBest (vc.userDefault.integer .best)
  { vc with buttonBest := vc.buttonBest.setTitle ("Best: " ++ toString vc.best) }

def setupUserDefaultSetLabel (vc : ViewController) : ViewController :=
  let vc := vc.reloadBest
  if vc.boolCheckUserDefault then vc.reloadBalances else vc.grantStarters

def viewDidAppear (vc : ViewController) : ViewController :=
  vc.setupUserDefaultSetLabel

def viewDidLoad (vc : ViewController) : ViewController :=
  let vc := vc.shouldShowOverlayEffect true
  let vc := vc.setupUserDefaultSetLabel
  vc.showHideButtons

/-- The controller as it is instantiated: the initial values of its properties, and its outlets
as `Main.storyboard` lays them out. -/
def instantiate (device : Device) : ViewController where
  powerStatus := .none
  score := 0
  best := 0
  isTimerRunning := false
  timer := ⟨0, 0, .none⟩
  boolCheckUserDefault := device.userDefault.bool .bool
  timeIntervalIce := ⟨1, 0, .none⟩
  seconds := 0
  milliseconds := 0
  suffix := 0
  isTimerRunningIce := false
  durationRotate := 0.9
  count := 1
  checkerCirlceProgress := true
  greenActiveted := false
  acornNumber := device.userDefault.integer .acorn
  greenNumber := device.userDefault.integer .green
  iceNumber := device.userDefault.integer .ice
  circleProgress := .drawn
  labelAcorn := ⟨"0"⟩
  buttonBest := ⟨"Best: 0", false, true⟩
  buttonScore := ⟨"Score: 0", false, true⟩
  labelTimer := ⟨"0.00"⟩
  startStopButton := ⟨"Start", false, true⟩
  buttonViewIce := ⟨"0", false, true⟩
  buttonViewGreen := ⟨"0", false, true⟩
  buttonShopOutlet := ⟨"", false, true⟩
  imageWoodRotation := none
  overlayIsHidden := false
  confettiStarted := false
  userDefault := device.userDefault
  runLoop := ⟨2, []⟩
  reported := device.reported

/-- A launch of the app: the main screen is instantiated and its view loaded. -/
def launch (device : Device) : ViewController :=
  (instantiate device).viewDidLoad

end ViewController

end OneSecond
