import OneSecond.Runs.Simulation
import OneSecond.Stopwatch

/-!
# The game

What the app is for, without its controllers: a purse of acorns and power-ups, a
best score and a leaderboard, which last, and a play with its score, stopwatch
and shield, which ends with the process.  The stopwatch is one count of
hundredths and one dial; a stop wins when the dial is at a whole second.

`Game.next` is the whole game, one case for each input, and `Game.display` is
all a player ever sees of it.
-/

namespace OneSecond

open Runs Sorting Decimal

inductive Input where
  | launch
  | kill
  | press
  | ice
  | green
  | shop
  | tick
  | appear
  /-- The catalogue is extended, if the delivery can be read. -/
  | deliver (entry : Option PowerUp)
  | pick (row : ℕ)
  | leave
  deriving DecidableEq

/-- What lasts. -/
structure Save where
  purse : Currency → ℤ
  best : ℤ
  reported : List ℤ

/-- What ends with the process. -/
structure Play where
  mode : Mode
  score : ℤ
  /-- Hundredths of a second the stopwatch has counted. -/
  clock : ℕ
  /-- Hundredths of a second it shows. -/
  dial : ℕ
  shield : Bool
  greenOffered : Bool
  iced : Bool
  confetti : Bool
  track : TrackColor
  /-- The balances as the main screen last read them. -/
  shown : Currency → ℤ

inductive Front where
  | off
  | main (play : Play)
  | shop (play : Play) (entries : List PowerUp)

structure Game where
  save : Save
  front : Front

namespace Play

/-- The dial is at a whole second other than the zeroth. -/
def wins (play : Play) : Bool := 100 ≤ play.dial && play.dial % 100 == 0

/-- A shield outlives the start of a round only up to a score of 1. -/
def keepsShield (play : Play) : Bool := play.score ≤ 1 && play.shield

def fresh (purse : Currency → ℤ) : Play where
  mode := .stopped
  score := 0
  clock := 0
  dial := 0
  shield := false
  greenOffered := false
  iced := false
  confetti := false
  track := .setup
  shown := purse

end Play

namespace Game

/-- One currency moves, and the main screen shows it. -/
def book (save : Save) (play : Play) (currency : Currency) (value : ℤ) : Save × Play :=
  ({ save with purse := save.purse + amount currency value },
    { play with shown := save.purse + amount currency value })

def report (save : Save) : Save := { save with reported := save.best :: save.reported }

def start (save : Save) (play : Play) : Save × Play :=
  (report save,
    { play with
      mode := .running
      shield := play.keepsShield
      greenOffered := save.purse .green ≠ 0
      iced := false
      confetti := false
      track := if play.keepsShield then .greenPowerUp else .resetColor })

def stop (save : Save) (play : Play) : Save × Play :=
  let play := { play with mode := .stopped }
  if play.wins then
    book save { play with score := play.score + 1, track := .fullColorWin } .acorn 1
  else if play.shield then (save, { play with clock := 0 })
  else
    ({ save with best := max save.best play.score },
      { play with
        clock := 0
        score := 0
        confetti := play.score > save.best || play.confetti
        track := .resetColor })

def press (save : Save) (play : Play) : Save × Play :=
  if play.mode.isRunning then stop save play else start save play

def useIce (save : Save) (play : Play) : Save × Play :=
  book save { play with mode := .frozen, iced := true } .ice (-1)

def useGreen (save : Save) (play : Play) : Save × Play :=
  book save { play with shield := true, greenOffered := false, track := .greenPowerUp } .green (-1)

/-- Leaving for the shop ends a running round, and reports once more. -/
def quit (save : Save) (play : Play) : Save × Play :=
  if play.mode.isRunning then (report (stop save play).1, (stop save play).2) else (save, play)

def tick (play : Play) : Play :=
  { play with clock := play.clock + 1, dial := play.clock + 1 }

/-- Five acorns buy a Green at the first row, and an Ice at any other. -/
def pick (purse : Currency → ℤ) (row : ℕ) : Currency → ℤ :=
  if purse .acorn ≥ 5 then
    purse + (amount .acorn (-5) + amount (ShopController.kindOfRow row) 1)
  else purse

theorem stop_of_wins {save : Save} {play : Play} (wins : play.wins = true) :
    stop save play =
      book save { play with mode := .stopped, score := play.score + 1, track := .fullColorWin }
        .acorn 1 :=
  if_pos wins

theorem stop_of_shielded {save : Save} {play : Play} (misses : play.wins = false)
    (shield : play.shield = true) :
    stop save play = (save, { play with mode := .stopped, clock := 0 }) := by
  simp [stop, Play.wins] at misses ⊢
  grind

theorem stop_of_exposed {save : Save} {play : Play} (misses : play.wins = false)
    (exposed : play.shield = false) :
    stop save play =
      ({ save with best := max save.best play.score },
        { play with
          mode := .stopped
          clock := 0
          score := 0
          confetti := play.score > save.best || play.confetti
          track := .resetColor }) := by
  simp [stop, Play.wins] at misses ⊢
  grind

theorem shown_stop {save : Save} {play : Play} (shown : play.shown = save.purse) :
    (stop save play).2.shown = (stop save play).1.purse := by
  cases wins : play.wins with
  | true =>
      rw [stop_of_wins wins]
      rfl
  | false =>
      cases shield : play.shield with
      | true =>
          rw [stop_of_shielded wins shield]
          exact shown
      | false =>
          rw [stop_of_exposed wins shield]
          exact shown

theorem mode_stop {save : Save} {play : Play} : (stop save play).2.mode = .stopped := by
  cases wins : play.wins with
  | true =>
      rw [stop_of_wins wins]
      rfl
  | false =>
      cases shield : play.shield with
      | true => rw [stop_of_shielded wins shield]
      | false => rw [stop_of_exposed wins shield]

def next (sort : SortRoutine PowerUp) : Game → Input → Option Game
  | ⟨save, .off⟩, .launch => some ⟨save, .main (.fresh save.purse)⟩
  | ⟨save, .main _⟩, .kill => some ⟨save, .off⟩
  | ⟨save, .shop _ _⟩, .kill => some ⟨save, .off⟩
  | ⟨save, .main play⟩, .press => some ⟨(press save play).1, .main (press save play).2⟩
  | ⟨save, .main play⟩, .ice =>
      if play.mode = .running ∧ play.shown .ice ≠ 0 then
        some ⟨(useIce save play).1, .main (useIce save play).2⟩
      else none
  | ⟨save, .main play⟩, .green =>
      if play.mode.isRunning ∧ play.greenOffered then
        some ⟨(useGreen save play).1, .main (useGreen save play).2⟩
      else none
  | ⟨save, .main play⟩, .shop => some ⟨(quit save play).1, .shop (quit save play).2 []⟩
  | ⟨save, .main play⟩, .tick =>
      if play.mode.isRunning then some ⟨save, .main (tick play)⟩ else none
  | ⟨save, .main play⟩, .appear => some ⟨save, .main { play with shown := save.purse }⟩
  | ⟨save, .shop play entries⟩, .appear =>
      some ⟨save, .shop { play with shown := save.purse } entries⟩
  | ⟨save, .shop play entries⟩, .deliver entry =>
      some ⟨save, .shop play (entry.elim entries fun entry =>
        sort.sorted PowerUp.areInIncreasingOrder (entries ++ [entry]))⟩
  | ⟨save, .shop play entries⟩, .pick row =>
      if row < entries.length then
        some ⟨{ save with purse := pick save.purse row }, .shop play entries⟩
      else none
  | ⟨save, .shop play _⟩, .leave => some ⟨save, .main { play with shown := save.purse }⟩
  | _, _ => none

/-- The game at the first launch on a device. -/
def opening (device : Device) : Game where
  save := ⟨ViewController.opening device, device.userDefault.integer .best, device.reported⟩
  front := .main (.fresh (ViewController.opening device))

end Game

/-- The main screen: its texts, what can be tapped, and what moves or is tinted. -/
structure Screen where
  score : String
  best : String
  acorn : String
  green : String
  ice : String
  timer : String
  startStop : String
  iceTappable : Bool
  greenTappable : Bool
  shopVisible : Bool
  overlayVisible : Bool
  confetti : Bool
  track : TrackColor
  circleAdvances : Bool
  /-- How long a turn of the wood takes, while it turns. -/
  woodTurns : Option ℚ

/-- The shop's labels and its list. -/
structure Stall where
  acorn : String
  green : String
  ice : String
  entries : List PowerUp

inductive Display where
  | off
  | main (screen : Screen)
  | shop (behind : Screen) (stall : Stall)

namespace Game

def screen (save : Save) (play : Play) : Screen where
  score := "Score: " ++ toString play.score
  best := "Best: " ++ toString save.best
  acorn := toString (play.shown .acorn)
  green := toString (play.shown .green)
  ice := toString (play.shown .ice)
  timer := fixedPoint 2 (play.dial / 100) (play.dial % 100)
  startStop := if play.mode.isRunning then "Stop" else "Start"
  iceTappable := play.mode = .running && play.shown .ice ≠ 0
  greenTappable := play.mode.isRunning && play.greenOffered
  shopVisible := !play.mode.isRunning
  overlayVisible := play.iced
  confetti := play.confetti
  track := play.track
  circleAdvances := play.mode = .running
  woodTurns := if play.mode.isRunning then some play.mode.durationRotate else none

def stall (purse : Currency → ℤ) (entries : List PowerUp) : Stall where
  acorn := toString (purse .acorn)
  green := toString (purse .green)
  ice := toString (purse .ice)
  entries := entries

def display (game : Game) : Display :=
  match game.front with
  | .off => .off
  | .main play => .main (screen game.save play)
  | .shop play entries => .shop (screen game.save play) (stall game.save.purse entries)

end Game

end OneSecond
