import Mathlib.Data.Rat.Defs

/-!
# The progress circle (`View/CircleProgress.swift`)

Two layers: the track, of which only the colour ever changes, and the shape
layer with the lap animation on top.  The drawing set-up (`draw`, paths, widths)
runs once, at the first display.
-/

namespace OneSecond

/-- The stroke colours given to the track: by `setupTrackLayer`, and by the three methods that
change it. -/
inductive TrackColor where
  /-- `setupTrackLayer`: (1, 0.945, 0.463). -/
  | setup
  /-- `fullColorWin`: (0.475, 0.839, 0.976). -/
  | fullColorWin
  /-- `resetColor`: (0.976, 0.851, 0.549). -/
  | resetColor
  /-- `greenPowerUp`: (0, 1, 0). -/
  | greenPowerUp
  deriving DecidableEq, Repr

structure CircleProgress where
  /-- `trackLayer.strokeColor`. -/
  trackStrokeColor : TrackColor
  /-- `shapeLayer.speed`; a layer starts with speed 1. -/
  shapeSpeed : ℚ
  /-- Whether `shapeLayer` carries the animation "urSoBasic". -/
  shapeAnimated : Bool
  deriving DecidableEq, Repr

namespace CircleProgress

/-- The circle after its first display. -/
def drawn : CircleProgress := ⟨.setup, 1, false⟩

/-- The animation is not removed on completion, so from its start on the layer keeps it. -/
def start (circle : CircleProgress) : CircleProgress :=
  { circle with shapeSpeed := 1, shapeAnimated := true }

/-- Freezes the layer at its present time. -/
def pause (circle : CircleProgress) : CircleProgress :=
  { circle with shapeSpeed := 0 }

def fullColorWin (circle : CircleProgress) : CircleProgress :=
  { circle with trackStrokeColor := .fullColorWin }

def resetColor (circle : CircleProgress) : CircleProgress :=
  { circle with trackStrokeColor := .resetColor }

def greenPowerUp (circle : CircleProgress) : CircleProgress :=
  { circle with trackStrokeColor := .greenPowerUp }

/-- The lap animation is attached and its layer's time runs. -/
def Advancing (circle : CircleProgress) : Prop :=
  circle.shapeAnimated = true ∧ circle.shapeSpeed ≠ 0

end CircleProgress

end OneSecond
