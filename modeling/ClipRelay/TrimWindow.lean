import ClipRelay.Number.Decimal

/-!
# Trim windows

A window `[start, stop)` in seconds, its bounds rounded to hundredths. `TrimWindow.make` rounds and
checks raw bounds; `TrimWindow.resolve` applies the defaults of a request first: no bounds mean no
window, an end alone starts at zero, a start alone is refused.
-/

namespace ClipRelay

/-- Seconds rounded to hundredths. -/
def toHundredths (seconds : Double) : Double := (seconds.mul 100).round.div 100

structure TrimWindow where
  start : Double
  stop : Double
  deriving DecidableEq

/-- Why bounds give no window. -/
inductive WindowFault
  | notFinite
  | negativeStart (start : Double)
  | empty (start stop : Double)
  | missingEnd
  deriving DecidableEq

def WindowFault.message : WindowFault → String
  | notFinite => "Trim bounds must be finite numbers"
  | negativeStart start => "Trim start must not be negative (got " ++ start.fixed 2 ++ ")"
  | empty start stop =>
    "Trim end (" ++ stop.fixed 2 ++ ") must be after trim start (" ++ start.fixed 2 ++ ")"
  | missingEnd => "Trim start given without trim end"

namespace TrimWindow

/-- The window of raw bounds, which are rounded before they are compared. -/
def make (start stop : Double) : Except WindowFault TrimWindow :=
  if !start.isFinite || !stop.isFinite then .error .notFinite
  else
    let start := toHundredths start
    let stop := toHundredths stop
    if start.lt 0 then .error (.negativeStart start)
    else if stop.le start then .error (.empty start stop)
    else .ok ⟨start, stop⟩

/-- The window that a request's bounds ask for, if any. -/
def resolve : Option Double → Option Double → Except WindowFault (Option TrimWindow)
  | none, none => .ok none
  | none, some stop => (make 0 stop).map some
  | some start, some stop => (make start stop).map some
  | some _, none => .error .missingEnd

def duration (w : TrimWindow) : Double := w.stop.sub w.start

/-- The bounds with two places. -/
def display (w : TrimWindow) : String := w.start.fixed 2 ++ "-" ++ w.stop.fixed 2

/-- Two windows are equal when their bounds are equal numbers. -/
def eq (v w : TrimWindow) : Bool := v.start.eq w.start && v.stop.eq w.stop

end TrimWindow

end ClipRelay
