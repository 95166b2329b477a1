import FlightGuidance.Clock
import FlightGuidance.Filter.Lowpass
import FlightGuidance.Single

/-!
# Averaged time between calls

A loop that is called at uneven intervals works with the average time between
its calls. Every measured interval is clamped to bounds first, so that a
stalled caller does not produce a huge step, and then smoothed.
-/

set_option autoImplicit false

namespace FlightGuidance

/-- A closed interval of singles, with its ends in order. -/
structure Bounds where
  low : Float32
  high : Float32
  ordered : low ≤ high

namespace Bounds

/-- The interval with the given ends, if they are in order. -/
def ofEnds? (low high : Float32) : Option Bounds :=
  if ordered : low ≤ high then some ⟨low, high, ordered⟩ else none

/-- The nearest point of the interval. -/
def clamp (bounds : Bounds) (x : Float32) : Float32 := Single.clamp x bounds.low bounds.high

end Bounds

/-- A running average of the time between calls. -/
structure StepTime where
  /-- The moment of the previous call. -/
  last : Option Micros
  /-- The nominal interval, which stands for the first one. -/
  expected : Float32
  bounds : Bounds
  average : Lowpass

namespace StepTime

/-- An average that starts at the nominal interval and gives every new
interval the weight `weight`. -/
def new (expected : Float32) (bounds : Bounds) (weight : Float32) : StepTime :=
  { last := none, expected, bounds
    average := (Lowpass.ofSmoothing (1 - weight)).reset expected }

/-- Forget the previous call and start the average over. -/
def reset (time : StepTime) : StepTime :=
  { time with last := none, average := time.average.reset time.expected }

/-- Register a call. The average in seconds is `average.output`. -/
def call (time : StepTime) (now : Micros) : StepTime :=
  let interval :=
    match time.last with
    | some last => (Micros.since now last).toSeconds
    | none => time.expected
  { time with last := some now, average := time.average.update (time.bounds.clamp interval) }

end StepTime
end FlightGuidance
