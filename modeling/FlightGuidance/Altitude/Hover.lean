import FlightGuidance.Single
import FlightGuidance.Status

/-!
# Learning the hover thrust

While the vehicle holds its altitude, the integral term of the velocity loop is
what the configured neutral thrust lacks. It is sampled over a window of stable
ticks: two seconds of waiting, then four seconds of samples. The window starts
over when the vehicle is not stable, and one estimate is completed per hold.
-/

set_option autoImplicit false

namespace FlightGuidance

/-- An estimate in progress, or the completed one. -/
structure HoverEstimate where
  /-- Whether a window is open. -/
  sampling : Bool := false
  /-- The stable ticks of the open window. -/
  count : UInt32 := 0
  /-- The sum of the sampled integral terms. -/
  sum : Float32 := 0
  min : Float32 := 0
  max : Float32 := 0
  average : Float32 := 0
  correction : Float32 := 0
  /-- Whether the estimate of this hold is complete. -/
  complete : Bool := false

/-- The result of a completed estimate. -/
structure HoverCorrection where
  /-- The average of the integral term, which is taken out of the integrator. -/
  correction : Float32
  /-- The integral term after the correction. -/
  accumulator : Float32
  /-- The spread of the integral term over the window. -/
  range : Float32

/-- Add a correction to what was learned so far. -/
def HoverCorrection.applyTo (correction : HoverCorrection) (tuning : SelfTuning) : SelfTuning :=
  { offset := tuning.offset + correction.correction
    correction := correction.correction
    accumulator := correction.accumulator
    range := correction.range }

namespace HoverEstimate

/-- The stable ticks before the first sample. -/
def delay : UInt32 := 40

/-- The stable ticks of a complete window. -/
def window : UInt32 := 120

/-- Close the window without a result. -/
def interrupt (estimate : HoverEstimate) : HoverEstimate := { estimate with sampling := false }

/-- An open window, which is a new one if none was open. -/
def opened (estimate : HoverEstimate) : HoverEstimate :=
  if estimate.sampling then estimate
  else { estimate with sampling := true, count := 0, sum := 0, min := 0, max := 0 }

/-- Count one stable tick, and sample the integral term once the delay is over. -/
def sample (estimate : HoverEstimate) (integral : Float32) : HoverEstimate :=
  let counted := { estimate with count := estimate.count + 1 }
  if delay < counted.count then
    { counted with
      sum := counted.sum + integral
      min := Single.min counted.min integral
      max := Single.max counted.max integral }
  else counted

/-- Take the average of a full window. -/
def finish (estimate : HoverEstimate) : HoverEstimate :=
  let average := estimate.sum / (window - delay).toFloat32
  { estimate with average, correction := average, sampling := false, complete := true }

end HoverEstimate
end FlightGuidance
