/-!
# First order low-pass filter

Every update moves the output toward the input: a share of the previous output
is retained and the rest is taken from the input.
-/

set_option autoImplicit false

namespace FlightGuidance

/-- A low-pass filter with its present output. -/
structure Lowpass where
  output : Float32
  /-- The share of the input in the next output. -/
  gain : Float32
  /-- The share of the present output in the next one. -/
  retention : Float32

namespace Lowpass

/-- The filter at rest that retains `smoothing` of its output on every update. -/
def ofSmoothing (smoothing : Float32) : Lowpass := ⟨0, 1 - smoothing, smoothing⟩

/-- Change the smoothing and keep the output. -/
def withSmoothing (filter : Lowpass) (smoothing : Float32) : Lowpass :=
  { filter with gain := 1 - smoothing, retention := smoothing }

/-- Force the output. -/
def reset (filter : Lowpass) (output : Float32) : Lowpass := { filter with output }

/-- The filter after one input. -/
def update (filter : Lowpass) (input : Float32) : Lowpass :=
  { filter with output := filter.gain * input + filter.retention * filter.output }

end Lowpass
end FlightGuidance
