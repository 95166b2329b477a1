import FlightGuidance.Single

/-!
# Controller with two degrees of freedom

A proportional, integral and derivative controller. The set-point is weighted in
the proportional term, the derivative acts on the filtered measurement, a
saturated output is fed back into the integral term, and the output continues
without a step when the controller is reconfigured or taken over: on the next
update the integral term is seated so that the output starts from the operating
point.

The output is `bias + scale * (P + I + D)`, kept within the bounds of the update.
-/

set_option autoImplicit false

namespace FlightGuidance

namespace Pid

/-- The gains and the operating point of a controller. -/
structure Gains where
  proportional : Float32
  integral : Float32
  derivative : Float32
  /-- The time constant of the filter on the derivative. -/
  filterTime : Float32
  /-- The gain at which a saturation is fed back into the integral term. -/
  tracking : Float32
  /-- The weight of the set-point in the proportional term. -/
  setpointWeight : Float32
  /-- The output from which the controller starts. -/
  start : Float32
  bias : Float32
  scale : Float32

end Pid

/-- A controller that has been programmed for a sample time. -/
structure Pid where
  proportional : Float32 := 0
  setpointWeight : Float32 := 1
  /-- The integral gain over one sample. -/
  integralStep : Float32 := 0
  /-- The share of a saturation that is fed back over one sample. -/
  trackingStep : Float32 := 0
  /-- The share of the derivative term that is retained over one sample. -/
  derivativeDecay : Float32 := 0
  /-- The weight of a change of the measurement in the derivative term. -/
  derivativeStep : Float32 := 0
  /-- The output at which the next seating of the integral term aims. -/
  start : Float32 := 0
  bias : Float32 := 0
  scale : Float32 := 1
  /-- The integral term. -/
  integral : Float32 := 0
  /-- The derivative term. -/
  derivative : Float32 := 0
  previousMeasurement : Float32 := 0
  /-- Whether the integral term is seated on the next update. -/
  reseat : Bool := true

namespace Pid

/-- Program the controller for a sample time in seconds. -/
def configure (pid : Pid) (gains : Gains) (sampleTime : Float32) : Pid :=
  { pid with
    reseat := true
    start := gains.start
    bias := gains.bias
    scale := gains.scale
    proportional := gains.proportional
    setpointWeight := gains.setpointWeight
    integralStep := gains.integral * sampleTime
    trackingStep :=
      if 0 < gains.scale.abs then gains.tracking * sampleTime / gains.scale else 0
    derivativeDecay := gains.filterTime / (gains.filterTime + sampleTime)
    derivativeStep := gains.derivative / (gains.filterTime + sampleTime) }

/-- Continue from the output `start` on the next update. -/
def transfer (pid : Pid) (start : Float32) : Pid := { pid with start, reseat := true }

def withBias (pid : Pid) (bias : Float32) : Pid := { pid with bias }

/-- Shift the integral term. -/
def offsetIntegral (pid : Pid) (delta : Float32) : Pid :=
  { pid with integral := pid.integral + delta }

/-- The proportional term for a set-point and a measurement. -/
def proportionalTerm (pid : Pid) (setpoint measurement : Float32) : Float32 :=
  pid.proportional * (pid.setpointWeight * setpoint - measurement)

/-- Choose the integral term such that the output equals the operating point. -/
def seat (pid : Pid) (setpoint measurement : Float32) : Pid :=
  if pid.reseat then
    let offset := if 0 < pid.scale.abs then (pid.start - pid.bias) / pid.scale else 0
    { pid with
      reseat := false
      previousMeasurement := measurement
      derivative := 0
      integral := offset - pid.proportionalTerm setpoint measurement }
  else pid

/-- One sample: the bounded output and the controller after it. -/
def update (pid : Pid) (setpoint measurement low high : Float32) : Float32 × Pid :=
  let seated := pid.seat setpoint measurement
  let proportional := seated.proportionalTerm setpoint measurement
  let derivative := seated.derivativeDecay * seated.derivative
    - seated.derivativeStep * (measurement - seated.previousMeasurement)
  let demand := seated.bias + seated.scale * (proportional + seated.integral + derivative)
  let output := Single.min (Single.max demand low) high
  (output,
    { seated with
      derivative
      integral := seated.integral
        + (seated.integralStep * (setpoint - measurement)
          + seated.trackingStep * (output - demand))
      previousMeasurement := measurement })

end Pid
end FlightGuidance
