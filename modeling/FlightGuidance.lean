import FlightGuidance.Altitude.Controller
import FlightGuidance.Altitude.Hover
import FlightGuidance.Arbiter
import FlightGuidance.Arbiter.Assist
import FlightGuidance.Arbiter.BatteryFailsafe
import FlightGuidance.Blackboard
import FlightGuidance.Checksum
import FlightGuidance.Clock
import FlightGuidance.Degrees
import FlightGuidance.Fault
import FlightGuidance.Filter.Lowpass
import FlightGuidance.Filter.Pid
import FlightGuidance.Filter.StepTime
import FlightGuidance.FlightMode
import FlightGuidance.Guidance.Fixed
import FlightGuidance.Guidance.ModeGuidance
import FlightGuidance.Guidance.Roam
import FlightGuidance.Guidance.StickFlight
import FlightGuidance.Journal
import FlightGuidance.Mission
import FlightGuidance.Mission.Plan
import FlightGuidance.Mission.Wire
import FlightGuidance.Ned
import FlightGuidance.Proofs.Mission.Acceptance
import FlightGuidance.Proofs.Settings.Frame
import FlightGuidance.Sequencer
import FlightGuidance.Sequencer.Condition
import FlightGuidance.Settings
import FlightGuidance.Settings.Guard
import FlightGuidance.Settings.Report
import FlightGuidance.Single
import FlightGuidance.Status
import FlightGuidance.Stick
import FlightGuidance.Takeoff.Controller
import FlightGuidance.Takeoff.Sequence
import FlightGuidance.Target
import FlightGuidance.Telemetry.Form
import FlightGuidance.Telemetry.Records
import FlightGuidance.Telemetry.Topics
import FlightGuidance.Telemetry.Value
import FlightGuidance.Topic
import FlightGuidance.Vehicle
import FlightGuidance.Proofs.Sequencer.Walk
import FlightGuidance.Proofs.Arbiter.BrakeEntry
import FlightGuidance.Proofs.Arbiter.ControlChain
import FlightGuidance.Proofs.Single.Order
import FlightGuidance.Proofs.Takeoff.Sequence
import FlightGuidance.Proofs.Takeoff.ThrustEnvelope
import FlightGuidance.Proofs.Arbiter.BrakeThrottle
import FlightGuidance.Proofs.Sequencer.Acknowledgement
import FlightGuidance.Proofs.Sequencer.Handover
import FlightGuidance.Proofs.Arbiter.FailsafeLevel
import FlightGuidance.Proofs.Arbiter.FailsafeOverride
import FlightGuidance.Proofs.Settings.Agreement
import FlightGuidance.Proofs.Settings.Restoring
import FlightGuidance.Proofs.Guidance.TakeoffGate
import FlightGuidance.Proofs.Arbiter.TakeoffRestart
import FlightGuidance.Proofs.Single.Sign
import FlightGuidance.Proofs.Takeoff.Operation
import FlightGuidance.Proofs.Takeoff.IdleBounds
import FlightGuidance.Proofs.Takeoff.Telemetry
import FlightGuidance.Proofs.Sequencer.InvalidPlan
import FlightGuidance.Proofs.Sequencer.Timeout
import FlightGuidance.Proofs.Sequencer.SurplusRecords
import FlightGuidance.Proofs.Arbiter.Settling
import FlightGuidance.Proofs.Arbiter.SteadyInputs
import FlightGuidance.Proofs.Arbiter.SettingsAlarm
import FlightGuidance.Proofs.Arbiter.EndedAssistance
import FlightGuidance.Proofs.Arbiter.UnusablePosition
import FlightGuidance.Proofs.Arbiter.ModeChange
import FlightGuidance.Proofs.Single.Units
import FlightGuidance.Proofs.Single.Rounding
import FlightGuidance.Proofs.Altitude.HoverWindow
import FlightGuidance.Proofs.Altitude.LearnedOffset
import FlightGuidance.Proofs.Takeoff.ControllerOperation
import FlightGuidance.Proofs.Takeoff.NeutralThrust
import FlightGuidance.Proofs.Takeoff.Learning
import FlightGuidance.Proofs.Checksum.Detection
import FlightGuidance.Proofs.Mission.Encoding
import FlightGuidance.Proofs.Mission.Header
import FlightGuidance.Proofs.Blackboard.Ownership
import FlightGuidance.Proofs.Takeoff.Timing
import FlightGuidance.Proofs.Takeoff.Ramps
import FlightGuidance.Proofs.Takeoff.ForeignTarget
import FlightGuidance.Proofs.Single.Extremes
import FlightGuidance.Proofs.Altitude.HoverRange
import FlightGuidance.Proofs.Single.Nearest
import FlightGuidance.Proofs.Stick.Deadband
import FlightGuidance.Proofs.Guidance.VarioRun
import FlightGuidance.Proofs.Single.Within
import FlightGuidance.Proofs.Single.Remainder
import FlightGuidance.Proofs.Guidance.CruiseRun
import FlightGuidance.Proofs.Sequencer.LegDirection
