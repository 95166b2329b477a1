import FlightGuidance.Proofs.Arbiter.Decision
import FlightGuidance.Proofs.Sequencer.ActiveWaypoint
import FlightGuidance.Proofs.Sequencer.Writes
import FlightGuidance.Proofs.Takeoff.Writes

/-!
# Who writes what

The arbiter, the sequencer and the takeoff controller write whole records of one blackboard, and
three of the records have parts with different writers: the flight status, the alarms and the
report of the follower. A component that writes such a record must not put back an old part of
another one. The blackboard is taken apart here into pieces that are small enough to have an
owner (`Piece`). They make up all of it but for the journal, to which every component adds
(`Blackboard.eq_of_read`).

What a component may write in a turn is `Component.MayWrite`. Two of its pieces the sequencer
only writes in certain situations, so this depends on the blackboard at the beginning of the
turn. A turn keeps everything else (`Crew.turn_keeps`). In an interleaving of turns, with writes
from outside in between, every piece that has changed was changed in a turn that might write it
there and then (`Crew.keeps_others`), and a piece that all turns spare is kept
(`Crew.run_keeps`).

Arming, the alarm of the battery and the inputs have no owner among the three components, and
only the target, the settings of the modes, the alarm of the settings and the number of writes of
the alarms have more than one.
-/

set_option autoImplicit false

namespace FlightGuidance

/-! ## The pieces of the blackboard -/

/-- A record of the blackboard, or a part of one that has several writers. -/
inductive Piece where
  | position
  | velocity
  | attitude
  | airspeed
  | takeoffLocation
  | command
  | accessory
  | mission
  | plan
  /-- Whether the vehicle is armed, which stands in the flight status. -/
  | armed
  /-- The rest of the flight status. -/
  | decision
  | target
  /-- The progress in the report of the follower. -/
  | progress
  /-- The rest of the report. -/
  | account
  | demand
  | activeWaypoint
  | batteryAlarm
  | guidanceAlarm
  | planAlarm
  | settingsAlarm
  /-- The number of writes of the alarms. -/
  | alarmCount
  | takeoffStatus
  | selfTuning
  | modeSettings
  | followerSettings
  | stabilizationSettings
  deriving DecidableEq

namespace Piece

/-- What a piece holds. The number of writes of a record that is taken apart goes with one of its
pieces. -/
def Content : Piece → Type
  | position | velocity => Topic Ned
  | attitude => Topic Attitude
  | airspeed => Topic Airspeed
  | takeoffLocation => Topic TakeoffLocation
  | command => Topic PilotCommand
  | accessory => Topic Accessory
  | mission => Topic Mission
  | plan => Topic PathPlan
  | armed => Bool
  | decision => Topic FlightStatus
  | target => Topic Target
  | progress => Float32 × UInt64
  | account => FollowerReport
  | demand => Topic Demand
  | activeWaypoint => Topic ActiveWaypoint
  | batteryAlarm | guidanceAlarm | planAlarm | settingsAlarm => Severity
  | alarmCount => UInt64
  | takeoffStatus => Topic Takeoff.Status
  | selfTuning => Topic SelfTuning
  | modeSettings => Topic ModeSettings
  | followerSettings => Topic FollowerSettings
  | stabilizationSettings => Topic StabilizationSettings

/-- Arming, the alarm of the battery, and what the components only read. -/
def foreign : List Piece :=
  [armed, batteryAlarm, position, velocity, attitude, airspeed, takeoffLocation, command,
    accessory, mission, plan, account]

/-- The pieces with more than one owner. -/
def shared : List Piece := [target, modeSettings, settingsAlarm, alarmCount]

end Piece

/-- The content of a piece. -/
def Blackboard.read (board : Blackboard) : (piece : Piece) → piece.Content
  | .position => board.position
  | .velocity => board.velocity
  | .attitude => board.attitude
  | .airspeed => board.airspeed
  | .takeoffLocation => board.takeoffLocation
  | .command => board.command
  | .accessory => board.accessory
  | .mission => board.mission
  | .plan => board.plan
  | .armed => board.status.value.armed
  | .decision => ⟨{ board.status.value with armed := false }, board.status.revision⟩
  | .target => board.target
  | .progress => (board.report.value.progress, board.report.revision)
  | .account => { board.report.value with progress := 0 }
  | .demand => board.demand
  | .activeWaypoint => board.activeWaypoint
  | .batteryAlarm => board.alarms.value.battery
  | .guidanceAlarm => board.alarms.value.guidance
  | .planAlarm => board.alarms.value.pathPlan
  | .settingsAlarm => board.alarms.value.settings
  | .alarmCount => board.alarms.revision
  | .takeoffStatus => board.takeoffStatus
  | .selfTuning => board.selfTuning
  | .modeSettings => board.modeSettings
  | .followerSettings => board.followerSettings
  | .stabilizationSettings => board.stabilizationSettings

/-- The blackboard of which the pieces are given, and the journal. -/
def Blackboard.assemble (content : (piece : Piece) → piece.Content) (journal : Journal) :
    Blackboard :=
  let decision : Topic FlightStatus := content .decision
  let account : FollowerReport := content .account
  let progress : Float32 × UInt64 := content .progress
  { position := content .position
    velocity := content .velocity
    attitude := content .attitude
    airspeed := content .airspeed
    takeoffLocation := content .takeoffLocation
    command := content .command
    accessory := content .accessory
    status := ⟨{ decision.value with armed := content .armed }, decision.revision⟩
    target := content .target
    report := ⟨{ account with progress := progress.1 }, progress.2⟩
    demand := content .demand
    mission := content .mission
    plan := content .plan
    activeWaypoint := content .activeWaypoint
    alarms :=
      ⟨{ battery := content .batteryAlarm
         guidance := content .guidanceAlarm
         pathPlan := content .planAlarm
         settings := content .settingsAlarm }, content .alarmCount⟩
    takeoffStatus := content .takeoffStatus
    selfTuning := content .selfTuning
    modeSettings := content .modeSettings
    followerSettings := content .followerSettings
    stabilizationSettings := content .stabilizationSettings
    journal }

theorem Blackboard.assemble_read (board : Blackboard) :
    Blackboard.assemble board.read board.journal = board := rfl

/-- Blackboards on which every piece reads the same differ in the journal at most. -/
theorem Blackboard.eq_of_read {before after : Blackboard}
    (same : ∀ piece, after.read piece = before.read piece) :
    after = { before with journal := after.journal } := by
  calc after = Blackboard.assemble after.read after.journal := after.assemble_read.symm
    _ = Blackboard.assemble before.read after.journal := by rw [funext same]
    _ = { before with journal := after.journal } := rfl

/-! ## Turns -/

inductive Component where
  | arbiter
  | sequencer
  | controller
  deriving DecidableEq

namespace Component

/-- The pieces that a component writes at some time. -/
def owned : Component → List Piece
  | arbiter =>
    [.target, .settingsAlarm, .alarmCount, .modeSettings, .stabilizationSettings,
      .followerSettings, .decision]
  | sequencer =>
    [.modeSettings, .settingsAlarm, .planAlarm, .alarmCount, .target, .activeWaypoint]
  | controller =>
    [.demand, .takeoffStatus, .selfTuning, .guidanceAlarm, .alarmCount, .progress]

/-- What a component needs to find on the blackboard to write a piece that it owns. The sequencer
needs a control chain that engages it to write the target, and mission flight to move the active
waypoint. -/
def Admitted (board : Blackboard) : Component → Piece → Prop
  | sequencer, .target => board.status.value.chain.contains .pathPlanner = true
  | sequencer, .activeWaypoint => Sequencer.Flies board
  | _, _ => True

/-- What a component may write in a turn on a blackboard. -/
def MayWrite (board : Blackboard) (component : Component) (piece : Piece) : Prop :=
  piece ∈ component.owned ∧ component.Admitted board piece

end Component

/-- The three components. -/
structure Crew where
  arbiter : Arbiter
  sequencer : Sequencer
  controller : Takeoff.Controller

/-- A turn of a component, or a write from outside. -/
inductive Turn where
  | runs (component : Component) (now : Micros)
  | outside (write : Blackboard → Blackboard)

namespace Turn

/-- What a turn may write on a blackboard. From outside anything is written. -/
def MayWrite (board : Blackboard) (piece : Piece) : Turn → Prop
  | runs component _ => component.MayWrite board piece
  | outside _ => True

/-- A turn leaves a piece to others. -/
def Spares (piece : Piece) : Turn → Prop
  | runs component _ => piece ∉ component.owned
  | outside write => ∀ board, (write board).read piece = board.read piece

end Turn

namespace Crew

/-- Take a turn. -/
def turn (crew : Crew) (board : Blackboard) : Turn → Crew × Blackboard
  | .runs .arbiter now =>
    let (_, arbiter, board) := crew.arbiter.tick board now
    ({ crew with arbiter }, board)
  | .runs .sequencer now =>
    let (sequencer, board) := crew.sequencer.tick board now
    ({ crew with sequencer }, board)
  | .runs .controller _ =>
    let (controller, board) := crew.controller.update board
    ({ crew with controller }, board)
  | .outside write => (crew, write board)

/-- Take turns in their order. -/
def run (crew : Crew) (board : Blackboard) : List Turn → Crew × Blackboard
  | [] => (crew, board)
  | turn :: turns => (crew.turn board turn).1.run (crew.turn board turn).2 turns

end Crew

/-! ## One turn -/

theorem Arbiter.tick_keeps (arbiter : Arbiter) (board : Blackboard) (now : Micros) {piece : Piece}
    (barred : ¬Component.arbiter.MayWrite board piece) :
    (arbiter.tick board now).2.2.read piece = board.read piece := by
  obtain ⟨guidance, journal, target, status, leaves⟩ := arbiter.tick_leaves board now
  obtain ⟨severity, checked⟩ := arbiter.value_checkedAlarms board
  have armed := arbiter.tick_armed board now
  rw [leaves] at armed ⊢
  cases piece with
  | target | settingsAlarm | alarmCount | modeSettings | stabilizationSettings | followerSettings
  | decision => exact absurd ⟨by decide, trivial⟩ barred
  | armed => exact armed
  | batteryAlarm => exact (congrArg Alarms.battery checked :)
  | guidanceAlarm => exact (congrArg Alarms.guidance checked :)
  | planAlarm => exact (congrArg Alarms.pathPlan checked :)
  | _ => rfl

theorem Sequencer.tick_keeps (sequencer : Sequencer) (board : Blackboard) (now : Micros)
    {piece : Piece} (barred : ¬Component.sequencer.MayWrite board piece) :
    (sequencer.tick board now).2.read piece = board.read piece := by
  obtain ⟨modeSettings, alarms, journal, activeWaypoint, target, frame, settings, pathPlan,
    reported⟩ := sequencer.tick_writes board now
  cases piece with
  | modeSettings | settingsAlarm | planAlarm | alarmCount =>
      exact absurd ⟨by decide, trivial⟩ barred
  | target =>
      have idle : board.status.value.chain.contains .pathPlanner = false :=
        Bool.eq_false_iff.mpr fun selected => barred ⟨by decide, selected⟩
      exact sequencer.tick_target idle now
  | activeWaypoint =>
      have idle : ¬Sequencer.Flies board := fun flies => barred ⟨by decide, flies⟩
      exact sequencer.tick_activeWaypoint idle now
  | batteryAlarm =>
      rw [frame]
      exact (congrArg Alarms.battery reported :)
  | guidanceAlarm =>
      rw [frame]
      exact (congrArg Alarms.guidance reported :)
  | _ =>
      rw [frame]
      rfl

theorem Takeoff.Controller.update_keeps_read (controller : Controller) (board : Blackboard)
    {piece : Piece} (barred : ¬Component.controller.MayWrite board piece) :
    (controller.update board).2.read piece = board.read piece := by
  obtain ⟨alarms, takeoffStatus, journal, selfTuning, demand, report, frame, ⟨guidance, warned⟩,
    progress, progressed⟩ := controller.update_writes board
  rw [frame]
  cases piece with
  | demand | takeoffStatus | selfTuning | guidanceAlarm | alarmCount | progress =>
      exact absurd ⟨by decide, trivial⟩ barred
  | account => exact congrArg (fun report => { report with progress := 0 }) progressed
  | batteryAlarm => exact (congrArg Alarms.battery warned :)
  | planAlarm => exact (congrArg Alarms.pathPlan warned :)
  | settingsAlarm => exact (congrArg Alarms.settings warned :)
  | _ => rfl

namespace Crew

variable (crew : Crew) (board : Blackboard)

/-- **A turn keeps what it may not write.** -/
theorem turn_keeps (turn : Turn) {piece : Piece} (barred : ¬turn.MayWrite board piece) :
    (crew.turn board turn).2.read piece = board.read piece := by
  cases turn with
  | runs component now =>
      cases component with
      | arbiter => exact crew.arbiter.tick_keeps board now barred
      | sequencer => exact crew.sequencer.tick_keeps board now barred
      | controller => exact crew.controller.update_keeps_read board barred
  | outside => exact absurd trivial barred

theorem turn_spares {turn : Turn} {piece : Piece} (spares : turn.Spares piece) :
    (crew.turn board turn).2.read piece = board.read piece := by
  cases turn with
  | runs component now =>
      exact crew.turn_keeps board (.runs component now) fun may => spares may.1
  | outside write => exact spares board

/-! ## Interleavings -/

/-- What has changed in a run was changed in one of its turns. -/
theorem exists_change_of_run (turns : List Turn) {piece : Piece}
    (changed : (crew.run board turns).2.read piece ≠ board.read piece) :
    ∃ before turn after, turns = before ++ turn :: after ∧
      let reached := crew.run board before
      (reached.1.turn reached.2 turn).2.read piece ≠ reached.2.read piece := by
  induction turns generalizing crew board with
  | nil => exact absurd rfl changed
  | cons turn turns inductionHypothesis =>
      by_cases same : (crew.turn board turn).2.read piece = board.read piece
      · -- The first turn keeps the piece, so a later one changes it.
        obtain ⟨before, later, after, split, changes⟩ :=
          inductionHypothesis (crew.turn board turn).1 (crew.turn board turn).2
            fun rest => changed (rest.trans same)
        exact ⟨turn :: before, later, after, by rw [split, List.cons_append], changes⟩
      · exact ⟨[], turn, turns, rfl, same⟩

theorem run_keeps (turns : List Turn) {piece : Piece}
    (spares : ∀ turn ∈ turns, turn.Spares piece) :
    (crew.run board turns).2.read piece = board.read piece := by
  by_contra changed
  obtain ⟨before, turn, after, split, changes⟩ := crew.exists_change_of_run board turns changed
  have taken : turn ∈ turns := by
    rw [split]
    exact List.mem_append_right before List.mem_cons_self
  exact changes (turn_spares _ _ (spares turn taken))

/-- **Who writes what.** A turn keeps every piece that it may not write. So in an interleaving of
turns, with writes from outside in between, every change of a piece is made in a turn that
might write it there and then, and a piece that all turns spare is kept. The three components
spare arming, the alarm of the battery and the inputs, and all but a few of the other pieces
have one owner. -/
theorem keeps_others :
    (∀ turn piece, ¬Turn.MayWrite board piece turn →
      (crew.turn board turn).2.read piece = board.read piece) ∧
    (∀ turns piece, (crew.run board turns).2.read piece ≠ board.read piece →
      ∃ before turn after, turns = before ++ turn :: after ∧
        let reached := crew.run board before
        turn.MayWrite reached.2 piece ∧
          (reached.1.turn reached.2 turn).2.read piece ≠ reached.2.read piece) ∧
    (∀ turns piece, (∀ turn ∈ turns, turn.Spares piece) →
      (crew.run board turns).2.read piece = board.read piece) ∧
    (∀ component now, ∀ piece ∈ Piece.foreign, (Turn.runs component now).Spares piece) ∧
    ∀ component other : Component, ∀ piece ∈ component.owned, piece ∈ other.owned →
      component = other ∨ piece ∈ Piece.shared := by
  refine ⟨fun turn piece => crew.turn_keeps board turn, fun turns piece changed => ?_,
    fun turns piece => crew.run_keeps board turns, fun component now => ?_, ?_⟩
  · obtain ⟨before, turn, after, split, changes⟩ := crew.exists_change_of_run board turns changed
    refine ⟨before, turn, after, split, ?_, changes⟩
    by_contra barred
    exact changes (turn_keeps _ _ turn barred)
  · show ∀ piece ∈ Piece.foreign, piece ∉ component.owned
    cases component <;> decide
  · intro component other
    cases component <;> cases other <;> decide

/-- An armed vehicle with a mission loaded, which every position of the switch selects. -/
def withMission (board : Blackboard) : Blackboard :=
  { board with
    plan := ⟨Sequencer.alonePlan, 1⟩
    mission := ⟨Sequencer.immediateAlone, 1⟩
    status := ⟨{ armed := true }, 1⟩
    modeSettings := board.modeSettings.modify fun settings =>
      { settings with positions := Vector.replicate 6 .pathPlanner } }

/-- The follower reports the first leg. -/
def acknowledge (board : Blackboard) : Blackboard :=
  { board with report := board.report.publish { sequenceId := 0 } }

/-- The arbiter selects the mission, the sequencer engages it, and the follower reports its leg. -/
def engagement : List Turn := [.runs .arbiter 0, .runs .sequencer 0, .outside acknowledge]

/-- A round of the three components. -/
def round : List Turn := [.runs .arbiter 0, .runs .sequencer 0, .runs .controller 0]

/-- Before the arbiter has selected the mission, the sequencer may not write the target and keeps
it. Once the mission is engaged and its leg reported, a turn of the sequencer changes both the
target and the active waypoint, which it may write there. The vehicle stays armed. -/
theorem keeps_others_on_mission :
    let crew : Crew := ⟨{}, {}, {}⟩
    let board := withMission {}
    let engaged := crew.run board engagement
    let turns := engagement ++ round
    ¬(Turn.runs .sequencer 0).MayWrite board .target ∧
      (crew.turn board (.runs .sequencer 0)).2.read .target = board.read .target ∧
      (∀ piece ∈ [Piece.target, .activeWaypoint],
        (engaged.1.turn engaged.2 (.runs .sequencer 0)).2.read piece ≠ engaged.2.read piece ∧
          (Turn.runs .sequencer 0).MayWrite engaged.2 piece) ∧
      (∃ before turn after, turns = before ++ turn :: after ∧
        turn.MayWrite (crew.run board before).2 .activeWaypoint) ∧
      (crew.run board turns).2.read .armed = board.read .armed := by
  intro crew board engaged turns
  obtain ⟨turnKeeps, writer, runKeeps, foreign, -⟩ := crew.keeps_others board
  have barred : ¬(Turn.runs .sequencer 0).MayWrite board .target :=
    fun may => absurd (show (withMission {}).status.value.chain.contains .pathPlanner = true from
      may.2) (by decide)
  have counts :
      (engaged.1.turn engaged.2 (.runs .sequencer 0)).2.target.revision ≠
          engaged.2.target.revision ∧
        (engaged.1.turn engaged.2 (.runs .sequencer 0)).2.activeWaypoint.revision ≠
          engaged.2.activeWaypoint.revision ∧
        (crew.run board turns).2.activeWaypoint.revision ≠ board.activeWaypoint.revision := by
    decide +kernel
  obtain ⟨target, activeWaypoint, run⟩ := counts
  have changes : ∀ piece ∈ [Piece.target, .activeWaypoint],
      (engaged.1.turn engaged.2 (.runs .sequencer 0)).2.read piece ≠ engaged.2.read piece := by
    intro piece member
    simp only [List.mem_cons, List.not_mem_nil, or_false] at member
    obtain rfl | rfl := member
    · exact fun same => target (congrArg Topic.revision same)
    · exact fun same => activeWaypoint (congrArg Topic.revision same)
  refine ⟨barred, turnKeeps _ _ barred, fun piece member => ⟨changes piece member, ?_⟩, ?_,
    runKeeps turns .armed ?_⟩
  · -- A change that the turn might not make would contradict that it keeps everything else.
    by_contra other
    exact changes piece member ((engaged.1.keeps_others engaged.2).1 _ piece other)
  · obtain ⟨before, turn, after, split, may, -⟩ :=
      writer turns .activeWaypoint fun same => run (congrArg Topic.revision same)
    exact ⟨before, turn, after, split, may⟩
  · intro turn member
    simp only [turns, engagement, round, List.cons_append, List.nil_append, List.mem_cons,
      List.not_mem_nil, or_false] at member
    obtain rfl | rfl | rfl | rfl | rfl | rfl := member
    case inr.inr.inl => exact fun _ => rfl
    all_goals exact foreign _ _ .armed (by decide)

end Crew
end FlightGuidance
