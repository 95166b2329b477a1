import FlightGuidance.Proofs.Sequencer.ActiveWaypoint
import Mathlib.Data.List.TakeWhile

/-!
# Timeouts over several visits

The timer of the timeout starts when the timeout of a waypoint is looked at first, and it is
touched by looks only: it starts over with a look at another waypoint, and stops when it fires.
Nothing is done to it when a waypoint is activated. This module remembers the looks of a run
(`Timed`), each with the number of activations before it, which tells the visits of a waypoint
apart. Between two ticks the whole blackboard may change.

The looks at one waypoint that follow one another without a firing form a series, and the timer
holds the moment of the first one (`Timed.running`). As long as the series belongs to one visit, a
timeout fires exactly if it has passed since the first look of the visit. But a waypoint that is
left before its timeout has fired, and entered again before another timeout is looked at, takes the
series up where it was (`Lingers`), and the time that was spent elsewhere counts as well
(`Timed.timesOut_iff`, `timed_out_early`).
-/

set_option autoImplicit false

namespace FlightGuidance

/-! ## Looks at a timeout -/

/-- A look at the timeout of a waypoint. -/
structure TimeoutLook where
  index : UInt16
  /-- The number of activations of a waypoint before the look. -/
  visit : Nat
  moment : Micros
  fired : Bool

namespace TimeoutLook

/-- The looks, newest first, at the timeout of one waypoint, back to a look at another one or to
the last firing. -/
def series (looks : List TimeoutLook) (index : UInt16) : List TimeoutLook :=
  looks.takeWhile fun look => look.index = index && !look.fired

/-- The looks of a series that belong to a visit. -/
def ofVisit (looks : List TimeoutLook) (index : UInt16) (visit : Nat) : List TimeoutLook :=
  (series looks index).takeWhile fun look => look.visit = visit

/-- The moment of the first of some looks, and the present moment if there was none. -/
def start (looks : List TimeoutLook) (now : Micros) : Micros :=
  (looks.getLast?.map TimeoutLook.moment).getD now

/-- The series of an earlier visit goes on: the waypoint was left before its timeout had fired,
and no timeout of another waypoint was looked at since. -/
def Lingers (looks : List TimeoutLook) (index : UInt16) (visit : Nat) : Prop :=
  ∃ look ∈ series looks index, look.visit ≠ visit

theorem start_cons (look : TimeoutLook) (looks : List TimeoutLook) (now : Micros) :
    start (look :: looks) now = start looks look.moment := by
  cases looks with
  | nil => rfl
  | cons older looks => simp only [start, List.getLast?_cons_cons]; rfl

theorem series_of_fired {newest : TimeoutLook} (fired : newest.fired = true)
    (looks : List TimeoutLook) (index : UInt16) : series (newest :: looks) index = [] := by
  simp [series, fired]

theorem series_of_elsewhere {newest : TimeoutLook} {index : UInt16}
    (elsewhere : newest.index ≠ index) (looks : List TimeoutLook) :
    series (newest :: looks) index = [] := by
  simp [series, elsewhere]

theorem series_of_waiting {newest : TimeoutLook} (waits : newest.fired = false)
    (looks : List TimeoutLook) :
    series (newest :: looks) newest.index = newest :: series looks newest.index := by
  simp [series, waits]

/-- What the timer holds after some looks: the start of the newest series. -/
def running : List TimeoutLook → Option (UInt16 × Micros)
  | [] => none
  | newest :: looks =>
      if newest.fired then none
      else some (newest.index, start (series looks newest.index) newest.moment)

/-- A look at the timeout of a waypoint takes the series of the waypoint up. -/
theorem elapsed_of_running {timer : LegTimer} {looks : List TimeoutLook}
    (held : timer.running = running looks) (index : UInt16) (seconds : Float32) (now : Micros) :
    timer.elapsed index seconds now =
      let start := start (series looks index) now
      if Micros.ofSeconds seconds ≤ Micros.since now start then (true, ⟨none⟩)
      else (false, ⟨some (index, start)⟩) := by
  unfold LegTimer.elapsed
  rw [held]
  cases looks with
  | nil => rfl
  | cons newest looks =>
      cases fired : newest.fired with
      | true =>
          rw [series_of_fired fired]
          simp only [running, fired, if_true]
          rfl
      | false =>
          by_cases here : newest.index = index
          · subst here
            rw [series_of_waiting fired, start_cons]
            simp only [running, fired, Bool.false_eq_true, if_false, if_true]
          · rw [series_of_elsewhere here]
            simp only [running, fired, Bool.false_eq_true, if_false, if_neg here]
            rfl

theorem running_elapsed {timer : LegTimer} {looks : List TimeoutLook}
    (held : timer.running = running looks) (index : UInt16) (visit : Nat) (seconds : Float32)
    (now : Micros) :
    (timer.elapsed index seconds now).2.running =
      running (⟨index, visit, now, (timer.elapsed index seconds now).1⟩ :: looks) := by
  rw [elapsed_of_running held]
  dsimp only
  split <;> rfl

/-! ## The order of looks -/

/-- The first look is older than the second one, or as old. -/
def Precedes (older newer : TimeoutLook) : Prop :=
  older.visit ≤ newer.visit ∧ older.moment ≤ newer.moment

/-- The looks of a run up to a visit and a moment, newest first. -/
structure Ordered (looks : List TimeoutLook) (visit : Nat) (latest : Micros) : Prop where
  descending : looks.Pairwise fun newer older => older.Precedes newer
  past : ∀ look ∈ looks, look.visit ≤ visit ∧ look.moment ≤ latest

theorem Ordered.later {looks : List TimeoutLook} {visit next : Nat} {latest now : Micros}
    (ordered : Ordered looks visit latest) (visits : visit ≤ next) (moments : latest ≤ now) :
    Ordered looks next now where
  descending := ordered.descending
  past look seen :=
    let ⟨before, earlier⟩ := ordered.past look seen
    ⟨Nat.le_trans before visits, UInt64.le_trans earlier moments⟩

theorem Ordered.cons {looks : List TimeoutLook} {look : TimeoutLook}
    (ordered : Ordered looks look.visit look.moment) :
    Ordered (look :: looks) look.visit look.moment where
  descending := List.pairwise_cons.mpr ⟨ordered.past, ordered.descending⟩
  past := by
    rintro seen (_ | ⟨_, older⟩)
    · exact ⟨Nat.le_refl _, UInt64.le_refl _⟩
    · exact ordered.past seen older

theorem Ordered.series {looks : List TimeoutLook} {visit : Nat} {latest : Micros}
    (ordered : Ordered looks visit latest) (index : UInt16) :
    Ordered (series looks index) visit latest where
  descending := ordered.descending.sublist (List.takeWhile_sublist _)
  past look seen := ordered.past look ((List.takeWhile_sublist _).mem seen)

/-- The last one of ordered looks is the oldest. -/
theorem Ordered.getLast {looks : List TimeoutLook} {visit : Nat} {latest : Micros}
    (ordered : Ordered looks visit latest) {oldest : TimeoutLook}
    (last : looks.getLast? = some oldest) {look : TimeoutLook} (seen : look ∈ looks) :
    look = oldest ∨ oldest.Precedes look := by
  obtain ⟨newer, rfl⟩ := List.getLast?_eq_some_iff.mp last
  rcases List.mem_append.mp seen with before | same
  · exact .inr ((List.pairwise_append.mp ordered.descending).2.2 look before oldest (by simp))
  · exact .inl (List.mem_singleton.mp same)

/-- As long as no earlier visit goes on, the series is that of the visit. -/
theorem ofVisit_eq_series {looks : List TimeoutLook} {index : UInt16} {visit : Nat}
    (fresh : ¬Lingers looks index visit) : ofVisit looks index visit = series looks index := by
  refine List.takeWhile_eq_self_iff.mpr fun look seen => ?_
  by_contra other
  exact fresh ⟨look, seen, by simpa using other⟩

/-- The series of an earlier visit has started in one, and not after the present visit. -/
theorem Ordered.lingering {looks : List TimeoutLook} {visit : Nat} {now : Micros}
    (ordered : Ordered looks visit now) {index : UInt16} (lingers : Lingers looks index visit) :
    ∃ look ∈ looks, look.index = index ∧ look.visit < visit ∧
      look.moment = start (TimeoutLook.series looks index) now ∧
      look.moment ≤ start (ofVisit looks index visit) now := by
  obtain ⟨other, seen, elsewhere⟩ := lingers
  have series := ordered.series index
  obtain ⟨oldest, last⟩ : ∃ oldest, (TimeoutLook.series looks index).getLast? = some oldest :=
    Option.isSome_iff_exists.mp (List.getLast?_isSome.mpr (List.ne_nil_of_mem seen))
  have member := List.mem_of_getLast? last
  have here := List.mem_takeWhile_imp member
  have before : oldest.visit ≤ other.visit := by
    rcases series.getLast last seen with rfl | ⟨older, -⟩
    · exact Nat.le_refl _
    · exact older
  refine ⟨oldest, (List.takeWhile_sublist _).mem member, ?_, ?_, ?_, ?_⟩
  · simp only [Bool.and_eq_true, decide_eq_true_eq] at here
    exact here.1
  · have bound := (series.past other seen).1
    omega
  · simp only [start, last, Option.map_some, Option.getD_some]
  · cases own : (ofVisit looks index visit).getLast? with
    | none =>
        simp only [start, own, Option.map_none, Option.getD_none]
        exact (series.past oldest member).2
    | some first =>
        simp only [start, own, Option.map_some, Option.getD_some]
        have inside : first ∈ TimeoutLook.series looks index :=
          (List.takeWhile_sublist _).mem (List.mem_of_getLast? own)
        rcases series.getLast last inside with rfl | ⟨-, older⟩
        · exact UInt64.le_refl _
        · exact older

end TimeoutLook

namespace Sequencer

/-! ## The timer in a tick -/

/-- A look at a leg in flight keeps the timer if it aborts the leg, and else leaves it as the end
condition does. -/
theorem fly_timer (sequencer : Sequencer) (board : Blackboard) {mission : Mission}
    {leg : ActiveLeg} (found : leg? mission leg.index = some (leg.waypoint, leg.action))
    (follows : following? mission leg.index = some leg.nextWaypoint)
    (acknowledged : board.report.value.sequenceId = board.target.value.sequenceId)
    (now : Micros) :
    (sequencer.fly board mission leg.index now).1.timer =
      if (errorJump? leg.index leg.action board.report.value).isSome then sequencer.timer
      else (leg.complete (snapshot board) sequencer.timer now).2 := by
  cases jump : errorJump? leg.index leg.action board.report.value with
  | some destination => rw [fly_of_aborted sequencer board found acknowledged jump]; rfl
  | none => rw [fly_of_evaluated sequencer board found acknowledged follows jump]; rfl

theorem tick_timer_of_judges {sequencer : Sequencer} {board : Blackboard}
    (judges : sequencer.Judges board) {leg : ActiveLeg} (loaded : activeLeg? board = some leg)
    (now : Micros) :
    (sequencer.tick board now).1.timer =
      if board.report.value.Aborts leg.action leg.index.toNat then sequencer.timer
      else (leg.complete (snapshot board) sequencer.timer now).2 := by
  obtain ⟨settings, modeSettings, alarms, journal, ticked⟩ :=
    tick_of_active judges.active judges.flies now
  obtain ⟨same, found, follows⟩ := activeLeg?_eq_some_iff.mp loaded
  have looked := fly_timer
    { sequencer with
      settings, holdsInvalidPlan := false, missionRevision := board.mission.revision }
    { board with modeSettings, alarms, journal, target := sequencer.faced board }
    found follows judges.acknowledged now
  rw [ticked, ← same, looked, errorJump?_eq (index_le_of_loaded loaded)]
  by_cases aborts : board.report.value.Aborts leg.action leg.index.toNat
  · simp [aborts]
  · simp only [if_neg aborts, Option.isSome_none, Bool.false_eq_true, if_false]
    rfl

theorem Evaluates.timer {sequencer : Sequencer} {board : Blackboard} {leg : ActiveLeg}
    (evaluates : sequencer.Evaluates board leg) (now : Micros) :
    (sequencer.tick board now).1.timer =
      (leg.complete (snapshot board) sequencer.timer now).2 := by
  rw [tick_timer_of_judges evaluates.judges evaluates.loaded, if_neg evaluates.goesOn]

/-- Only a tick that evaluates an end condition can touch the timer. -/
theorem tick_timer_of_not_evaluates {sequencer : Sequencer} {board : Blackboard}
    (idle : ∀ leg, ¬sequencer.Evaluates board leg) (now : Micros) :
    (sequencer.tick board now).1.timer = sequencer.timer := by
  by_cases flies : Flies board
  · cases active : sequencer.active with
    | false =>
        obtain ⟨index, settings, modeSettings, alarms, journal, ticked⟩ :=
          tick_of_inactive active flies now
        exact congrArg (fun after => after.1.timer) ticked
    | true =>
        by_cases judges : sequencer.Judges board
        · obtain ⟨leg, loaded⟩ := Option.isSome_iff_exists.mp judges.loaded
          have aborts : board.report.value.Aborts leg.action leg.index.toNat := by
            by_contra goesOn
            exact idle leg ⟨judges, loaded, goesOn⟩
          rw [tick_timer_of_judges judges loaded, if_pos aborts]
        · obtain ⟨settings, modeSettings, alarms, journal, ticked⟩ :=
            tick_of_not_judges active flies judges now
          exact congrArg (fun after => after.1.timer) ticked
  · obtain ⟨active, settings, grounded⟩ := sequencer.tick_of_grounded flies now
    rw [grounded]

/-- The timer is left alone by every other end condition. -/
theorem complete_timer {leg : ActiveLeg} (other : leg.action.condition ≠ .timeOut)
    (vehicle : VehicleSnapshot) (timer : LegTimer) (now : Micros) :
    (leg.complete vehicle timer now).2 = timer := by
  unfold ActiveLeg.complete
  cases condition : leg.action.condition with
  | timeOut => exact absurd condition other
  | _ => rfl

theorem complete_of_timeOut {leg : ActiveLeg} (timed : leg.action.condition = .timeOut)
    (vehicle : VehicleSnapshot) (timer : LegTimer) (now : Micros) :
    leg.complete vehicle timer now = timer.elapsed leg.index leg.threshold now := by
  simp only [ActiveLeg.complete, timed]

/-! ## Runs -/

/-- The number of activations after a tick. -/
def visitsAfter (visit : Nat) (before after : Blackboard) : Nat :=
  if after.activeWaypoint.revision = before.activeWaypoint.revision then visit else visit + 1

/-- Ticks of the sequencer with a clock that is not set back, between which the whole blackboard
may change: the looks at a timeout, newest first, the number of activations, and the moment of the
last tick. -/
inductive Timed : Sequencer → List TimeoutLook → Nat → Micros → Prop where
  | start : Timed {} [] 0 0
  /-- The tick evaluates a timeout. -/
  | look {sequencer : Sequencer} {looks : List TimeoutLook} {visit : Nat} {latest : Micros}
      (run : Timed sequencer looks visit latest) {board : Blackboard} {leg : ActiveLeg}
      (evaluates : sequencer.Evaluates board leg) (timed : leg.action.condition = .timeOut)
      {now : Micros} (ordered : latest ≤ now) :
      Timed (sequencer.tick board now).1
        (⟨leg.index, visit, now,
          (leg.complete (snapshot board) sequencer.timer now).1⟩ :: looks)
        (visitsAfter visit board (sequencer.tick board now).2) now
  /-- The tick evaluates another end condition, or none. -/
  | pass {sequencer : Sequencer} {looks : List TimeoutLook} {visit : Nat} {latest : Micros}
      (run : Timed sequencer looks visit latest) {board : Blackboard}
      (other : ∀ leg, sequencer.Evaluates board leg → leg.action.condition ≠ .timeOut)
      {now : Micros} (ordered : latest ≤ now) :
      Timed (sequencer.tick board now).1 looks
        (visitsAfter visit board (sequencer.tick board now).2) now

section Timed

variable {sequencer : Sequencer} {looks : List TimeoutLook} {visit : Nat} {latest : Micros}

theorem le_visitsAfter (before after : Blackboard) : visit ≤ visitsAfter visit before after := by
  unfold visitsAfter
  split <;> omega

theorem Timed.ordered (run : Timed sequencer looks visit latest) :
    TimeoutLook.Ordered looks visit latest := by
  induction run with
  | start => exact ⟨.nil, fun _ seen => nomatch seen⟩
  | look _ _ _ ordered inductionHypothesis =>
      exact (inductionHypothesis.later (Nat.le_refl _) ordered).cons.later
        (le_visitsAfter _ _) (UInt64.le_refl _)
  | pass _ _ ordered inductionHypothesis =>
      exact inductionHypothesis.later (le_visitsAfter _ _) ordered

/-- The timer holds the start of the newest series. -/
theorem Timed.running (run : Timed sequencer looks visit latest) :
    sequencer.timer.running = TimeoutLook.running looks := by
  induction run with
  | start => rfl
  | look _ evaluates timed _ inductionHypothesis =>
      rw [evaluates.timer, complete_of_timeOut timed]
      exact TimeoutLook.running_elapsed inductionHypothesis _ _ _ _
  | @pass sequencer _ _ _ _ board other now _ inductionHypothesis =>
      by_cases evaluating : ∃ leg, sequencer.Evaluates board leg
      · obtain ⟨leg, evaluates⟩ := evaluating
        rw [evaluates.timer, complete_timer (other leg evaluates)]
        exact inductionHypothesis
      · rw [tick_timer_of_not_evaluates (not_exists.mp evaluating)]
        exact inductionHypothesis

/-- An evaluation activates a waypoint if the command goes on with its outcome. -/
theorem Evaluates.moves_iff {board : Blackboard} {leg : ActiveLeg}
    (evaluates : sequencer.Evaluates board leg) (now : Micros) :
    (sequencer.tick board now).2.activeWaypoint.revision ≠ board.activeWaypoint.revision ↔
      leg.action.command.course
        (leg.complete (snapshot board) sequencer.timer now).1 ≠ .stay := by
  obtain ⟨judges, loaded, goesOn⟩ := evaluates
  rw [sequencer.tick_moves_iff judges.flies now]
  constructor
  · rintro (inactive | ⟨other, same, -, aborts | leaves⟩)
    · rw [judges.active] at inactive
      cases inactive
    · rw [loaded, Option.some_inj] at same
      exact absurd (same ▸ aborts) goesOn
    · rw [loaded, Option.some_inj] at same
      exact same ▸ leaves
  · exact fun leaves => .inr ⟨leg, loaded, judges, .inr leaves⟩

/-- **When a timeout fires.** If the series of no earlier visit goes on, a timeout fires exactly
if it has passed since the first look of the visit, or since the first one after the last firing.
Else there was a look in an earlier visit, not after that moment, from which the time counts. -/
theorem Timed.timesOut_iff (run : Timed sequencer looks visit latest) {board : Blackboard}
    {leg : ActiveLeg} (evaluates : sequencer.Evaluates board leg)
    (timed : leg.action.condition = .timeOut) {now : Micros} (ordered : latest ≤ now) :
    let timeout := Micros.ofSeconds leg.threshold
    let fires := (leg.complete (snapshot board) sequencer.timer now).1
    let started := TimeoutLook.start (TimeoutLook.ofVisit looks leg.index visit) now
    ((sequencer.tick board now).2.activeWaypoint.revision ≠ board.activeWaypoint.revision ↔
      leg.action.command.course fires ≠ .stay) ∧
    (¬TimeoutLook.Lingers looks leg.index visit →
      (fires = true ↔ timeout ≤ Micros.since now started)) ∧
    (TimeoutLook.Lingers looks leg.index visit →
      ∃ look ∈ looks, look.index = leg.index ∧ look.visit < visit ∧ look.moment ≤ started ∧
        (fires = true ↔ timeout ≤ Micros.since now look.moment)) := by
  intro timeout fires started
  have fires_iff : fires = true ↔
      timeout ≤ Micros.since now
        (TimeoutLook.start (TimeoutLook.series looks leg.index) now) := by
    show (leg.complete (snapshot board) sequencer.timer now).1 = true ↔ _
    rw [complete_of_timeOut timed, TimeoutLook.elapsed_of_running run.running]
    dsimp only
    split
    next passed => exact ⟨fun _ => passed, fun _ => rfl⟩
    next waits => exact ⟨fun fired => absurd fired (by simp), fun passed => absurd passed waits⟩
  refine ⟨evaluates.moves_iff now, ?_, ?_⟩
  · intro fresh
    rw [fires_iff]
    show _ ↔ timeout ≤ Micros.since now
      (TimeoutLook.start (TimeoutLook.ofVisit looks leg.index visit) now)
    rw [TimeoutLook.ofVisit_eq_series fresh]
  · intro lingers
    obtain ⟨look, seen, here, earlier, first, before⟩ :=
      (run.ordered.later (Nat.le_refl _) ordered).lingering lingers
    refine ⟨look, seen, here, earlier, before, ?_⟩
    rw [fires_iff, first]

end Timed

/-! ## A mission that is left and taken up again

The timeout of the only waypoint is looked at after one second. The pilot leaves the mission a
second later, and the sequencer engages it again after twenty seconds. -/

/-- The action of the only waypoint ends after ten seconds. -/
def timedAlone : Mission :=
  { immediateAlone with
    actions := [{ condition := .timeOut, conditionParameters := tenParameters }] }

def timedPlan : PathPlan := { waypointCount := 1, actionCount := 1, crc := 196 }

/-- The vehicle flies the mission, and its follower reports the leg. -/
def inFlight (board : Blackboard) : Blackboard :=
  { sentOut timedPlan timedAlone board with report := ⟨{ sequenceId := 0 }, 1⟩ }

/-- The pilot has left the mission. -/
def leftMission (board : Blackboard) : Blackboard :=
  { inFlight board with
    status :=
      ⟨{ armed := true, mode := .stabilized1, chain := ControlHandler.stabilized.chain }, 1⟩ }

def timedLeg : ActiveLeg where
  index := 0
  waypoint := {}
  nextWaypoint := {}
  action := timedAlone.actions[0]

/-- The mission is engaged. -/
def timedFirst : Sequencer × Blackboard := ({} : Sequencer).tick (inFlight {}) 0

/-- The timeout is looked at. -/
def timedLooked : Sequencer × Blackboard := timedFirst.1.tick (inFlight timedFirst.2) 1000000

/-- The mission is left. -/
def timedLeft : Sequencer × Blackboard := timedLooked.1.tick (leftMission timedLooked.2) 2000000

/-- The mission is engaged again. -/
def timedAgain : Sequencer × Blackboard := timedLeft.1.tick (inFlight timedLeft.2) 20000000

set_option maxRecDepth 10000 in
theorem flies_inFlight (board : Blackboard) : Flies (inFlight board) where
  armed := rfl
  selected := by
    show ControlHandler.pathPlanner.chain.contains .pathPlanner = true
    decide
  accepted := by
    show timedPlan.check timedAlone = .ok ()
    rfl

/-- A tick does not evaluate anything while no mission is engaged. -/
theorem not_evaluates_of_inactive {sequencer : Sequencer} (inactive : sequencer.active = false)
    (board : Blackboard) (leg : ActiveLeg) : ¬sequencer.Evaluates board leg := by
  intro evaluates
  have active := evaluates.judges.active
  rw [inactive] at active
  cases active

theorem evaluates_inFlight {sequencer : Sequencer} {board : Blackboard}
    (active : sequencer.active = true) (noted : sequencer.missionRevision = 1)
    (first : board.activeWaypoint.value.index = 0) (faced : board.target.value.sequenceId = 0) :
    sequencer.Evaluates (inFlight board) timedLeg := by
  have found : leg? timedAlone 0 = some (timedLeg.waypoint, timedLeg.action) := by decide +kernel
  have follows : following? timedAlone 0 = some timedLeg.nextWaypoint := by decide +kernel
  have loaded : activeLeg? (inFlight board) = some timedLeg :=
    activeLeg?_eq_some_iff.mpr ⟨first.symm, found, follows⟩
  have acknowledged : 0 = (sequencer.faced (inFlight board)).value.sequenceId := by
    rw [faced_of_current sequencer (inFlight board) noted.symm]
    exact faced.symm
  exact ⟨⟨active, flies_inFlight board, by rw [loaded]; rfl, acknowledged⟩, loaded,
    fun ⟨failed, _⟩ => nomatch failed⟩

/-- The first look, in the first visit. -/
theorem timed_looked : Timed timedLooked.1 [⟨0, 1, 1000000, false⟩] 1 1000000 := by
  have first : timedFirst.1.active = true ∧ timedFirst.1.missionRevision = 1 ∧
      timedFirst.2.activeWaypoint.value.index = 0 ∧ timedFirst.2.target.value.sequenceId = 0 ∧
      visitsAfter 0 (inFlight {}) timedFirst.2 = 1 := by decide +kernel
  obtain ⟨active, noted, index, faced, entered⟩ := first
  have engaged : Timed timedFirst.1 [] (visitsAfter 0 (inFlight {}) timedFirst.2) 0 :=
    Timed.start.pass
      (fun leg evaluates => absurd evaluates (not_evaluates_of_inactive rfl _ leg)) (by decide)
  rw [entered] at engaged
  have looked : Timed timedLooked.1
      [⟨0, 1, 1000000, (timedLeg.complete (snapshot (inFlight timedFirst.2))
        timedFirst.1.timer 1000000).1⟩]
      (visitsAfter 1 (inFlight timedFirst.2) timedLooked.2) 1000000 :=
    engaged.look (evaluates_inFlight active noted index faced) rfl (by decide)
  have waits : (timedLeg.complete (snapshot (inFlight timedFirst.2)) timedFirst.1.timer
        1000000).1 = false ∧
      visitsAfter 1 (inFlight timedFirst.2) timedLooked.2 = 1 := by decide +kernel
  rw [waits.1, waits.2] at looked
  exact looked

/-- The timeout fires ten seconds after the first look, and the waypoint is activated anew. -/
theorem timed_out_in_time :
    let board := inFlight timedLooked.2
    let fires := (timedLeg.complete (snapshot board) timedLooked.1.timer 11000000).1
    fires = true ∧ (timedLooked.1.tick board 11000000).2.activeWaypoint.revision ≠
      board.activeWaypoint.revision := by
  have run := timed_looked
  have looked : timedLooked.1.active = true ∧ timedLooked.1.missionRevision = 1 ∧
      timedLooked.2.activeWaypoint.value.index = 0 ∧
      timedLooked.2.target.value.sequenceId = 0 := by decide +kernel
  generalize timedLooked = flying at run looked ⊢
  intro board fires
  obtain ⟨active, noted, index, faced⟩ := looked
  have ordered : (1000000 : Micros) ≤ 11000000 := by decide
  have fresh : ¬TimeoutLook.Lingers [⟨0, 1, 1000000, false⟩] timedLeg.index 1 := by
    rintro ⟨look, seen, other⟩
    obtain rfl := List.mem_singleton.mp ((List.takeWhile_sublist _).mem seen)
    exact other rfl
  obtain ⟨moves, fires_iff, -⟩ :=
    run.timesOut_iff (evaluates_inFlight active noted index faced) rfl ordered
  have fired : fires = true := (fires_iff fresh).mpr (by decide +kernel)
  have leaves : timedLeg.action.command.course fires ≠ .stay := by
    rw [fired]
    decide
  exact ⟨fired, moves.mpr leaves⟩

/-- After the second engagement the timeout fires at the first look, since the time between the
visits counts. -/
theorem timed_out_early :
    let looks : List TimeoutLook := [⟨0, 1, 1000000, false⟩]
    let now : Micros := 20100000
    let started := TimeoutLook.start (TimeoutLook.ofVisit looks 0 2) now
    Timed timedAgain.1 looks 2 20000000 ∧
      timedAgain.1.Evaluates (inFlight timedAgain.2) timedLeg ∧
      timedLeg.action.condition = .timeOut ∧
      (timedLeg.complete (snapshot (inFlight timedAgain.2)) timedAgain.1.timer now).1 = true ∧
      started = now ∧ Micros.ofSeconds timedLeg.threshold = 10000000 ∧
      ¬Micros.ofSeconds timedLeg.threshold ≤ Micros.since now started := by
  intro looks now started
  have left : Timed timedLeft.1 looks
      (visitsAfter 1 (leftMission timedLooked.2) timedLeft.2) 2000000 :=
    timed_looked.pass
      (fun leg evaluates => absurd evaluates.judges.flies.selected (by decide)) (by decide)
  have stood : timedLeft.1.active = false ∧
      visitsAfter 1 (leftMission timedLooked.2) timedLeft.2 = 1 := by decide +kernel
  obtain ⟨inactive, stays⟩ := stood
  rw [stays] at left
  have again : Timed timedAgain.1 looks
      (visitsAfter 1 (inFlight timedLeft.2) timedAgain.2) 20000000 :=
    left.pass
      (fun leg evaluates => absurd evaluates (not_evaluates_of_inactive inactive _ leg))
      (by decide)
  have taken : timedAgain.1.active = true ∧ timedAgain.1.missionRevision = 1 ∧
      timedAgain.2.activeWaypoint.value.index = 0 ∧ timedAgain.2.target.value.sequenceId = 0 ∧
      visitsAfter 1 (inFlight timedLeft.2) timedAgain.2 = 2 ∧
      (timedLeg.complete (snapshot (inFlight timedAgain.2)) timedAgain.1.timer now).1 = true := by
    decide +kernel
  obtain ⟨active, noted, index, faced, entered, fired⟩ := taken
  rw [entered] at again
  exact ⟨again, evaluates_inFlight active noted index faced, rfl, fired, rfl,
    by decide +kernel, by decide +kernel⟩

end Sequencer
end FlightGuidance
