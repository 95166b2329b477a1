import FlightGuidance.Arbiter.BatteryFailsafe

/-!
# The level of the battery failsafe

The failsafe raises its level when the battery has asked for a higher one for longer than the
grace period, which it measures from the last time at which the alarm agreed with the level in
force. While the vehicle is armed the level never falls (`level_le_foldl`).

The measure starts over neither when a level is committed nor when the alarm falls below it. So
the alarms of the grace period before a level is raised need not all have asked for more than the
level in force: what is certain is that none that found this level in force has agreed with it
(`asked_ne_of_raises`). They have all asked for more exactly if nothing was committed in the grace
period and no alarm in it has fallen below (`alarmed_iff`). For both exceptions there is a run
(`raised_without_grace`).
-/

set_option autoImplicit false

namespace FlightGuidance

/-- What the failsafe reads on a tick. -/
structure BatteryLook where
  position : UInt8
  armed : Bool
  battery : Severity
  settings : ModeSettings
  now : Micros

namespace BatteryLook

/-- The level for which the alarm asks. -/
def asked (look : BatteryLook) : FailsafeLevel := .ofAlarm look.battery

/-- The time for which an alarm must last. -/
def grace (look : BatteryLook) : Micros := .ofMillis look.settings.failsafeDebounce

end BatteryLook

namespace BatteryFailsafe

/-- The switch position in force. -/
def inForce (failsafe : BatteryFailsafe) (look : BatteryLook) : UInt8 :=
  (failsafe.apply look.position look.armed look.battery look.settings look.now).1

/-- The failsafe after a tick. -/
def after (failsafe : BatteryFailsafe) (look : BatteryLook) : BatteryFailsafe :=
  (failsafe.apply look.position look.armed look.battery look.settings look.now).2.1

/-- A tick raises the level. -/
def Raises (failsafe : BatteryFailsafe) (look : BatteryLook) : Prop :=
  failsafe.level.rank < (failsafe.after look).level.rank

instance (failsafe : BatteryFailsafe) (look : BatteryLook) : Decidable (failsafe.Raises look) :=
  inferInstanceAs (Decidable (_ < _))

/-- The ticks of a run, each with the failsafe that it finds. -/
def trace (failsafe : BatteryFailsafe) : List BatteryLook → List (BatteryFailsafe × BatteryLook)
  | [] => []
  | look :: looks => (failsafe, look) :: trace (failsafe.after look) looks

/-! ## One tick -/

section Tick

variable (failsafe : BatteryFailsafe)

/-- All that a commit can do: note that the alarm agrees, hold the level, or raise it. -/
theorem commit_cases (position : UInt8) (level : FailsafeLevel) (grace now : Micros) :
    (level = failsafe.level ∧
      (failsafe.commit position level grace now).1 = { failsafe with changedAt := now }) ∨
    (level ≠ failsafe.level ∧
      (Micros.since now failsafe.changedAt < grace ∨ level.rank < failsafe.level.rank) ∧
      (failsafe.commit position level grace now).1 = failsafe) ∨
    (failsafe.level.rank < level.rank ∧ ¬Micros.since now failsafe.changedAt < grace ∧
      (failsafe.commit position level grace now).1 =
        { failsafe with level, switchPosition := position, overridden := false }) := by
  unfold commit
  by_cases agrees : level = failsafe.level
  · exact .inl ⟨agrees, by rw [if_pos agrees]⟩
  · by_cases holds : Micros.since now failsafe.changedAt < grace ∨ level.rank < failsafe.level.rank
    · exact .inr (.inl ⟨agrees, holds, by rw [if_neg agrees, if_pos (by simpa using holds)]⟩)
    · obtain ⟨lasted, above⟩ := not_or.mp holds
      have differs : level.rank ≠ failsafe.level.rank :=
        fun same => agrees (FailsafeLevel.rank_injective same)
      refine .inr (.inr ⟨by omega, lasted, ?_⟩)
      rw [if_neg agrees, if_neg (by simpa using holds)]

/-- All that the choice of a position can do: pass the pilot's on, note an override, or take the
configured one. -/
theorem resolve_cases (position : UInt8) (positions : FailsafePositions) (now : Micros) :
    ((failsafe.level = .none ∨ failsafe.overridden = true) ∧
      failsafe.resolve position positions now = (position, failsafe, none)) ∨
    (failsafe.level ≠ .none ∧ failsafe.overridden = false ∧ position ≠ failsafe.switchPosition ∧
      failsafe.resolve position positions now =
        (position, { failsafe with overridden := true, changedAt := now },
          some ⟨.info, "Battery failsafe overridden by the pilot"⟩)) ∨
    (failsafe.level ≠ .none ∧ failsafe.overridden = false ∧ position = failsafe.switchPosition ∧
      failsafe.resolve position positions now =
        ((failsafe.level.position? positions).getD position, failsafe, none)) := by
  unfold resolve
  by_cases passes : failsafe.level = .none ∨ failsafe.overridden = true
  · exact .inl ⟨passes, by rw [if_pos (by simpa using passes)]⟩
  · obtain ⟨committed, stands⟩ := not_or.mp passes
    have engaged : failsafe.overridden = false := by simpa using stands
    rw [if_neg (by simpa using passes)]
    by_cases same : position = failsafe.switchPosition
    · exact .inr (.inr ⟨committed, engaged, same, by rw [if_neg (not_not_intro same)]⟩)
    · exact .inr (.inl ⟨committed, engaged, same, by rw [if_pos same]⟩)

/-- The failsafe once the level of a tick is committed. -/
def committed (look : BatteryLook) : BatteryFailsafe :=
  (failsafe.commit look.position look.asked look.grace look.now).1

variable {look : BatteryLook}

theorem apply_of_armed (armed : look.armed = true) :
    let resolved := (failsafe.committed look).resolve look.position look.settings.failsafePositions
      look.now
    failsafe.inForce look = resolved.1 ∧ failsafe.after look = resolved.2.1 := by
  unfold inForce after apply
  rw [armed]
  exact ⟨rfl, rfl⟩

theorem apply_of_disarmed (disarmed : look.armed = false) :
    failsafe.inForce look = look.position ∧
      failsafe.after look = ⟨.none, false, look.position, look.now⟩ := by
  unfold inForce after apply
  rw [disarmed]
  exact ⟨rfl, rfl⟩

/-- What the choice of a position makes of a committed level: it notes an override at most. -/
structure Chosen (committed chosen : BatteryFailsafe) (look : BatteryLook) : Prop where
  level : chosen.level = committed.level
  switchPosition : chosen.switchPosition = committed.switchPosition
  overridden : chosen.overridden = true ↔ committed.overridden = true ∨
    committed.level ≠ .none ∧ look.position ≠ committed.switchPosition
  changedAt : chosen.changedAt = look.now ∨ chosen.changedAt = committed.changedAt

theorem after_of_armed (armed : look.armed = true) :
    Chosen (failsafe.committed look) (failsafe.after look) look := by
  rw [(failsafe.apply_of_armed armed).2]
  obtain ⟨passes, same⟩ | ⟨level, -, moved, same⟩ | ⟨-, -, here, same⟩ :=
    (failsafe.committed look).resolve_cases look.position look.settings.failsafePositions look.now
  · rw [same]
    refine ⟨rfl, rfl, (or_iff_left_of_imp fun moves => ?_).symm, .inr rfl⟩
    exact passes.resolve_left moves.1
  · rw [same]
    exact ⟨rfl, rfl, ⟨fun _ => .inr ⟨level, moved⟩, fun _ => rfl⟩, .inl rfl⟩
  · rw [same]
    exact ⟨rfl, rfl, (or_iff_left_of_imp fun moves => absurd here moves.2).symm, .inr rfl⟩

/-- The position in force in flight: the configured one of the level, unless the pilot has
overridden it. -/
theorem inForce_of_armed (armed : look.armed = true) :
    failsafe.inForce look =
      if (failsafe.after look).overridden = true then look.position
      else ((failsafe.after look).level.position?
        look.settings.failsafePositions).getD look.position := by
  obtain ⟨inForce, after⟩ := failsafe.apply_of_armed armed
  rw [inForce, after]
  obtain ⟨passes, same⟩ | ⟨-, -, -, same⟩ | ⟨-, engaged, -, same⟩ :=
    (failsafe.committed look).resolve_cases look.position look.settings.failsafePositions look.now
  · rw [same]
    split
    · rfl
    next engaged =>
      rw [passes.resolve_right engaged]
      rfl
  · rw [same]
    rfl
  · rw [same, engaged]
    rfl

variable {failsafe}

/-- The level is raised exactly if a higher one was asked for and the last agreement lies back for
the grace period. -/
theorem raises_iff (armed : look.armed = true) :
    failsafe.Raises look ↔ failsafe.level.rank < look.asked.rank ∧
      ¬Micros.since look.now failsafe.changedAt < look.grace := by
  unfold Raises
  rw [(failsafe.after_of_armed armed).level, committed]
  obtain ⟨agrees, same⟩ | ⟨-, holds, same⟩ | ⟨above, lasted, same⟩ :=
    failsafe.commit_cases look.position look.asked look.grace look.now
  · rw [same, agrees]
    exact ⟨fun raised => absurd raised (Nat.lt_irrefl _),
      fun raised => absurd raised.1 (Nat.lt_irrefl _)⟩
  · rw [same]
    refine ⟨fun raised => absurd raised (Nat.lt_irrefl _), fun ⟨above, lasted⟩ => ?_⟩
    exact absurd above (Nat.lt_asymm (holds.resolve_left lasted))
  · rw [same]
    exact ⟨fun _ => ⟨above, lasted⟩, fun _ => above⟩

/-- A raise commits the level that was asked for, at the present position of the switch. -/
theorem committed_of_raises (armed : look.armed = true) (raises : failsafe.Raises look) :
    failsafe.committed look =
      { failsafe with
        level := look.asked, switchPosition := look.position, overridden := false } := by
  obtain ⟨above, lasted⟩ := (raises_iff armed).mp raises
  obtain ⟨agrees, -⟩ | ⟨-, holds, -⟩ | ⟨-, -, same⟩ :=
    failsafe.commit_cases look.position look.asked look.grace look.now
  · rw [agrees] at above
    exact absurd above (Nat.lt_irrefl _)
  · exact absurd above (Nat.lt_asymm (holds.resolve_left lasted))
  · exact same

/-- Without a raise, a commit notes the time at most. -/
theorem committed_of_not_raises (armed : look.armed = true) (stands : ¬failsafe.Raises look) :
    ∃ changedAt, failsafe.committed look = { failsafe with changedAt } := by
  obtain ⟨-, same⟩ | ⟨-, -, same⟩ | ⟨above, lasted, -⟩ :=
    failsafe.commit_cases look.position look.asked look.grace look.now
  · exact ⟨look.now, same⟩
  · exact ⟨failsafe.changedAt, same⟩
  · exact absurd ((raises_iff armed).mpr ⟨above, lasted⟩) stands

theorem level_of_raises (armed : look.armed = true) (raises : failsafe.Raises look) :
    (failsafe.after look).level = look.asked := by
  rw [(failsafe.after_of_armed armed).level, committed_of_raises armed raises]

theorem level_of_not_raises (armed : look.armed = true) (stands : ¬failsafe.Raises look) :
    (failsafe.after look).level = failsafe.level := by
  obtain ⟨_, same⟩ := committed_of_not_raises armed stands
  rw [(failsafe.after_of_armed armed).level, same]

/-- The level does not fall while the vehicle is armed. -/
theorem level_le_after (armed : look.armed = true) :
    failsafe.level.rank ≤ (failsafe.after look).level.rank := by
  by_cases raises : failsafe.Raises look
  · exact Nat.le_of_lt raises
  · exact Nat.le_of_eq (congrArg FailsafeLevel.rank (level_of_not_raises armed raises).symm)

/-- An alarm that agrees with the level in force starts the grace period over. -/
theorem changedAt_of_agrees (armed : look.armed = true) (agrees : look.asked = failsafe.level) :
    (failsafe.after look).changedAt = look.now := by
  have committed : (failsafe.committed look).changedAt = look.now := by
    rw [committed, commit, if_pos agrees]
  rcases (failsafe.after_of_armed armed).changedAt with now | kept
  · exact now
  · exact kept.trans committed

/-- Apart from that, the last agreement is forgotten for a later one only. -/
theorem le_changedAt_after (armed : look.armed = true) {moment : Micros}
    (past : moment ≤ look.now) (later : moment ≤ failsafe.changedAt) :
    moment ≤ (failsafe.after look).changedAt := by
  have committed : moment ≤ (failsafe.committed look).changedAt := by
    rw [committed]
    obtain ⟨-, same⟩ | ⟨-, -, same⟩ | ⟨-, -, same⟩ :=
      failsafe.commit_cases look.position look.asked look.grace look.now
    · rw [same]
      exact past
    · rw [same]
      exact later
    · rw [same]
      exact later
  rcases (failsafe.after_of_armed armed).changedAt with now | kept
  · rw [now]
    exact past
  · rw [kept]
    exact committed

end Tick

/-! ## A flight -/

/-- The vehicle is armed on all ticks. -/
def Armed (looks : List BatteryLook) : Prop := ∀ look ∈ looks, look.armed = true

instance (looks : List BatteryLook) : Decidable (Armed looks) :=
  inferInstanceAs (Decidable (∀ _ ∈ looks, _))

theorem Armed.of_split {before later : List BatteryLook} {look : BatteryLook}
    (armed : Armed (before ++ look :: later)) : look.armed = true ∧ Armed later :=
  ⟨armed look (by simp), fun next member =>
    armed next (List.mem_append_right before (List.mem_cons_of_mem look member))⟩

/-- **The level does not fall in flight.** -/
theorem level_le_foldl (failsafe : BatteryFailsafe) {looks : List BatteryLook}
    (armed : Armed looks) : failsafe.level.rank ≤ (looks.foldl after failsafe).level.rank := by
  induction looks generalizing failsafe with
  | nil => exact Nat.le_refl _
  | cons look looks inductionHypothesis =>
      obtain ⟨first, rest⟩ := List.forall_mem_cons.mp armed
      exact Nat.le_trans (level_le_after first) (inductionHypothesis (failsafe.after look) rest)

/-- Ticks that do not raise the level keep it. -/
theorem level_foldl_of_not_raises (failsafe : BatteryFailsafe) {looks : List BatteryLook}
    (armed : Armed looks) (stands : ∀ step ∈ failsafe.trace looks, ¬step.1.Raises step.2) :
    (looks.foldl after failsafe).level = failsafe.level := by
  induction looks generalizing failsafe with
  | nil => rfl
  | cons look looks inductionHypothesis =>
      obtain ⟨first, rest⟩ := List.forall_mem_cons.mp armed
      obtain ⟨kept, keep⟩ := List.forall_mem_cons.mp stands
      exact (inductionHypothesis _ rest keep).trans (level_of_not_raises first kept)

theorem le_changedAt_foldl (failsafe : BatteryFailsafe) {looks : List BatteryLook}
    (armed : Armed looks) {moment : Micros} (past : ∀ look ∈ looks, moment ≤ look.now)
    (later : moment ≤ failsafe.changedAt) :
    moment ≤ (looks.foldl after failsafe).changedAt := by
  induction looks generalizing failsafe with
  | nil => exact later
  | cons look looks inductionHypothesis =>
      obtain ⟨first, rest⟩ := List.forall_mem_cons.mp armed
      obtain ⟨passed, pass⟩ := List.forall_mem_cons.mp past
      exact inductionHypothesis _ rest pass (le_changedAt_after first passed later)

theorem trace_append (failsafe : BatteryFailsafe) (looks later : List BatteryLook) :
    failsafe.trace (looks ++ later) =
      failsafe.trace looks ++ (looks.foldl after failsafe).trace later := by
  induction looks generalizing failsafe with
  | nil => rfl
  | cons look looks inductionHypothesis =>
      simp only [List.cons_append, trace, inductionHypothesis, List.foldl_cons]

theorem mem_trace {failsafe : BatteryFailsafe} {looks : List BatteryLook}
    {step : BatteryFailsafe × BatteryLook} (member : step ∈ failsafe.trace looks) :
    ∃ before later, looks = before ++ step.2 :: later ∧ step.1 = before.foldl after failsafe := by
  induction looks generalizing failsafe with
  | nil => exact nomatch member
  | cons look looks inductionHypothesis =>
      rcases List.mem_cons.mp member with here | there
      · subst here
        exact ⟨[], looks, rfl, rfl⟩
      · obtain ⟨before, later, split, found⟩ := inductionHypothesis there
        exact ⟨look :: before, later, congrArg (look :: ·) split, found⟩

theorem look_mem_of_mem_trace {failsafe : BatteryFailsafe} {looks : List BatteryLook}
    {step : BatteryFailsafe × BatteryLook} (member : step ∈ failsafe.trace looks) :
    step.2 ∈ looks := by
  obtain ⟨before, later, rfl, -⟩ := mem_trace member
  exact List.mem_append_right before List.mem_cons_self

/-! ## The grace period -/

/-- The clock does not go back. -/
def Clocked (looks : List BatteryLook) : Prop :=
  looks.Pairwise fun earlier later => earlier.now ≤ later.now

instance (looks : List BatteryLook) : Decidable (Clocked looks) :=
  inferInstanceAs (Decidable (looks.Pairwise _))

/-- The ticks after a given one are not earlier. -/
theorem Clocked.le_of_split {before later : List BatteryLook} {look : BatteryLook}
    (clocked : Clocked (before ++ look :: later)) : ∀ next ∈ later, look.now ≤ next.now :=
  (List.pairwise_cons.mp (List.pairwise_append.mp clocked).2.1).1

/-- All alarms in the grace period before a tick have asked for more than the level in force. -/
def Alarmed (failsafe : BatteryFailsafe) (looks : List BatteryLook) (look : BatteryLook) : Prop :=
  ∀ earlier ∈ looks, Micros.since look.now earlier.now < look.grace →
    (looks.foldl after failsafe).level.rank < earlier.asked.rank

instance (failsafe : BatteryFailsafe) (looks : List BatteryLook) (look : BatteryLook) :
    Decidable (failsafe.Alarmed looks look) :=
  inferInstanceAs (Decidable (∀ _ ∈ looks, _ → _))

/-- The level stays what it is from a tick in the grace period on, if nothing is committed in the
grace period. -/
theorem level_of_recent {failsafe : BatteryFailsafe} {before later : List BatteryLook}
    {earlier : BatteryLook} {now grace : Micros} (armed : Armed (before ++ earlier :: later))
    (clocked : ∀ next ∈ later, earlier.now ≤ next.now)
    (recent : Micros.since now earlier.now < grace)
    (stands : ∀ step ∈ failsafe.trace (before ++ earlier :: later),
      Micros.since now step.2.now < grace → ¬step.1.Raises step.2) :
    ((before ++ earlier :: later).foldl after failsafe).level =
      (before.foldl after failsafe).level := by
  obtain ⟨first, onward⟩ := armed.of_split
  rw [trace_append] at stands
  have kept := stands _ (List.mem_append_right _ List.mem_cons_self) recent
  rw [List.foldl_append, List.foldl_cons, ← level_of_not_raises first kept]
  refine level_foldl_of_not_raises _ onward fun step member => ?_
  refine stands step (List.mem_append_right _ (List.mem_cons_of_mem _ member)) ?_
  exact UInt64.lt_of_le_of_lt
    (Micros.since_antitone now (clocked step.2 (look_mem_of_mem_trace member))) recent

section Raise

variable {failsafe : BatteryFailsafe} {looks : List BatteryLook} {look : BatteryLook}
  (armed : Armed (looks ++ [look])) (clocked : Clocked (looks ++ [look]))
  (raises : (looks.foldl after failsafe).Raises look)

include armed clocked raises

/-- No alarm in the grace period before a raise has agreed with the level that it found. -/
theorem asked_ne_of_raises {step : BatteryFailsafe × BatteryLook}
    (member : step ∈ failsafe.trace looks)
    (recent : Micros.since look.now step.2.now < look.grace) :
    step.2.asked ≠ step.1.level := by
  intro agrees
  obtain ⟨before, later, rfl, found⟩ := mem_trace member
  rw [List.append_assoc, List.cons_append] at armed clocked
  obtain ⟨now, onward⟩ := armed.of_split
  have noted : step.2.now ≤ (step.1.after step.2).changedAt := by
    rw [changedAt_of_agrees now agrees]
    exact UInt64.le_refl _
  have kept : step.2.now ≤ ((before ++ step.2 :: later).foldl after failsafe).changedAt := by
    rw [List.foldl_append, List.foldl_cons, ← found]
    refine le_changedAt_foldl _ (fun next member => onward next ?_) (fun next member => ?_) noted
    · exact List.mem_append_left _ member
    · exact clocked.le_of_split next (List.mem_append_left _ member)
  obtain ⟨-, lasted⟩ := (raises_iff (onward look (by simp))).mp raises
  exact lasted (UInt64.lt_of_le_of_lt (Micros.since_antitone look.now kept) recent)

/-- **When an alarm has lasted for the grace period.** All alarms in the grace period before a
raise have asked for more than the level in force exactly if none of them was committed and none
has fallen below the level that it found. -/
theorem alarmed_iff :
    failsafe.Alarmed looks look ↔
      ∀ step ∈ failsafe.trace looks, Micros.since look.now step.2.now < look.grace →
        ¬step.1.Raises step.2 ∧ step.1.level.rank ≤ step.2.asked.rank := by
  have flown : Armed looks := fun earlier member => armed earlier (List.mem_append_left _ member)
  constructor
  · intro alarmed step member recent
    obtain ⟨before, later, rfl, found⟩ := mem_trace member
    obtain ⟨now, onward⟩ := flown.of_split
    have above := alarmed step.2 (by simp) recent
    rw [List.foldl_append, List.foldl_cons, ← found] at above
    have last := level_le_foldl (step.1.after step.2) onward
    constructor
    · intro raised
      rw [level_of_raises now raised] at last
      omega
    · have first : step.1.level.rank ≤ (step.1.after step.2).level.rank := level_le_after now
      omega
  · intro steady earlier member recent
    obtain ⟨before, later, rfl⟩ := List.append_of_mem member
    have here : (before.foldl after failsafe, earlier) ∈
        failsafe.trace (before ++ earlier :: later) := by
      rw [trace_append]
      exact List.mem_append_right _ List.mem_cons_self
    have least : (before.foldl after failsafe).level.rank ≤ earlier.asked.rank :=
      (steady _ here recent).2
    have differs : earlier.asked.rank ≠ (before.foldl after failsafe).level.rank := fun same =>
      asked_ne_of_raises armed clocked raises here recent (FailsafeLevel.rank_injective same)
    rw [List.append_assoc, List.cons_append] at clocked
    have past : ∀ next ∈ later, earlier.now ≤ next.now := fun next member =>
      clocked.le_of_split next (List.mem_append_left _ member)
    rw [level_of_recent flown past recent fun step member recent => (steady step member recent).1]
    omega

end Raise

/-- A tick in flight with the switch in its first position. -/
def seenInFlight (settings : ModeSettings) (battery : Severity) (millis : UInt32) : BatteryLook :=
  ⟨0, true, battery, settings, .ofMillis millis⟩

/-- A critical battery that is reported for one second. -/
theorem alarmed_of_lasting :
    let settings : ModeSettings := { failsafeDebounce := 1000 }
    let looks := [seenInFlight settings .ok 0, seenInFlight settings .critical 400,
      seenInFlight settings .critical 900]
    let look := seenInFlight settings .critical 1200
    Armed (looks ++ [look]) ∧ Clocked (looks ++ [look]) ∧
      (looks.foldl after {}).Raises look ∧ ({} : BatteryFailsafe).Alarmed looks look := by
  intro settings looks look
  have armed : Armed (looks ++ [look]) := by decide +kernel
  have clocked : Clocked (looks ++ [look]) := by decide +kernel
  have raises : (looks.foldl after {}).Raises look := by decide +kernel
  exact ⟨armed, clocked, raises, (alarmed_iff armed clocked raises).mpr (by decide +kernel)⟩

/-- A critical alarm is taken at once, a tenth of a second after the battery was fine, or after
a warning was committed. -/
theorem raised_without_grace :
    let settings : ModeSettings := { failsafeDebounce := 1000 }
    let warned := [seenInFlight settings .ok 0, seenInFlight settings .warning 1000]
    let recovered := warned ++ [seenInFlight settings .warning 1200, seenInFlight settings .ok 2500]
    ∀ run ∈ [(recovered, seenInFlight settings .critical 2600),
        (warned, seenInFlight settings .critical 1100)],
      Armed (run.1 ++ [run.2]) ∧ Clocked (run.1 ++ [run.2]) ∧
        (run.1.foldl after {}).Raises run.2 ∧ ¬({} : BatteryFailsafe).Alarmed run.1 run.2 := by
  decide +kernel

end BatteryFailsafe
end FlightGuidance
