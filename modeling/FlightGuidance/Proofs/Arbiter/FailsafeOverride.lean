import FlightGuidance.Proofs.Arbiter.FailsafeLevel

/-!
# The pilot's authority over the battery failsafe

The failsafe notes the position of the switch when it commits a level, and the pilot overrides it
by moving the switch from there. This module keeps the history of a run since the level in force
was committed (`FailsafeRun`), and reads the two notes of the failsafe off it: the position is the
one of the commit, and an override is in force exactly if there is a level and the switch has been
elsewhere since (`Recorded`).

So the pilot has the switch from the first time it is moved until a higher level is committed or
the vehicle is disarmed, wherever the switch goes in between. Only without an override, and only
in flight, the failsafe has it, and then it takes the position that is configured for its level
(`pilot_authority`).
-/

set_option autoImplicit false

namespace FlightGuidance

/-- A run of the failsafe, as far as the level in force goes back. -/
structure FailsafeRun where
  failsafe : BatteryFailsafe := {}
  /-- The pilot's position of the switch when the level was committed. -/
  position : UInt8 := 0
  /-- The ticks since then. -/
  since : List BatteryLook := []

namespace FailsafeRun

/-- One more tick. A raise and a disarmed tick commit the level anew. -/
def next (run : FailsafeRun) (look : BatteryLook) : FailsafeRun :=
  if look.armed = true ∧ ¬run.failsafe.Raises look then
    ⟨run.failsafe.after look, run.position, run.since ++ [look]⟩
  else ⟨run.failsafe.after look, look.position, []⟩

/-- The run of a failsafe that has looked at nothing before. -/
def ofLooks (looks : List BatteryLook) : FailsafeRun := looks.foldl next {}

/-- The pilot has moved the switch since the level was committed. -/
def Moved (run : FailsafeRun) : Prop := ∃ look ∈ run.since, look.position ≠ run.position

instance (run : FailsafeRun) : Decidable run.Moved :=
  inferInstanceAs (Decidable (∃ _ ∈ _, _))

theorem next_failsafe (run : FailsafeRun) (look : BatteryLook) :
    (run.next look).failsafe = run.failsafe.after look := by
  unfold next
  split <;> rfl

theorem foldl_failsafe (run : FailsafeRun) (looks : List BatteryLook) :
    (looks.foldl next run).failsafe = looks.foldl BatteryFailsafe.after run.failsafe := by
  induction looks generalizing run with
  | nil => rfl
  | cons look looks inductionHypothesis =>
      rw [List.foldl_cons, List.foldl_cons, inductionHypothesis, next_failsafe]

/-! ## One tick -/

/-- What the failsafe has noted is what has happened since the level was committed. -/
structure Recorded (run : FailsafeRun) : Prop where
  position : run.failsafe.switchPosition = run.position
  overridden : run.failsafe.overridden = true ↔ run.failsafe.level ≠ .none ∧ run.Moved

/-- The notes stay true on a tick, and the position in force is the configured one unless the pilot
has moved the switch. -/
structure Resolves (run : FailsafeRun) (look : BatteryLook) : Prop where
  recorded : (run.next look).Recorded
  inForce : run.failsafe.inForce look =
    if (run.next look).Moved then look.position
    else ((run.failsafe.after look).level.position?
      look.settings.failsafePositions).getD look.position

section Tick

variable {run : FailsafeRun} {look : BatteryLook}

theorem next_of_stands (armed : look.armed = true) (stands : ¬run.failsafe.Raises look) :
    run.next look = ⟨run.failsafe.after look, run.position, run.since ++ [look]⟩ :=
  if_pos ⟨armed, stands⟩

theorem moved_of_stands (armed : look.armed = true) (stands : ¬run.failsafe.Raises look) :
    (run.next look).Moved ↔ run.Moved ∨ look.position ≠ run.position := by
  rw [next_of_stands armed stands]
  simp only [Moved, List.mem_append, List.mem_singleton, or_and_right, exists_or, exists_eq_left]

/-- Nothing has been moved yet when a level has just been committed. -/
theorem resolves_of_commits (commits : ¬(look.armed = true ∧ ¬run.failsafe.Raises look))
    (position : (run.failsafe.after look).switchPosition = look.position)
    (engaged : (run.failsafe.after look).overridden = false)
    (inForce : run.failsafe.inForce look = ((run.failsafe.after look).level.position?
      look.settings.failsafePositions).getD look.position) : run.Resolves look := by
  have committed : run.next look = ⟨run.failsafe.after look, look.position, []⟩ := if_neg commits
  have unmoved : ¬(run.next look).Moved := by
    rw [committed]
    exact fun ⟨_, member, _⟩ => nomatch member
  refine ⟨⟨?_, ?_⟩, ?_⟩
  · rw [committed]
    exact position
  · rw [next_failsafe, engaged]
    exact ⟨fun overridden => (nomatch overridden), fun moved => absurd moved.2 unmoved⟩
  · rw [if_neg unmoved]
    exact inForce

theorem resolves_of_disarmed (disarmed : look.armed = false) : run.Resolves look := by
  obtain ⟨inForce, after⟩ := run.failsafe.apply_of_disarmed disarmed
  refine resolves_of_commits (fun stands => ?_) (by rw [after]) (by rw [after]) ?_
  · exact absurd stands.1 (by rw [disarmed]; decide)
  · rw [inForce, after]
    rfl

theorem resolves_of_raises (armed : look.armed = true) (raises : run.failsafe.Raises look) :
    run.Resolves look := by
  have chosen := run.failsafe.after_of_armed armed
  rw [BatteryFailsafe.committed_of_raises armed raises] at chosen
  have engaged : ¬(run.failsafe.after look).overridden = true := by
    rw [chosen.overridden]
    rintro (overridden | ⟨-, moved⟩)
    · cases overridden
    · exact moved rfl
  refine resolves_of_commits (fun stands => stands.2 raises) chosen.switchPosition
    (Bool.eq_false_iff.mpr engaged) ?_
  rw [run.failsafe.inForce_of_armed armed, if_neg engaged]

theorem resolves_of_stands (recorded : run.Recorded) (armed : look.armed = true)
    (stands : ¬run.failsafe.Raises look) : run.Resolves look := by
  have chosen := run.failsafe.after_of_armed armed
  obtain ⟨changedAt, committed⟩ := BatteryFailsafe.committed_of_not_raises armed stands
  rw [committed] at chosen
  have switch : (run.failsafe.after look).switchPosition = run.position :=
    chosen.switchPosition.trans recorded.position
  have overridden : (run.failsafe.after look).overridden = true ↔
      (run.failsafe.after look).level ≠ .none ∧ (run.next look).Moved := by
    rw [chosen.overridden, chosen.level, moved_of_stands armed stands, and_or_left]
    exact or_congr recorded.overridden (by rw [← recorded.position])
  refine ⟨⟨?_, ?_⟩, ?_⟩
  · rw [next_failsafe, switch, next_of_stands armed stands]
  · rw [next_failsafe]
    exact overridden
  · rw [run.failsafe.inForce_of_armed armed]
    by_cases none : (run.failsafe.after look).level = .none
    · -- Without a level both positions are the pilot's.
      simp only [none, FailsafeLevel.position?, Option.getD_none, ite_self]
    · simp only [overridden, ne_eq, none, not_false_eq_true, true_and]

end Tick

theorem Recorded.resolves {run : FailsafeRun} (recorded : run.Recorded) (look : BatteryLook) :
    run.Resolves look := by
  cases armed : look.armed with
  | false => exact resolves_of_disarmed armed
  | true =>
      by_cases raises : run.failsafe.Raises look
      · exact resolves_of_raises armed raises
      · exact resolves_of_stands recorded armed raises

/-! ## A run -/

theorem Recorded.foldl {run : FailsafeRun} (recorded : run.Recorded) (looks : List BatteryLook) :
    (looks.foldl next run).Recorded := by
  induction looks generalizing run with
  | nil => exact recorded
  | cons look looks inductionHypothesis =>
      exact inductionHypothesis (recorded.resolves look).recorded

theorem recorded_start : Recorded {} where
  position := rfl
  overridden := ⟨fun overridden => (nomatch overridden), fun moved => absurd rfl moved.1⟩

/-- The pilot who has moved the switch has it for as long as the level stands. -/
theorem Recorded.inForce_of_moved {run : FailsafeRun} (recorded : run.Recorded)
    {look : BatteryLook} {later : List BatteryLook}
    (stands : ∀ step ∈ run.failsafe.trace (look :: later),
      step.2.armed = true ∧ ¬step.1.Raises step.2)
    (moved : run.Moved ∨ look.position ≠ run.position) :
    ∀ step ∈ run.failsafe.trace (look :: later), step.1.inForce step.2 = step.2.position := by
  induction later generalizing run look with
  | nil =>
      obtain ⟨⟨armed, kept⟩, -⟩ := List.forall_mem_cons.mp stands
      refine List.forall_mem_cons.mpr ⟨?_, fun _ none => nomatch none⟩
      rw [(recorded.resolves look).inForce, if_pos ((moved_of_stands armed kept).mpr moved)]
  | cons second later inductionHypothesis =>
      obtain ⟨⟨armed, kept⟩, onward⟩ := List.forall_mem_cons.mp stands
      have leaves := (moved_of_stands armed kept).mpr moved
      have resolves := recorded.resolves look
      refine List.forall_mem_cons.mpr ⟨?_, ?_⟩
      · rw [resolves.inForce, if_pos leaves]
      · rw [← next_failsafe] at onward ⊢
        exact inductionHypothesis resolves.recorded onward (.inl leaves)

/-- What is in force against the pilot is the configured position of a level that the pilot has
not overridden. -/
theorem Recorded.configured_of_ne {run : FailsafeRun} (recorded : run.Recorded)
    {look : BatteryLook} (taken : run.failsafe.inForce look ≠ look.position) :
    let after := run.next look
    look.armed = true ∧ after.failsafe.level ≠ .none ∧ after.failsafe.overridden = false ∧
      ¬after.Moved ∧ after.failsafe.level.position? look.settings.failsafePositions =
        some (run.failsafe.inForce look) := by
  intro after
  obtain ⟨kept, inForce⟩ := recorded.resolves look
  have unmoved : ¬after.Moved := fun moved => taken (by rw [inForce, if_pos moved])
  have engaged : ¬after.failsafe.overridden = true := fun overridden =>
    unmoved (kept.overridden.mp overridden).2
  have armed : ¬look.armed = false := fun disarmed =>
    taken (run.failsafe.apply_of_disarmed disarmed).1
  rw [if_neg unmoved, ← next_failsafe] at inForce
  change _ = (after.failsafe.level.position? _).getD _ at inForce
  cases chosen : after.failsafe.level.position? look.settings.failsafePositions with
  | none =>
      rw [chosen] at inForce
      exact absurd inForce taken
  | some position =>
      rw [chosen] at inForce
      refine ⟨by simpa using armed, fun none => ?_, by simpa using engaged, unmoved, ?_⟩
      · rw [none] at chosen
        cases chosen
      · rw [inForce]
        rfl

end FailsafeRun
end FlightGuidance
