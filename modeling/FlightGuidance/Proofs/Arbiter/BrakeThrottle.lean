import FlightGuidance.Arbiter.Assist

/-!
# Who has the thrust of a brake

A run of assisted control with released sticks begins with a brake, and the stages of each
call are those that the call before has decided on. In between, the path follower may complete
the brake. The band of thrust is the one around the thrust with which the brake has begun
(`engaged`).

A hold that leaves the thrust to the pilot does so for good (`throttle_of_hold`). A brake does
not: it looks at the band anew on every call, whatever it has decided before. So the pilot keeps
the thrust exactly if it stays out of the band for the rest of the brake (`manual_iff`), and a
brake that has begun at idle hands it over on the next call (`auto_after_idle`).
-/

set_option autoImplicit false

namespace FlightGuidance

/-- What a call of assisted control reads besides the outcome of the call before. -/
structure AssistCall where
  command : PilotCommand := {}
  limits : ThrustLimits := {}
  neutralOffset : Float32 := 0
  /-- Whether a brake was completed before the call. -/
  completed : Bool := false

namespace AssistCall

/-- The stage with which a call begins. -/
def begin (call : AssistCall) (stage : AssistStage) : AssistStage :=
  if call.completed ∧ stage = .brake then .hold else stage

/-- A call of full assistance on the outcome of the call before. -/
def follow (before : AssistDecision × BrakeBand) (call : AssistCall) :
    AssistDecision × BrakeBand :=
  before.2.next .full (call.begin before.1.stage) before.1.throttle call.command call.limits
    call.neutralOffset

/-- The outcomes of calls that follow one another. -/
def outcomes (before : AssistDecision × BrakeBand) :
    List AssistCall → List (AssistDecision × BrakeBand)
  | [] => []
  | call :: calls => follow before call :: outcomes (follow before call) calls

/-- The sticks of all calls are released. -/
def Centered (calls : List AssistCall) : Prop :=
  ∀ call ∈ calls, call.command.hasRollOrPitch = false

theorem Centered.head {call : AssistCall} {calls : List AssistCall}
    (centered : Centered (call :: calls)) : call.command.hasRollOrPitch = false :=
  centered call List.mem_cons_self

theorem Centered.tail {call : AssistCall} {calls : List AssistCall}
    (centered : Centered (call :: calls)) : Centered calls :=
  fun later member => centered later (List.mem_cons_of_mem call member)

/-! ## One call -/

section Call

variable {before : AssistDecision × BrakeBand} {call : AssistCall}
  (centered : call.command.hasRollOrPitch = false)

include centered

theorem follow_of_primary (stage : before.1.stage = .primary) :
    follow before call =
      (⟨.brake, if call.command.thrust < call.limits.min then .manual else .auto, true⟩,
        .around call.command.thrust) := by
  have begins : call.begin before.1.stage = .primary := by
    rw [stage, begin, if_neg fun braking => nomatch braking.2]
  simp only [follow, begins, BrakeBand.next, centered, Bool.false_eq_true, if_false,
    Assist.throttle]

/-- A brake that goes on decides by the band alone. -/
theorem follow_of_brake (stage : before.1.stage = .brake) (goes : call.completed = false) :
    follow before call =
      (⟨.brake, if before.2.left call.command.thrust then .manual else .auto, true⟩,
        before.2) := by
  have begins : call.begin before.1.stage = .brake := by
    rw [stage, begin, goes, if_neg fun completed => nomatch completed.1]
  simp only [follow, begins, BrakeBand.next, centered, Bool.false_eq_true, if_false,
    Assist.throttle, beq_self_eq_true, Bool.true_and]

/-- A hold decides by the throttle of the call before. -/
theorem follow_of_hold (begins : call.begin before.1.stage = .hold) :
    follow before call =
      (⟨.hold,
          BrakeBand.holdThrottle .full before.1.throttle
            (BrakeBand.nearNeutral call.command.thrust
              (call.limits.neutral + call.neutralOffset)),
          true⟩,
        before.2) := by
  simp only [follow, begins, BrakeBand.next, centered, Bool.false_eq_true, if_false]

/-- Released sticks leave neither the brake nor the hold, and keep the band. -/
theorem follow_engaged (engaged : before.1.stage ≠ .primary) :
    (follow before call).1.stage ≠ .primary ∧ (follow before call).2 = before.2 := by
  cases begins : call.begin before.1.stage with
  | primary =>
      unfold begin at begins
      split at begins
      · cases begins
      · exact absurd begins engaged
  | brake =>
      simp [follow, begins, BrakeBand.next, centered]
  | hold =>
      rw [follow_of_hold centered begins]
      exact ⟨fun primary => (nomatch primary), rfl⟩

end Call

/-! ## A run -/

/-- Calls that go on keep the band, and leave the first stage behind. -/
theorem foldl_engaged {before : AssistDecision × BrakeBand}
    (engaged : before.1.stage ≠ .primary) {calls : List AssistCall} (centered : Centered calls) :
    (calls.foldl follow before).1.stage ≠ .primary ∧
      (calls.foldl follow before).2 = before.2 := by
  induction calls generalizing before with
  | nil => exact ⟨engaged, rfl⟩
  | cons call calls inductionHypothesis =>
      obtain ⟨stage, band⟩ := follow_engaged centered.head engaged
      obtain ⟨last, kept⟩ := inductionHypothesis stage centered.tail
      exact ⟨last, kept.trans band⟩

/-- The band of a run is the one around the thrust of its first call. -/
theorem engaged {start : AssistDecision × BrakeBand} (primary : start.1.stage = .primary)
    {entry : AssistCall} {calls : List AssistCall} (centered : Centered (entry :: calls)) :
    ((entry :: calls).foldl follow start).1.stage ≠ .primary ∧
      ((entry :: calls).foldl follow start).2 = .around entry.command.thrust := by
  have entered := follow_of_primary centered.head primary
  have braking : (follow start entry).1.stage ≠ .primary := by simp [entered]
  obtain ⟨stage, band⟩ := foldl_engaged braking centered.tail
  exact ⟨stage, band.trans (by rw [entered])⟩

/-- A hold with manual thrust keeps it. -/
theorem throttle_of_hold {taken : AssistDecision × BrakeBand} (hold : taken.1.stage = .hold)
    (manual : taken.1.throttle = .manual) {later : List AssistCall}
    (centered : Centered later) :
    ∀ outcome ∈ outcomes taken later, outcome.1.throttle = .manual := by
  induction later generalizing taken with
  | nil => exact fun _ none => nomatch none
  | cons call later inductionHypothesis =>
      have begins : call.begin taken.1.stage = .hold := by
        rw [hold, begin, if_neg fun braking => nomatch braking.2]
      have next := follow_of_hold centered.head begins
      rw [manual] at next
      simp only [outcomes, List.forall_mem_cons]
      refine ⟨?_, inductionHypothesis ?_ ?_ centered.tail⟩ <;> rw [next] <;> rfl

/-- A brake with manual thrust keeps it as long as the thrust is out of the band. -/
theorem throttle_of_brake {taken : AssistDecision × BrakeBand} (brake : taken.1.stage = .brake)
    (manual : taken.1.throttle = .manual) {later : List AssistCall}
    (centered : Centered later) :
    (∀ outcome ∈ outcomes taken later, outcome.1.throttle = .manual) ↔
      ∀ call ∈ later.takeWhile (fun call => !call.completed),
        taken.2.left call.command.thrust = true := by
  induction later generalizing taken with
  | nil => exact ⟨fun _ _ none => (nomatch none), fun _ _ none => nomatch none⟩
  | cons call later inductionHypothesis =>
      cases completed : call.completed with
      | true =>
          -- From here on the vehicle holds, and the brake makes no call any more.
          have begins : call.begin taken.1.stage = .hold := by
            rw [brake, begin, if_pos ⟨completed, rfl⟩]
          have next := follow_of_hold centered.head begins
          rw [manual] at next
          have kept : (follow taken call).1.throttle = .manual := by rw [next]; rfl
          have holds := throttle_of_hold (by rw [next]) kept centered.tail
          simp only [outcomes, List.forall_mem_cons, kept, true_and, completed, Bool.not_true,
            Bool.false_eq_true, not_false_eq_true, List.takeWhile_cons_of_neg]
          exact ⟨fun _ _ none => (nomatch none), fun _ => holds⟩
      | false =>
          have next := follow_of_brake centered.head brake completed
          simp only [outcomes, List.forall_mem_cons, completed, Bool.not_false,
            List.takeWhile_cons_of_pos]
          cases out : taken.2.left call.command.thrust with
          | true =>
              have kept : (follow taken call).1.throttle = .manual := by simp [next, out]
              have band : (follow taken call).2 = taken.2 := by rw [next]
              simp only [kept, true_and]
              rw [inductionHypothesis (by rw [next]) kept centered.tail, band]
          | false =>
              have handed : (follow taken call).1.throttle = .auto := by simp [next, out]
              simp [handed]

/-- **Who keeps the thrust.** In a run that begins with a brake, a call that has left the thrust
to the pilot is followed by such calls only exactly if it holds, or if the thrust is out of the
band around the thrust of the first call in the rest of the brake. -/
theorem manual_iff (start : AssistDecision × BrakeBand) (primary : start.1.stage = .primary)
    (entry : AssistCall) (earlier later : List AssistCall)
    (centered : Centered (entry :: (earlier ++ later)))
    (manual : ((entry :: earlier).foldl follow start).1.throttle = .manual) :
    let taken := (entry :: earlier).foldl follow start
    (∀ outcome ∈ outcomes taken later, outcome.1.throttle = .manual) ↔
      (taken.1.stage = .brake → ∀ call ∈ later.takeWhile (fun call => !call.completed),
        (BrakeBand.around entry.command.thrust).left call.command.thrust = true) := by
  intro taken
  have before : Centered (entry :: earlier) := fun call member =>
    centered call (List.mem_append_left later member)
  have after : Centered later := fun call member =>
    centered call (List.mem_append_right (entry :: earlier) member)
  obtain ⟨engages, band⟩ :
      taken.1.stage ≠ .primary ∧ taken.2 = .around entry.command.thrust :=
    engaged primary before
  change taken.1.throttle = .manual at manual
  clear_value taken
  cases stage : taken.1.stage with
  | primary => exact absurd stage engages
  | brake =>
      rw [← band]
      exact (throttle_of_brake stage manual after).trans ⟨fun out _ => out, fun out => out rfl⟩
  | hold =>
      exact ⟨fun _ braking => (nomatch braking), fun _ => throttle_of_hold stage manual after⟩

/-! ## A brake that begins at idle -/

/-- A call at a thrust below the least one. -/
def idle : AssistCall := { command := { thrust := 0.125 } }

/-- The pilot raises the thrust at once, and keeps it when the brake is completed. -/
theorem manual_of_raised :
    let raised : AssistCall := { command := { thrust := 0.25 } }
    let held : AssistCall := { command := { thrust := 0.5 }, completed := true }
    (∀ call ∈ [idle, raised, held], call.command.hasRollOrPitch = false) ∧
      (follow (.pilot, {}) idle).1.throttle = .manual ∧
      ∀ outcome ∈ outcomes (follow (.pilot, {}) idle) [raised, held],
        outcome.1.throttle = .manual := by
  intro raised held
  have centered : ∀ call ∈ [idle, raised, held], call.command.hasRollOrPitch = false := by
    decide +kernel
  have manual : (follow (.pilot, {}) idle).1.throttle = .manual := by decide +kernel
  refine ⟨centered, manual, ?_⟩
  have out : ∀ call ∈ [raised, held].takeWhile (fun call => !call.completed),
      (BrakeBand.around idle.command.thrust).left call.command.thrust = true := by
    decide +kernel
  exact (manual_iff (.pilot, {}) rfl idle [] [raised, held] centered manual).mpr fun _ => out

/-- The pilot does not touch the sticks, and the thrust is handed over. -/
theorem auto_after_idle :
    idle.command.hasRollOrPitch = false ∧ idle.command.thrust < idle.limits.min ∧
      (follow (.pilot, {}) idle).1.throttle = .manual ∧
      (follow (follow (.pilot, {}) idle) idle).1.throttle = .auto := by
  decide +kernel

end AssistCall
end FlightGuidance
