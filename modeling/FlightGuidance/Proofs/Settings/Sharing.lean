import FlightGuidance.Proofs.Settings.Agreement
import FlightGuidance.Settings.Guard

/-!
# Guards that share a topic

Several components check one settings topic, each with a guard of its own and at its own pace,
while other components publish whatever they like. A guard remembers the last record that it has
taken and the revision at which it has checked, and what it remembers fits the topic (`Fits`): its
record is valid, and agrees with the one in the topic if nothing was published since. The count of
publications tells the latter as long as it does not come round (`Coherent`).

So a guard that has just checked agrees with the topic, and both are valid. The guards do not
contend: when nobody else publishes any more, at most one of them puts a record back, and once all
have checked, the topic and the guards stay as they are (`checks_settle`).
-/

set_option autoImplicit false

namespace FlightGuidance

open Settings (Passes Agree)

/-- A settings topic and the guards that share it. -/
structure GuardedTopic (ι α : Type) where
  topic : Topic α
  guards : ι → SettingsGuard α

/-- What happens to a topic: a record is published by another component, or a guard checks. -/
inductive GuardedTopic.Event (ι α : Type) where
  | publish (record : α)
  | check (guard : ι)

def SettingsUpdate.isRejection : SettingsUpdate → Bool
  | rejected _ => true
  | unchanged | accepted => false

namespace SettingsGuard

variable {α : Type} [BEq α] [Settings α]

/-! ## One check -/

/-- All that a check can do: nothing, note that the record is known, take it, or put the last one
back. -/
theorem check_cases (guard : SettingsGuard α) (topic : Topic α) :
    (guard.seen = some topic.revision ∧ guard.check topic = (.unchanged, guard, topic)) ∨
    ((topic.value == guard.lastValid) = true ∧
      guard.check topic =
        (.unchanged, { guard with seen := some topic.revision }, topic)) ∨
    (Passes topic.value ∧
      guard.check topic = (.accepted, ⟨topic.value, some topic.revision⟩, topic)) ∨
    ∃ cause, Settings.check topic.value = .error cause ∧
      guard.seen ≠ some topic.revision ∧ ¬(topic.value == guard.lastValid) = true ∧
      guard.check topic =
        (.rejected cause, { guard with seen := some (topic.revision + 1) },
          topic.publish guard.lastValid) := by
  unfold check
  by_cases seen : guard.seen = some topic.revision
  · exact .inl ⟨seen, if_pos seen⟩
  rw [if_neg seen]
  by_cases known : (topic.value == guard.lastValid) = true
  · exact .inr (.inl ⟨known, if_pos known⟩)
  rw [if_neg known]
  cases result : Settings.check topic.value with
  | ok => exact .inr (.inr (.inl ⟨result, rfl⟩))
  | error cause => exact .inr (.inr (.inr ⟨cause, rfl, seen, known, rfl⟩))

theorem check_seen (guard : SettingsGuard α) (topic : Topic α) :
    (guard.check topic).2.1.seen = some (guard.check topic).2.2.revision := by
  obtain ⟨seen, same⟩ | ⟨-, same⟩ | ⟨-, same⟩ | ⟨cause, -, -, -, same⟩ := guard.check_cases topic
  · rw [same]
    exact seen
  · rw [same]
  · rw [same]
  · rw [same]
    rfl

/-- Nothing is new to a guard in what it has just checked. -/
theorem check_twice (guard : SettingsGuard α) (topic : Topic α) :
    (guard.check topic).2.1.check (guard.check topic).2.2 =
      (.unchanged, (guard.check topic).2) :=
  if_pos (guard.check_seen topic)

/-- What a guard remembers fits a topic. -/
structure Fits (guard : SettingsGuard α) (topic : Topic α) : Prop where
  valid : Passes guard.lastValid
  agree : guard.seen = some topic.revision → Agree topic.value guard.lastValid

/-- A guard has checked what is in a topic, and agrees with it. -/
structure Settled (guard : SettingsGuard α) (topic : Topic α) : Prop where
  seen : guard.seen = some topic.revision
  sound : Passes topic.value
  valid : Passes guard.lastValid
  agree : Agree topic.value guard.lastValid

variable {guard : SettingsGuard α} {topic : Topic α}

theorem Settled.fits (settled : guard.Settled topic) : guard.Fits topic :=
  ⟨settled.valid, fun _ => settled.agree⟩

/-- A guard that has seen what is in the topic leaves everything as it is. -/
theorem Settled.check_eq (settled : guard.Settled topic) :
    guard.check topic = (.unchanged, guard, topic) :=
  if_pos settled.seen

/-- A check writes to the topic only to put the last valid record back. -/
theorem check_topic : (guard.check topic).2.2 =
    if (guard.check topic).1.isRejection then topic.publish guard.lastValid else topic := by
  obtain ⟨-, same⟩ | ⟨-, same⟩ | ⟨-, same⟩ | ⟨cause, -, -, -, same⟩ := guard.check_cases topic
  · rw [same]
    rfl
  · rw [same]
    rfl
  · rw [same]
    rfl
  · rw [same]
    rfl

/-- A valid record is not rejected. -/
theorem isRejection_of_passes (sound : Passes topic.value) :
    (guard.check topic).1.isRejection = false := by
  obtain ⟨-, same⟩ | ⟨-, same⟩ | ⟨-, same⟩ | ⟨cause, error, -⟩ := guard.check_cases topic
  · rw [same]
    rfl
  · rw [same]
    rfl
  · rw [same]
    rfl
  · rw [Passes, error] at sound
    cases sound

/-- After a check, the guard and the topic agree on a valid record. -/
theorem Fits.settles [LawfulSettings α] (fits : guard.Fits topic) :
    (guard.check topic).2.1.Settled (guard.check topic).2.2 := by
  obtain ⟨seen, same⟩ | ⟨known, same⟩ | ⟨sound, same⟩ | ⟨cause, -, -, -, same⟩ :=
    guard.check_cases topic
  · rw [same]
    exact ⟨seen, (fits.agree seen).passes fits.valid, fits.valid, fits.agree seen⟩
  · rw [same]
    exact ⟨rfl, Settings.passes_of_beq known fits.valid, fits.valid, .inr known⟩
  · rw [same]
    exact ⟨rfl, sound, sound, .inl rfl⟩
  · rw [same]
    exact ⟨rfl, fits.valid, fits.valid, .inl rfl⟩

end SettingsGuard

namespace GuardedTopic

variable {ι α : Type} [DecidableEq ι] [BEq α] [Settings α]

/-! ## Runs -/

/-- A topic that nobody has written to, and guards that have not checked it yet. -/
def start (record : α) (initial : ι → α) : GuardedTopic ι α :=
  ⟨⟨record, 0⟩, fun guard => ⟨initial guard, none⟩⟩

/-- The outcome of a check. -/
def answer (shared : GuardedTopic ι α) (guard : ι) : SettingsUpdate :=
  ((shared.guards guard).check shared.topic).1

def next (shared : GuardedTopic ι α) : Event ι α → GuardedTopic ι α
  | .publish record => { shared with topic := shared.topic.publish record }
  | .check guard =>
    let (_, checked, topic) := (shared.guards guard).check shared.topic
    ⟨topic, Function.update shared.guards guard checked⟩

def run (shared : GuardedTopic ι α) (events : List (Event ι α)) : GuardedTopic ι α :=
  events.foldl next shared

/-- The outcomes of all checks of a run. -/
def answers (shared : GuardedTopic ι α) : List (Event ι α) → List SettingsUpdate
  | [] => []
  | .publish record :: events => (shared.next (.publish record)).answers events
  | .check guard :: events => shared.answer guard :: (shared.next (.check guard)).answers events

/-- The number of writes to the topic in a run. A check writes when it rejects. -/
def writes (shared : GuardedTopic ι α) : List (Event ι α) → Nat
  | [] => 0
  | .publish record :: events => 1 + (shared.next (.publish record)).writes events
  | .check guard :: events =>
    (if (shared.answer guard).isRejection then 1 else 0) +
      (shared.next (.check guard)).writes events

theorem run_append (shared : GuardedTopic ι α) (events later : List (Event ι α)) :
    shared.run (events ++ later) = (shared.run events).run later :=
  List.foldl_append

theorem answers_append (shared : GuardedTopic ι α) (events later : List (Event ι α)) :
    shared.answers (events ++ later) =
      shared.answers events ++ (shared.run events).answers later := by
  induction events generalizing shared with
  | nil => rfl
  | cons event events inductionHypothesis =>
      cases event with
      | publish record => exact inductionHypothesis _
      | check guard => exact congrArg (shared.answer guard :: ·) (inductionHypothesis _)

theorem writes_append (shared : GuardedTopic ι α) (events later : List (Event ι α)) :
    shared.writes (events ++ later) = shared.writes events + (shared.run events).writes later := by
  induction events generalizing shared with
  | nil => exact (Nat.zero_add _).symm
  | cons event events inductionHypothesis =>
      cases event with
      | publish record =>
          simp only [List.cons_append, writes, inductionHypothesis, Nat.add_assoc]
          rfl
      | check guard =>
          simp only [List.cons_append, writes, inductionHypothesis, Nat.add_assoc]
          rfl

section Check

variable (shared : GuardedTopic ι α) (guard : ι)

theorem next_check_guard : (shared.next (.check guard)).guards guard =
    ((shared.guards guard).check shared.topic).2.1 :=
  Function.update_self ..

theorem next_check_other {other : ι} (differs : other ≠ guard) :
    (shared.next (.check guard)).guards other = shared.guards other :=
  Function.update_of_ne differs ..

theorem next_check_topic : (shared.next (.check guard)).topic =
    if (shared.answer guard).isRejection then
      shared.topic.publish (shared.guards guard).lastValid
    else shared.topic :=
  SettingsGuard.check_topic

end Check

/-! ## What the guards remember -/

/-- The state of a topic after a number of writes. What was seen is not newer than the topic, and
what every guard remembers fits it. -/
structure Coherent (shared : GuardedTopic ι α) (count : Nat) : Prop where
  counted : shared.topic.revision.toNat = count
  seen : ∀ guard revision, (shared.guards guard).seen = some revision → revision.toNat ≤ count
  fits : ∀ guard, (shared.guards guard).Fits shared.topic

namespace Coherent

variable {shared : GuardedTopic ι α} {count : Nat} (coherent : shared.Coherent count)

include coherent

omit [DecidableEq ι] in
/-- One more write is a new revision, as long as the count does not come round. -/
theorem toNat_revision (few : count + 1 < UInt64.size) :
    (shared.topic.revision + 1).toNat = count + 1 := by
  rw [UInt64.toNat_add, coherent.counted]
  exact Nat.mod_eq_of_lt few

omit [DecidableEq ι] in
/-- Nobody has seen a revision that is only about to be written. -/
theorem seen_ne (few : count + 1 < UInt64.size) (guard : ι) :
    (shared.guards guard).seen ≠ some (shared.topic.revision + 1) := by
  intro seen
  have past := coherent.seen guard _ seen
  rw [coherent.toNat_revision few] at past
  omega

theorem publish (few : count + 1 < UInt64.size) (record : α) :
    (shared.next (.publish record)).Coherent (count + 1) where
  counted := coherent.toNat_revision few
  seen guard revision seen := Nat.le_succ_of_le (coherent.seen guard revision seen)
  fits guard := ⟨(coherent.fits guard).valid, fun seen => absurd seen (coherent.seen_ne few guard)⟩

theorem settled [LawfulSettings α] (guard : ι) :
    ((shared.next (.check guard)).guards guard).Settled (shared.next (.check guard)).topic := by
  rw [next_check_guard]
  exact (coherent.fits guard).settles

theorem check [LawfulSettings α] (guard : ι)
    (few : count + (if (shared.answer guard).isRejection then 1 else 0) < UInt64.size) :
    (shared.next (.check guard)).Coherent
      (count + if (shared.answer guard).isRejection then 1 else 0) := by
  have settled := coherent.settled guard
  have topic := shared.next_check_topic guard
  -- The guard that checks has seen the topic, so the others are left.
  have counted : (shared.next (.check guard)).topic.revision.toNat =
      count + if (shared.answer guard).isRejection then 1 else 0 := by
    rw [topic]
    cases rejects : (shared.answer guard).isRejection with
    | false => exact coherent.counted
    | true =>
        rw [rejects] at few
        exact coherent.toNat_revision few
  refine ⟨counted, fun other revision seen => ?_, fun other => ?_⟩
  · by_cases self : other = guard
    · subst self
      rw [settled.seen, Option.some_inj] at seen
      rw [← seen, counted]
    · rw [next_check_other _ _ self] at seen
      exact Nat.le_add_right_of_le (coherent.seen other revision seen)
  · by_cases self : other = guard
    · subst self
      exact settled.fits
    · rw [next_check_other _ _ self, topic]
      cases rejects : (shared.answer guard).isRejection with
      | false => exact coherent.fits other
      | true =>
          rw [rejects] at few
          exact ⟨(coherent.fits other).valid,
            fun seen => absurd seen (coherent.seen_ne few other)⟩

theorem run [LawfulSettings α] (events : List (Event ι α))
    (few : count + shared.writes events < UInt64.size) :
    (shared.run events).Coherent (count + shared.writes events) := by
  induction events generalizing shared count with
  | nil => exact coherent
  | cons event events inductionHypothesis =>
      cases event with
      | publish record =>
          simp only [writes, ← Nat.add_assoc] at few ⊢
          exact inductionHypothesis (coherent.publish (by omega) record) few
      | check guard =>
          simp only [writes, ← Nat.add_assoc] at few ⊢
          exact inductionHypothesis (coherent.check guard (by omega)) few

end Coherent

omit [DecidableEq ι] in
theorem coherent_start (record : α) {initial : ι → α} (sane : ∀ guard, Passes (initial guard)) :
    (start record initial).Coherent 0 where
  counted := rfl
  seen _ _ seen := nomatch seen
  fits guard := ⟨sane guard, fun seen => nomatch seen⟩

/-! ## Checks among themselves -/

/-- One check of a valid record. -/
theorem check_of_passes [LawfulSettings α] {topic : Topic α} (sound : Passes topic.value)
    {shared : GuardedTopic ι α} (same : shared.topic = topic)
    (fits : ∀ guard, (shared.guards guard).Fits topic) (guard : ι) :
    (shared.answer guard).isRejection = false ∧
      (shared.next (.check guard)).topic = topic ∧
      ((shared.next (.check guard)).guards guard).Settled topic := by
  have kept : (shared.answer guard).isRejection = false :=
    SettingsGuard.isRejection_of_passes (same ▸ sound)
  have unwritten : (shared.next (.check guard)).topic = topic := by
    rw [next_check_topic, kept]
    exact same
  have settles := (same ▸ fits guard : (shared.guards guard).Fits shared.topic).settles
  rw [← next_check_guard, show ((shared.guards guard).check shared.topic).2.2 = topic from
    unwritten] at settles
  exact ⟨kept, unwritten, settles⟩

/-- Checks of a valid record leave the topic alone, and settle the guards that make them. -/
theorem run_checks_of_passes [LawfulSettings α] {topic : Topic α} (sound : Passes topic.value)
    {shared : GuardedTopic ι α} (same : shared.topic = topic)
    (fits : ∀ guard, (shared.guards guard).Fits topic) (checks : List ι) :
    (∀ update ∈ shared.answers (checks.map .check), update.isRejection = false) ∧
      (shared.run (checks.map .check)).topic = topic ∧
      ∀ guard, guard ∈ checks ∨ (shared.guards guard).Settled topic →
        ((shared.run (checks.map .check)).guards guard).Settled topic := by
  induction checks generalizing shared with
  | nil =>
      refine ⟨fun _ none => (nomatch none), same, fun guard settled => ?_⟩
      exact settled.resolve_left List.not_mem_nil
  | cons first checks inductionHypothesis =>
      obtain ⟨kept, unwritten, settles⟩ := check_of_passes sound same fits first
      have settled (guard : ι) (before : guard = first ∨ (shared.guards guard).Settled topic) :
          ((shared.next (.check first)).guards guard).Settled topic := by
        by_cases self : guard = first
        · rw [self]
          exact settles
        · rw [next_check_other _ _ self]
          exact before.resolve_left self
      have fit (guard : ι) : ((shared.next (.check first)).guards guard).Fits topic := by
        by_cases self : guard = first
        · rw [self]
          exact settles.fits
        · rw [next_check_other _ _ self]
          exact fits guard
      obtain ⟨keep, unchanged, settle⟩ := inductionHypothesis unwritten fit
      refine ⟨List.forall_mem_cons.mpr ⟨kept, keep⟩, unchanged,
        fun guard checked => settle guard ?_⟩
      rcases checked with member | before
      · rcases List.mem_cons.mp member with now | later
        · exact .inr (settled guard (.inl now))
        · exact .inl later
      · exact .inr (settled guard (.inr before))

/-- Once all guards are settled, checks change nothing. -/
theorem run_checks_of_settled {shared : GuardedTopic ι α}
    (settled : ∀ guard, (shared.guards guard).Settled shared.topic) (checks : List ι) :
    shared.run (checks.map .check) = shared ∧
      ∀ update ∈ shared.answers (checks.map .check), update = .unchanged := by
  induction checks with
  | nil => exact ⟨rfl, fun _ none => nomatch none⟩
  | cons guard checks inductionHypothesis =>
      have same := (settled guard).check_eq
      have still : shared.next (.check guard) = shared := by
        simp only [next, same, Function.update_eq_self]
      have unchanged : shared.answer guard = .unchanged := by rw [answer, same]
      obtain ⟨rest, quiet⟩ := inductionHypothesis
      refine ⟨?_, ?_⟩
      · rw [List.map_cons, run, List.foldl_cons, still]
        exact rest
      · rw [List.map_cons, answers, still]
        exact List.forall_mem_cons.mpr ⟨unchanged, quiet⟩

/-- A round of checks rejects at most once, and settles all guards. -/
theorem Coherent.run_checks [LawfulSettings α] {shared : GuardedTopic ι α} {count : Nat}
    (coherent : shared.Coherent count) {checks : List ι} (all : ∀ guard, guard ∈ checks)
    (few : count + shared.writes (checks.map .check) < UInt64.size) :
    (shared.answers (checks.map .check)).countP SettingsUpdate.isRejection ≤ 1 ∧
      ∀ guard, ((shared.run (checks.map .check)).guards guard).Settled
        (shared.run (checks.map .check)).topic := by
  cases checks with
  | nil => exact ⟨Nat.zero_le _, fun guard => absurd (all guard) List.not_mem_nil⟩
  | cons first checks =>
      -- The first check leaves a valid record, whatever it finds.
      simp only [List.map_cons, writes, ← Nat.add_assoc] at few
      have checked := coherent.check first (by omega)
      have settles := coherent.settled first
      obtain ⟨keep, unchanged, settle⟩ := run_checks_of_passes settles.sound rfl checked.fits checks
      constructor
      · have none := List.countP_eq_zero.mpr fun update member =>
          (Bool.eq_false_iff.mp (keep update member))
        rw [List.map_cons, answers, List.countP_cons, none]
        split <;> decide
      · intro guard
        change (((shared.next (.check first)).run (checks.map .check)).guards guard).Settled
          ((shared.next (.check first)).run (checks.map .check)).topic
        rw [unchanged]
        refine settle guard ?_
        rcases List.mem_cons.mp (all guard) with now | later
        · rw [now]
          exact .inr settles
        · exact .inl later

/-- **Guards do not contend.** Let guards with valid records share a topic with components that
publish what they like, and let the count of all writes not come round. After every check, the
record of the topic and that of the guard are valid and agree. When only the guards go on and each
of them has checked, at most one check was a rejection, the guards agree with the topic, and no
later check changes anything or says anything else than that nothing has changed. -/
theorem checks_settle [LawfulSettings α] (record : α) (initial : ι → α)
    (sane : ∀ guard, Passes (initial guard)) (events : List (Event ι α)) :
    let shared := (start record initial).run events
    (∀ guard, (start record initial).writes (events ++ [.check guard]) < UInt64.size →
      let after := shared.next (.check guard)
      Passes after.topic.value ∧ Passes (after.guards guard).lastValid ∧
        Agree after.topic.value (after.guards guard).lastValid) ∧
    ∀ checks : List ι, (∀ guard, guard ∈ checks) →
      (start record initial).writes (events ++ checks.map .check) < UInt64.size →
      let settled := shared.run (checks.map .check)
      (shared.answers (checks.map .check)).countP SettingsUpdate.isRejection ≤ 1 ∧
        (∀ guard, Passes settled.topic.value ∧ Passes (settled.guards guard).lastValid ∧
          Agree settled.topic.value (settled.guards guard).lastValid) ∧
        ∀ later : List ι, settled.run (later.map .check) = settled ∧
          ∀ update ∈ settled.answers (later.map .check), update = .unchanged := by
  intro shared
  have started := coherent_start record sane
  constructor
  · intro guard few after
    rw [writes_append] at few
    have coherent := started.run events (by omega)
    have settled := coherent.settled guard
    exact ⟨settled.sound, settled.valid, settled.agree⟩
  · intro checks all few settled
    rw [writes_append] at few
    have coherent := started.run events (by omega)
    obtain ⟨once, settles⟩ := coherent.run_checks all (by omega)
    refine ⟨once, fun guard => ?_, run_checks_of_settled settles⟩
    exact ⟨(settles guard).sound, (settles guard).valid, (settles guard).agree⟩

/-- Two guards of the flight modes. One of them has accepted a record with a field that is not a
number, before a record that fails its check was published. -/
theorem settle_after_insane :
    let odd : ModeSettings := { landingVelocity := Single.nan }
    let insane : ModeSettings := { varioSmoothing := Single.nan }
    let started : GuardedTopic Bool ModeSettings := start {} fun _ => {}
    let shared := started.run [.publish odd, .check true, .publish insane]
    let settled := shared.run ([false, true].map .check)
    (∀ guard : Bool, guard ∈ [false, true]) ∧ shared.answer false = .rejected .varioSmoothing ∧
      (shared.answers ([false, true].map .check)).countP SettingsUpdate.isRejection ≤ 1 ∧
      (∀ guard, Passes settled.topic.value ∧ Passes (settled.guards guard).lastValid ∧
        Agree settled.topic.value (settled.guards guard).lastValid) ∧
      ∀ later : List Bool, settled.run (later.map .check) = settled ∧
        ∀ update ∈ settled.answers (later.map .check), update = .unchanged := by
  intro odd insane started shared settled
  have all : ∀ guard : Bool, guard ∈ [false, true] := by decide
  have sane : ∀ _ : Bool, Passes ({} : ModeSettings) := by decide +kernel
  have few : started.writes ([.publish odd, .check true, .publish insane] ++
      [false, true].map .check) < UInt64.size := by decide +kernel
  have rejects : shared.answer false = .rejected .varioSmoothing := by decide +kernel
  have settles := checks_settle ({} : ModeSettings) (fun _ : Bool => {}) sane
    [.publish odd, .check true, .publish insane]
  refine ⟨all, rejects, ?_⟩
  dsimp only [started, shared, settled]
  exact settles.2 [false, true] all few

end GuardedTopic
end FlightGuidance
