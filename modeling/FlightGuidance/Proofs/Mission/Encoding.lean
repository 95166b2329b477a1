import FlightGuidance.Mission
import Mathlib.Algebra.Ring.Nat
import Mathlib.Data.List.Basic

/-!
# What the checksum of a mission covers

The wire form of a record has no marks between its fields, and neither have the records of a
mission. It can be read back all the same: a field can be told apart at the front of any byte string
(`Wire.Separable`), since words have one length and the groups of a number say where it ends. A
record is separable since its fields are, and a list of records of known length since the records
are (`Wire.Separable.list`).

An encoded record is also short: 19 bytes for a waypoint and 41 for an action. So the checksum of a
mission is always there, it is that of all the declared bytes (`Mission.checksum_eq`), and these
determine every bit of the declared records (`Mission.checksum_covers`).
-/

set_option autoImplicit false

namespace FlightGuidance
namespace Wire

variable {α β : Type}

/-- The first value of a code, and the bytes after it, are determined by the bytes. -/
def Separable (encode : α → List UInt8) : Prop :=
  ∀ ⦃first second : α⦄ ⦃front back : List UInt8⦄,
    encode first ++ front = encode second ++ back → first = second ∧ front = back

/-- Values that are encoded through others. -/
theorem Separable.comp {encode : β → List UInt8} (separable : Separable encode) {view : α → β}
    (injective : ∀ ⦃first second⦄, view first = view second → first = second) :
    Separable fun value => encode (view value) := by
  intro first second front back same
  obtain ⟨views, rest⟩ := separable same
  exact ⟨injective views, rest⟩

/-- Lists of one length. -/
theorem Separable.list {encode : α → List UInt8} (separable : Separable encode)
    {first second : List α} {front back : List UInt8} (sameLength : first.length = second.length)
    (same : first.flatMap encode ++ front = second.flatMap encode ++ back) :
    first = second ∧ front = back := by
  induction first generalizing second with
  | nil =>
      obtain rfl := List.eq_nil_of_length_eq_zero sameLength.symm
      exact ⟨rfl, same⟩
  | cons value first inductionHypothesis =>
      obtain ⟨other, second, rfl⟩ := List.exists_cons_of_length_eq_add_one sameLength.symm
      rw [List.flatMap_cons, List.flatMap_cons, List.append_assoc, List.append_assoc] at same
      obtain ⟨heads, tails⟩ := separable same
      obtain ⟨rest, after⟩ := inductionHypothesis (Nat.succ.inj sameLength) tails
      exact ⟨by rw [heads, rest], after⟩

/-! ## Words -/

theorem length_word (value : UInt32) : (word value).length = 4 := rfl

theorem word_injective {first second : UInt32} (same : word first = word second) :
    first = second := by
  simp only [word, List.cons.injEq, and_true, ← UInt8.toNat_inj, UInt32.toNat_toUInt8,
    UInt32.toNat_shiftRight, Nat.shiftRight_eq_div_pow] at same
  obtain ⟨lowest, low, high, highest⟩ := same
  have firstBound := first.toNat_lt
  have secondBound := second.toNat_lt
  refine UInt32.toNat_inj.mp ?_
  simp only [UInt32.reduceToNat, Nat.reduceMod, Nat.reducePow] at *
  omega

theorem word_separable : Separable word := by
  intro first second front back same
  obtain ⟨words, rest⟩ := List.append_inj same rfl
  exact ⟨word_injective words, rest⟩

/-! ## Numbers -/

theorem length_groups_le (count value : ℕ) : (groups count value).length ≤ count := by
  induction count generalizing value with
  | zero => exact Nat.le_refl _
  | succ count inductionHypothesis =>
      unfold groups
      split
      · exact Nat.succ_le_succ (Nat.zero_le count)
      · exact Nat.succ_le_succ (inductionHypothesis _)

theorem ofNat_injective {first second : ℕ} (firstByte : first < 256) (secondByte : second < 256)
    (same : UInt8.ofNat first = UInt8.ofNat second) : first = second := by
  rw [← UInt8.toNat_ofNat_of_lt' firstByte, same, UInt8.toNat_ofNat_of_lt' secondByte]

/-- Only the last group of a number has its high bit clear. So the groups end where they do, and
numbers for which there are enough of them are determined. -/
theorem groups_separable {count first second : ℕ} (firstFits : first < 128 ^ count)
    (secondFits : second < 128 ^ count) {front back : List UInt8}
    (same : groups count first ++ front = groups count second ++ back) :
    first = second ∧ front = back := by
  induction count generalizing first second with
  | zero =>
      rw [Nat.pow_zero, Nat.lt_one_iff] at firstFits secondFits
      exact ⟨firstFits.trans secondFits.symm, same⟩
  | succ count inductionHypothesis =>
      unfold groups at same
      by_cases firstLast : first < 128 <;> by_cases secondLast : second < 128
      · rw [if_pos firstLast, if_pos secondLast] at same
        obtain ⟨heads, rest⟩ := List.cons.inj same
        exact ⟨ofNat_injective (by omega) (by omega) heads, rest⟩
      · rw [if_pos firstLast, if_neg secondLast] at same
        have heads := ofNat_injective (by omega) (by omega) (List.cons.inj same).1
        omega
      · rw [if_neg firstLast, if_pos secondLast] at same
        have heads := ofNat_injective (by omega) (by omega) (List.cons.inj same).1
        omega
      · rw [if_neg firstLast, if_neg secondLast] at same
        obtain ⟨heads, tails⟩ := List.cons.inj same
        have lowest := ofNat_injective (by omega) (by omega) heads
        have fits {value : ℕ} (fits : value < 128 ^ (count + 1)) : value / 128 < 128 ^ count :=
          Nat.div_lt_of_lt_mul (Nat.pow_succ' ▸ fits)
        obtain ⟨quotients, rest⟩ := inductionHypothesis (fits firstFits) (fits secondFits) tails
        exact ⟨by omega, rest⟩

/-- A code of small numbers. -/
theorem separable_groups_one {code : α → ℕ} (small : ∀ value, code value < 128)
    (injective : ∀ ⦃first second⦄, code first = code second → first = second) :
    Separable fun value => groups 1 (code value) := by
  intro first second front back same
  obtain ⟨codes, rest⟩ := groups_separable (small first) (small second) same
  exact ⟨injective codes, rest⟩

theorem index_separable : Separable index := by
  intro first second front back same
  have fits (value : UInt16) : value.toNat < 128 ^ 3 :=
    Nat.lt_of_lt_of_le value.toNat_lt (by decide)
  obtain ⟨values, rest⟩ := groups_separable (fits first) (fits second) same
  exact ⟨UInt16.toNat_inj.mp values, rest⟩

theorem zigzag_injective {first second : Int} (same : zigzag first = zigzag second) :
    first = second := by
  unfold zigzag at same
  split at same <;> split at same <;> omega

theorem zigzag_lt (value : Int16) : zigzag value.toInt < 128 ^ 3 := by
  have above := value.le_toInt
  have below := value.toInt_lt
  unfold zigzag
  split <;> omega

theorem signed_separable : Separable signed := by
  intro first second front back same
  obtain ⟨values, rest⟩ := groups_separable (zigzag_lt first) (zigzag_lt second) same
  exact ⟨Int16.toInt_inj.mp (zigzag_injective values), rest⟩

end Wire

/-! ## Fields of records -/

theorem StoredSingle.word_injective {first second : StoredSingle}
    (same : first.word = second.word) : first = second :=
  congrArg StoredSingle.mk same

theorem PathMode.code_injective {first second : PathMode} (same : first.code = second.code) :
    first = second := by
  have numbered (mode : PathMode) : mode.code = mode.ctorIdx := by cases mode <;> rfl
  rw [← PathMode.ofNat_ctorIdx first, ← numbered, same, numbered, PathMode.ofNat_ctorIdx]

theorem EndCondition.code_injective {first second : EndCondition}
    (same : first.code = second.code) : first = second := by
  have numbered (condition : EndCondition) : condition.code = condition.ctorIdx := by
    cases condition <;> rfl
  rw [← EndCondition.ofNat_ctorIdx first, ← numbered, same, numbered, EndCondition.ofNat_ctorIdx]

theorem LegCommand.code_injective {first second : LegCommand} (same : first.code = second.code) :
    first = second := by
  have numbered (command : LegCommand) : command.code = command.ctorIdx := by
    cases command <;> rfl
  rw [← LegCommand.ofNat_ctorIdx first, ← numbered, same, numbered, LegCommand.ofNat_ctorIdx]

namespace Wire

theorem mode_separable : Separable fun mode : PathMode => groups 1 mode.code :=
  separable_groups_one (fun mode => by cases mode <;> decide) @PathMode.code_injective

theorem condition_separable : Separable fun condition : EndCondition => groups 1 condition.code :=
  separable_groups_one (fun condition => by cases condition <;> decide)
    @EndCondition.code_injective

theorem command_separable : Separable fun command : LegCommand => groups 1 command.code :=
  separable_groups_one (fun command => by cases command <;> decide) @LegCommand.code_injective

theorem single_separable : Separable fun single : StoredSingle => word single.word :=
  word_separable.comp @StoredSingle.word_injective

theorem words_eq (singles : Vector StoredSingle 4) :
    words singles = singles.toList.flatMap fun single => word single.word := by
  obtain ⟨⟨list⟩, size⟩ := singles
  match list, size with
  | [_, _, _, _], _ => simp [words]

theorem words_separable : Separable words := by
  intro first second front back same
  rw [words_eq, words_eq] at same
  obtain ⟨lists, rest⟩ := single_separable.list (by simp) same
  exact ⟨Vector.toList_inj.mp lists, rest⟩

theorem length_words (singles : Vector StoredSingle 4) : (words singles).length = 16 := rfl

end Wire

/-! ## Records -/

namespace Waypoint

theorem encode_separable : Wire.Separable encode := by
  intro first second front back same
  simp only [encode, List.append_assoc] at same
  obtain ⟨north, same⟩ := Wire.single_separable same
  obtain ⟨east, same⟩ := Wire.single_separable same
  obtain ⟨down, same⟩ := Wire.single_separable same
  obtain ⟨velocity, same⟩ := Wire.single_separable same
  obtain ⟨action, rest⟩ := Wire.index_separable same
  refine ⟨?_, rest⟩
  cases first
  cases second
  rw [Waypoint.mk.injEq]
  exact ⟨north, east, down, velocity, action⟩

theorem length_encode_le (waypoint : Waypoint) : waypoint.encode.length ≤ 19 := by
  have action : (Wire.index waypoint.action).length ≤ 3 := Wire.length_groups_le 3 _
  simp only [encode, List.length_append, Wire.length_word]
  omega

theorem encode_fits (waypoint : Waypoint) : waypoint.encode.length ≤ Wire.capacity :=
  Nat.le_trans waypoint.length_encode_le (by decide)

end Waypoint

namespace PathAction

theorem encode_separable : Wire.Separable encode := by
  intro first second front back same
  simp only [encode, List.append_assoc] at same
  obtain ⟨mode, same⟩ := Wire.mode_separable same
  obtain ⟨modeParameters, same⟩ := Wire.words_separable same
  obtain ⟨condition, same⟩ := Wire.condition_separable same
  obtain ⟨conditionParameters, same⟩ := Wire.words_separable same
  obtain ⟨command, same⟩ := Wire.command_separable same
  obtain ⟨jump, same⟩ := Wire.signed_separable same
  obtain ⟨errorJump, rest⟩ := Wire.signed_separable same
  refine ⟨?_, rest⟩
  cases first
  cases second
  rw [PathAction.mk.injEq]
  exact ⟨mode, modeParameters, condition, conditionParameters, command, jump, errorJump⟩

theorem length_encode_le (action : PathAction) : action.encode.length ≤ 41 := by
  have mode := Wire.length_groups_le 1 action.mode.code
  have condition := Wire.length_groups_le 1 action.condition.code
  have command := Wire.length_groups_le 1 action.command.code
  have jump : (Wire.signed action.jump).length ≤ 3 := Wire.length_groups_le 3 _
  have errorJump : (Wire.signed action.errorJump).length ≤ 3 := Wire.length_groups_le 3 _
  simp only [encode, List.length_append, Wire.length_words]
  omega

theorem encode_fits (action : PathAction) : action.encode.length ≤ Wire.capacity :=
  Nat.le_trans action.length_encode_le (by decide)

end PathAction

/-! ## Missions -/

namespace Mission

/-- The wire form of the first waypoints, followed by the first actions. -/
def encoded (mission : Mission) (waypointCount actionCount : UInt16) : List UInt8 :=
  (mission.waypoints.take waypointCount.toNat).flatMap Waypoint.encode ++
    (mission.actions.take actionCount.toNat).flatMap PathAction.encode

/-- The checksum is continued over records that fit. -/
theorem extendChecksum_eq (digest : UInt8) {records : List (List UInt8)}
    (fit : ∀ bytes ∈ records, bytes.length ≤ Wire.capacity) :
    extendChecksum digest records = .ok (Checksum.extend digest records.flatten) := by
  unfold extendChecksum
  induction records generalizing digest with
  | nil => rfl
  | cons bytes records inductionHypothesis =>
      obtain ⟨fits, rest⟩ := List.forall_mem_cons.mp fit
      rw [List.foldlM_cons, Wire.fit, if_pos fits, List.flatten_cons, Checksum.extend_append]
      exact inductionHypothesis _ rest

/-- **The checksum of a mission** is that of the declared bytes. -/
theorem checksum_eq (mission : Mission) (waypointCount actionCount : UInt16) :
    mission.checksum waypointCount actionCount =
      .ok (Checksum.ofBytes (mission.encoded waypointCount actionCount)) := by
  have fit : ∀ bytes ∈ (mission.waypoints.take waypointCount.toNat).map Waypoint.encode ++
      (mission.actions.take actionCount.toNat).map PathAction.encode,
      bytes.length ≤ Wire.capacity := by
    intro bytes member
    rcases List.mem_append.mp member with declared | declared
    · obtain ⟨waypoint, -, rfl⟩ := List.mem_map.mp declared
      exact waypoint.encode_fits
    · obtain ⟨action, -, rfl⟩ := List.mem_map.mp declared
      exact action.encode_fits
  rw [checksum, extendChecksum_eq 0 fit, List.flatten_append, encoded, List.flatMap, List.flatMap]
  rfl

/-- **What the checksum of a mission covers.** Every encoded record fits, and the checksum is that
of the declared bytes. If two missions have all of the declared records and the same bytes for
them, they have the same records, every word of a single included. -/
theorem checksum_covers :
    (∀ waypoint : Waypoint, waypoint.encode.length ≤ Wire.capacity) ∧
      (∀ action : PathAction, action.encode.length ≤ Wire.capacity) ∧
      (∀ (mission : Mission) (waypointCount actionCount : UInt16),
        mission.checksum waypointCount actionCount =
          .ok (Checksum.ofBytes (mission.encoded waypointCount actionCount))) ∧
      ∀ (first second : Mission) (waypointCount actionCount : UInt16),
        waypointCount.toNat ≤ first.waypoints.length →
        waypointCount.toNat ≤ second.waypoints.length →
        actionCount.toNat ≤ first.actions.length →
        actionCount.toNat ≤ second.actions.length →
        first.encoded waypointCount actionCount = second.encoded waypointCount actionCount →
          first.waypoints.take waypointCount.toNat = second.waypoints.take waypointCount.toNat ∧
            first.actions.take actionCount.toNat = second.actions.take actionCount.toNat := by
  refine ⟨Waypoint.encode_fits, PathAction.encode_fits, checksum_eq, ?_⟩
  intro first second waypointCount actionCount firstWaypoints secondWaypoints firstActions
    secondActions same
  have waypointLengths : (first.waypoints.take waypointCount.toNat).length =
      (second.waypoints.take waypointCount.toNat).length := by
    rw [List.length_take_of_le firstWaypoints, List.length_take_of_le secondWaypoints]
  have actionLengths : (first.actions.take actionCount.toNat).length =
      (second.actions.take actionCount.toNat).length := by
    rw [List.length_take_of_le firstActions, List.length_take_of_le secondActions]
  obtain ⟨waypoints, rest⟩ := Waypoint.encode_separable.list waypointLengths same
  -- Nothing follows the actions.
  rw [← List.append_nil (List.flatMap _ _),
    ← List.append_nil (List.flatMap _ (second.actions.take _))] at rest
  obtain ⟨actions, -⟩ := PathAction.encode_separable.list actionLengths rest
  exact ⟨waypoints, actions⟩

/-- Two missions that differ behind the first waypoint, of which the bytes are the same. -/
theorem covered_first_waypoint :
    let first : Mission := { waypoints := [{ action := 1 }, {}], actions := [{}, {}] }
    let second : Mission := { waypoints := [{ action := 1 }, { action := 1 }], actions := [{}, {}] }
    ((1 : UInt16).toNat ≤ first.waypoints.length ∧ (1 : UInt16).toNat ≤ second.waypoints.length ∧
        (2 : UInt16).toNat ≤ first.actions.length ∧ (2 : UInt16).toNat ≤ second.actions.length) ∧
      first.waypoints ≠ second.waypoints ∧ first.encoded 1 2 = second.encoded 1 2 ∧
      first.waypoints.take (1 : UInt16).toNat = second.waypoints.take (1 : UInt16).toNat ∧
      first.actions.take (2 : UInt16).toNat = second.actions.take (2 : UInt16).toNat := by
  intro first second
  have loaded : ((1 : UInt16).toNat ≤ first.waypoints.length ∧
      (1 : UInt16).toNat ≤ second.waypoints.length ∧
      (2 : UInt16).toNat ≤ first.actions.length ∧ (2 : UInt16).toNat ≤ second.actions.length) := by
    decide
  have same : first.encoded 1 2 = second.encoded 1 2 := by decide +kernel
  exact ⟨loaded, by decide, same, checksum_covers.2.2.2 first second 1 2 loaded.1 loaded.2.1
    loaded.2.2.1 loaded.2.2.2 same⟩

end Mission
end FlightGuidance
