import FlightGuidance.Proofs.Settings.Sharing

/-!
# The record that a rejection restores

A guard that rejects a record puts its own last record back, which is the one that it has accepted
last (`lastValid_run`). Another guard may have accepted a newer one in the meantime. So a rejection
restores the record that was accepted most recently exactly if the guard that rejects has accepted
it, or already had an equal one; it is enough that this guard has checked before anything else was
published (`restored_iff`). Otherwise it takes the update back (`update_undone`).
-/

set_option autoImplicit false

namespace FlightGuidance

open Settings (Passes Agree)

/-- The guards that check before a record is published. -/
def GuardedTopic.Event.promptChecks {ι α : Type} : List (Event ι α) → List ι
  | .check guard :: events => guard :: promptChecks events
  | _ => []

theorem GuardedTopic.Event.promptChecks_prefix {ι α : Type} (events : List (Event ι α)) :
    ∃ later, events = (promptChecks events).map .check ++ later := by
  induction events with
  | nil => exact ⟨[], rfl⟩
  | cons event events inductionHypothesis =>
      cases event with
      | publish record => exact ⟨_, rfl⟩
      | check guard =>
          obtain ⟨later, split⟩ := inductionHypothesis
          exact ⟨later, congrArg (.check guard :: ·) split⟩

/-- A check changes the record of its guard only by accepting the one in the topic. -/
theorem SettingsGuard.check_lastValid {α : Type} [BEq α] [Settings α] (guard : SettingsGuard α)
    (topic : Topic α) :
    (guard.check topic).2.1.lastValid =
      if (guard.check topic).1 = .accepted then topic.value else guard.lastValid := by
  obtain ⟨-, same⟩ | ⟨-, same⟩ | ⟨-, same⟩ | ⟨cause, -, -, -, same⟩ := guard.check_cases topic
  · rw [same]
    rfl
  · rw [same]
    rfl
  · rw [same]
    rfl
  · rw [same]
    rfl

namespace GuardedTopic

variable {ι α : Type} [DecidableEq ι] [BEq α] [Settings α]

/-! ## What a guard has accepted -/

/-- The records that a guard accepts in a run, in order. -/
def accepted (shared : GuardedTopic ι α) (guard : ι) : List (Event ι α) → List α
  | [] => []
  | .publish record :: events => (shared.next (.publish record)).accepted guard events
  | .check other :: events =>
    (if other = guard ∧ shared.answer other = .accepted then [shared.topic.value] else []) ++
      (shared.next (.check other)).accepted guard events

theorem next_check_lastValid (shared : GuardedTopic ι α) (other guard : ι) :
    ((shared.next (.check other)).guards guard).lastValid =
      if other = guard ∧ shared.answer other = .accepted then shared.topic.value
      else (shared.guards guard).lastValid := by
  by_cases self : other = guard
  · subst self
    simp only [next_check_guard, SettingsGuard.check_lastValid, answer, true_and]
  · rw [next_check_other _ _ (Ne.symm self), if_neg fun both => self both.1]

/-- **A guard remembers what it has accepted last.** -/
theorem lastValid_run (shared : GuardedTopic ι α) (guard : ι) (events : List (Event ι α)) :
    ((shared.run events).guards guard).lastValid =
      (shared.accepted guard events).getLast?.getD (shared.guards guard).lastValid := by
  induction events generalizing shared with
  | nil => rfl
  | cons event events inductionHypothesis =>
      cases event with
      | publish record => exact inductionHypothesis (shared.next (.publish record))
      | check other =>
          have rest := inductionHypothesis (shared.next (.check other))
          change ((shared.run (.check other :: events)).guards guard).lastValid = _ at rest
          rw [rest, accepted, next_check_lastValid]
          by_cases accepts : other = guard ∧ shared.answer other = .accepted
          · rw [if_pos accepts, if_pos accepts, List.singleton_append, List.getLast?_cons,
              Option.getD_some]
          · rw [if_neg accepts, if_neg accepts, List.nil_append]

/-- Where nobody accepts, no guard accepts. -/
theorem accepted_eq_nil {shared : GuardedTopic ι α} {events : List (Event ι α)}
    (none : SettingsUpdate.accepted ∉ shared.answers events) (guard : ι) :
    shared.accepted guard events = [] := by
  induction events generalizing shared with
  | nil => rfl
  | cons event events inductionHypothesis =>
      cases event with
      | publish record => exact inductionHypothesis none
      | check other =>
          obtain ⟨differs, rest⟩ := List.ne_and_not_mem_of_not_mem_cons none
          rw [accepted, if_neg fun both => differs both.2.symm, List.nil_append]
          exact inductionHypothesis rest

/-- The record that a rejection puts back is the one of the guard that rejects. -/
theorem restored_of_rejected {shared : GuardedTopic ι α} {guard : ι} {cause : SettingsError}
    (rejects : shared.answer guard = .rejected cause) :
    (shared.next (.check guard)).topic.value = (shared.guards guard).lastValid := by
  rw [next_check_topic, rejects]
  rfl

/-! ## What a rejection restores -/

section Rejection

variable {shared : GuardedTopic ι α} {taker guard : ι} {events : List (Event ι α)}
  (accepts : shared.answer taker = .accepted)
  (newest : SettingsUpdate.accepted ∉ (shared.next (.check taker)).answers events)

include accepts newest

/-- After the last acceptance, the guard that has made it remembers this record, and every other
guard the one that it has had before. -/
theorem lastValid_of_newest (guard : ι) :
    (((shared.next (.check taker)).run events).guards guard).lastValid =
      if guard = taker then shared.topic.value else (shared.guards guard).lastValid := by
  rw [lastValid_run, accepted_eq_nil newest, List.getLast?_nil, Option.getD_none,
    next_check_lastValid]
  simp only [accepts, and_true, eq_comm]

/-- A guard that checks the accepted record before anything else is published remembers it. -/
theorem agree_of_promptCheck [LawfulSettings α] {count : Nat} (coherent : shared.Coherent count)
    (few : count < UInt64.size) (prompt : guard ∈ Event.promptChecks events) :
    Agree shared.topic.value
      (((shared.next (.check taker)).run events).guards guard).lastValid := by
  have kept : (shared.answer taker).isRejection = false := by rw [accepts]; rfl
  have unwritten : (shared.next (.check taker)).topic = shared.topic := by
    rw [next_check_topic, kept]
    rfl
  have checked := coherent.check taker (by rw [kept]; exact few)
  have settles := coherent.settled taker
  obtain ⟨later, split⟩ := Event.promptChecks_prefix events
  have early : SettingsUpdate.accepted ∉
      (shared.next (.check taker)).answers ((Event.promptChecks events).map .check) := by
    rw [split, answers_append] at newest
    exact fun member => newest (List.mem_append_left _ member)
  obtain ⟨-, -, settle⟩ := run_checks_of_passes settles.sound rfl checked.fits
    (Event.promptChecks events)
  have agree := (settle guard (.inl prompt)).agree
  rw [unwritten, lastValid_of_newest accepts early] at agree
  rw [lastValid_of_newest accepts newest]
  exact agree

end Rejection

/-- **Which record a rejection restores.** Let a guard reject a record, and look back to the last
time at which any guard has accepted one. If this was the same guard, it restores that record; if
not, its own last one. So the most recent update survives exactly if the guard that rejects has
accepted it or already had an equal record, and in any case if this guard has checked before
anything else was published. -/
theorem restored_iff [LawfulSettings α] (record : α) (initial : ι → α)
    (before after : List (Event ι α)) (taker guard : ι) (cause : SettingsError)
    (accepts : ((start record initial).run before).answer taker = .accepted)
    (newest : SettingsUpdate.accepted ∉
      (((start record initial).run before).next (.check taker)).answers after)
    (rejects : ((start record initial).run (before ++ .check taker :: after)).answer guard =
      .rejected cause) :
    let update := ((start record initial).run before).topic.value
    let own := ((start record initial).accepted guard before).getLast?.getD (initial guard)
    let restored := (((start record initial).run (before ++ .check taker :: after)).next
      (.check guard)).topic.value
    restored = (if guard = taker then update else own) ∧
      (Agree update restored ↔ guard = taker ∨ Agree update own) ∧
      ((∀ guard, Passes (initial guard)) → (start record initial).writes before < UInt64.size →
        guard ∈ Event.promptChecks after → Agree update restored) := by
  intro update own restored
  have remembered : restored = if guard = taker then update else own := by
    rw [show restored = _ from restored_of_rejected rejects, run_append]
    rw [show own = _ from (lastValid_run (start record initial) guard before).symm]
    exact lastValid_of_newest accepts newest guard
  refine ⟨remembered, ?_, fun sane few prompt => ?_⟩
  · rw [remembered]
    by_cases same : guard = taker
    · rw [if_pos same]
      exact ⟨fun _ => .inl same, fun _ => .inl rfl⟩
    · rw [if_neg same]
      exact ⟨.inr, fun kept => kept.resolve_left same⟩
  · rw [show restored = _ from restored_of_rejected rejects, run_append]
    have coherent := (coherent_start record sane).run before (by omega)
    exact agree_of_promptCheck accepts newest coherent (by omega) prompt

/-- Both guards have checked an update before an invalid record is published, and it is restored. -/
theorem update_kept :
    let update : ModeSettings := { landingVelocity := 1.2 }
    let insane : ModeSettings := { holdOffset := ⟨0, 4⟩ }
    let started : GuardedTopic Bool ModeSettings := start {} fun _ => {}
    let before : List (Event Bool ModeSettings) := [.publish update, .check false]
    let shared := started.run (before ++ .check true :: [.publish insane])
    (started.run before).answer true = .accepted ∧
      SettingsUpdate.accepted ∉
        ((started.run before).next (.check true)).answers [.publish insane] ∧
      shared.answer false = .rejected .holdOffset ∧
      Agree (started.run before).topic.value (shared.next (.check false)).topic.value := by
  intro update insane started before shared
  have accepts : (started.run before).answer true = .accepted := by decide +kernel
  have newest : SettingsUpdate.accepted ∉
      ((started.run before).next (.check true)).answers [.publish insane] := by decide +kernel
  have rejects : shared.answer false = .rejected .holdOffset := by decide +kernel
  have own : Agree (started.run before).topic.value
      ((started.accepted false before).getLast?.getD {}) := .inr (by decide +kernel)
  have restored := restored_iff ({} : ModeSettings) (fun _ : Bool => {}) before
    [.publish insane] true false .holdOffset accepts newest rejects
  refine ⟨accepts, newest, rejects, ?_⟩
  dsimp only [started, shared]
  exact restored.2.1.mpr (.inr own)

/-- One guard has accepted an update that the other one has not seen yet when an invalid record is
published. The rejection takes the update back, and the first guard accepts this as a new record. -/
theorem update_undone :
    let update : ModeSettings := { landingVelocity := 1.2 }
    let insane : ModeSettings := { holdOffset := ⟨0, 4⟩ }
    let started : GuardedTopic Bool ModeSettings := start {} fun _ => {}
    let shared := started.run [.publish update, .check false, .publish insane]
    let restored := shared.next (.check true)
    (∀ guard, Passes (started.guards guard).lastValid) ∧
      (started.run [.publish update]).answer false = .accepted ∧
      shared.answer true = .rejected .holdOffset ∧
      ¬Agree update restored.topic.value ∧ restored.answer false = .accepted := by
  intro update insane started shared restored
  have differs : (update == restored.topic.value) = false := by decide +kernel
  have itself : (update == update) = true := by decide +kernel
  refine ⟨by decide +kernel, by decide +kernel, by decide +kernel, ?_, by decide +kernel⟩
  rintro (same | equal)
  · rw [← same, itself] at differs
    cases differs
  · rw [equal] at differs
    cases differs

end GuardedTopic
end FlightGuidance
