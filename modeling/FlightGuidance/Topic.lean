/-!
# Topics

A topic holds one record. It is always read and written as a whole, and every
write is counted, also one that leaves the record as it was, so that a reader
can tell that a record has been published again. The count wraps around at the
end of its word.
-/

set_option autoImplicit false

namespace FlightGuidance

structure Topic (α : Type) where
  value : α
  /-- The number of writes. -/
  revision : UInt64 := 0

namespace Topic

variable {α : Type}

/-- Replace the record. -/
def publish (topic : Topic α) (value : α) : Topic α := ⟨value, topic.revision + 1⟩

/-- Replace the record by one made of it. -/
def modify (topic : Topic α) (change : α → α) : Topic α :=
  ⟨change topic.value, topic.revision + 1⟩

/-- Whether the topic holds a record equal to the given one. -/
def holds [BEq α] (topic : Topic α) (value : α) : Bool := topic.value == value

@[simp] theorem value_publish (topic : Topic α) (value : α) :
    (topic.publish value).value = value := rfl

@[simp] theorem revision_publish (topic : Topic α) (value : α) :
    (topic.publish value).revision = topic.revision + 1 := rfl

@[simp] theorem value_modify (topic : Topic α) (change : α → α) :
    (topic.modify change).value = change topic.value := rfl

@[simp] theorem revision_modify (topic : Topic α) (change : α → α) :
    (topic.modify change).revision = topic.revision + 1 := rfl

/-- A published record is a new one. -/
theorem publish_ne (topic : Topic α) (value : α) : topic.publish value ≠ topic := by
  intro same
  have revision : topic.revision + 1 = topic.revision := congrArg Topic.revision same
  simp at revision

end Topic
end FlightGuidance
