import FlightGuidance.Telemetry.Value

/-!
# Decoding and writing

The form of a type says how its values are written at the boundary, and how one is
decoded on top of a value that is there already, as a patch. A patch of a record names
the parts that change, and a patch of a part is a patch of its form in turn; the parts
that are not named stay as they are. A list of fixed length is patched element by
element, by a list of that length or by index. A name that is not a part of the record,
and a list of another length, are refused.
-/

set_option autoImplicit false

namespace FlightGuidance
namespace Telemetry

class Form (α : Type) where
  write : α → Value
  patch : α → Value → Received α

namespace Form

/-- The form of a type whose values are replaced as a whole. -/
@[reducible] def atom {α : Type} (write : α → Value) (read : Value → Received α) : Form α :=
  ⟨write, fun _ value => read value⟩

/-- Decode a value on top of the default one. -/
def read {α : Type} [Form α] [Inhabited α] (value : Value) : Received α := patch default value

/-- Decode a part of a value, and keep what is there if it is missing. -/
def readPart {α : Type} [Form α] (value : Value) (name : String) (present : α) : Received α :=
  match value.part? name with
  | some part => patch present part
  | none => .ok present

/-- Decode a part of a value that must be there. -/
def require {α : Type} [Form α] [Inhabited α] (value : Value) (name : String) : Received α := do
  read (← value.part name)

/-! ## Numbers, flags and names -/

instance : Form Float32 := atom .ofSingle fun value => value.asWord.map Float32.ofBits

instance : Form Bool :=
  atom .flag fun
    | .flag value => .ok value
    | _ => .error .malformed

/-- The form of unsigned words, of which there are `size`. -/
@[reducible] def unsigned {α : Type} (size : Nat) (toNat : α → Nat) (ofNat : Nat → α) : Form α :=
  atom (fun value => .ofNat (toNat value)) fun value => (value.asNatural size).map ofNat

/-- The form of signed words between two ends. -/
@[reducible] def signed {α : Type} (toInt : α → Int) (ofInt : Int → α) (least greatest : α) :
    Form α :=
  atom (fun value => .ofInt (toInt value)) fun value =>
    (value.asInteger (toInt least) (toInt greatest)).map ofInt

instance : Form UInt8 := unsigned UInt8.size UInt8.toNat UInt8.ofNat
instance : Form UInt16 := unsigned UInt16.size UInt16.toNat UInt16.ofNat
instance : Form UInt32 := unsigned UInt32.size UInt32.toNat UInt32.ofNat
instance : Form UInt64 := unsigned UInt64.size UInt64.toNat UInt64.ofNat
instance : Form Int8 := signed Int8.toInt Int8.ofInt Int8.minValue Int8.maxValue
instance : Form Int16 := signed Int16.toInt Int16.ofInt Int16.minValue Int16.maxValue
instance : Form Int32 := signed Int32.toInt Int32.ofInt Int32.minValue Int32.maxValue

/-- The form of an enumeration by the names of its values. -/
@[reducible] def names {α : Type} [BEq α] (entries : List (α × String)) : Form α :=
  atom (fun value => .text ((entries.lookup value).getD ""))
    fun value => do
      let name ← value.asText
      Received.ofOption ((entries.find? fun entry => entry.2 == name).map (·.1))

/-- The form of an enumeration whose names are labels. -/
@[reducible] def labels {α : Type} [BEq α] (label : α → String) (values : List α) : Form α :=
  names (values.map fun value => (value, label value))

/-! ## Options and lists of fixed length -/

instance {α : Type} [Form α] [Inhabited α] : Form (Option α) :=
  atom
    (fun
      | some value => write value
      | none => .null)
    fun
      | .null => .ok none
      | value => (read value).map some

/-- The index that a name in a patch by index stands for. -/
def index (name : String) : Received Nat :=
  if name.isEmpty || !name.all Char.isDigit then .error .malformed
  else Received.ofOption name.toNat?

/-- Patch one element. -/
def patchElement {α : Type} {n : Nat} [Form α] (elements : Vector α n) (index : Nat)
    (value : Value) : Received (Vector α n) :=
  if inside : index < n then do
    pure (elements.set index (← patch elements[index] value))
  else .error .malformed

instance {α : Type} {n : Nat} [Form α] : Form (Vector α n) where
  write elements := .list (elements.toList.map write)
  patch elements
    | .list items =>
      if items.length = n then
        items.zipIdx.foldlM (fun elements (item, index) => patchElement elements index item)
          elements
      else .error .malformed
    | .parts entries =>
      entries.foldlM
        (fun elements (name, item) => do patchElement elements (← index name) item) elements
    | _ => .error .malformed

/-! ## Records -/

/-- A part of a record, with its name. -/
structure Part (α : Type) where
  name : String
  write : α → Value
  patch : α → Value → Received α

/-- The part that is read and replaced by two functions. -/
def field {α β : Type} [Form β] (name : String) (get : α → β) (set : α → β → α) : Part α :=
  ⟨name, fun whole => Form.write (get whole),
    fun whole value => do pure (set whole (← Form.patch (get whole) value))⟩

/-- Patch the parts that a value names. -/
def patchParts {α : Type} (parts : List (Part α)) (whole : α) (value : Value) : Received α := do
  (← value.asParts).foldlM
    (fun whole (name, item) => do
      (← Received.ofOption (parts.find? fun part => part.name == name)).patch whole item)
    whole

/-- The form of a record with the given parts. -/
@[reducible] def ofParts {α : Type} (parts : List (Part α)) : Form α where
  write whole := .parts (parts.map fun part => (part.name, part.write whole))
  patch := patchParts parts

/-- The form of three components, written as a list, and patched by such a list or
by their names. -/
@[reducible] def ofTriple {α β : Type} [Form β] (north east down : α → β)
    (make : β → β → β → α) : Form α where
  write triple :=
    .list [Form.write (north triple), Form.write (east triple), Form.write (down triple)]
  patch triple
    | .list [first, second, third] => do
      pure (make (← Form.patch (north triple) first) (← Form.patch (east triple) second)
        (← Form.patch (down triple) third))
    | value@(.parts _) =>
      patchParts
        [field "north" north fun triple part => make part (east triple) (down triple),
          field "east" east fun triple part => make (north triple) part (down triple),
          field "down" down fun triple part => make (north triple) (east triple) part]
        triple value
    | _ => .error .malformed

end Form
end Telemetry
end FlightGuidance
