/-!
# Vectors in the local frame

Positions, velocities and directions are triples of singles along the north,
east and down axes of the local frame. All operations act on the components,
and a norm adds the squares from north to down before one square root.
-/

set_option autoImplicit false

namespace FlightGuidance

/-- A position in meters, a velocity in meters per second, or a direction. -/
structure Ned where
  north : Float32 := 0
  east : Float32 := 0
  down : Float32 := 0

namespace Ned

instance : Inhabited Ned := ⟨{}⟩

instance : Add Ned := ⟨fun a b => ⟨a.north + b.north, a.east + b.east, a.down + b.down⟩⟩

instance : Sub Ned := ⟨fun a b => ⟨a.north - b.north, a.east - b.east, a.down - b.down⟩⟩

/-- Every component times a number. -/
def scale (a : Ned) (factor : Float32) : Ned :=
  ⟨a.north * factor, a.east * factor, a.down * factor⟩

/-- Every component divided by a number. -/
def divide (a : Ned) (divisor : Float32) : Ned :=
  ⟨a.north / divisor, a.east / divisor, a.down / divisor⟩

/-- The inner product. -/
def dot (a b : Ned) : Float32 := a.north * b.north + a.east * b.east + a.down * b.down

/-- The Euclidean norm. -/
def norm (a : Ned) : Float32 := (a.dot a).sqrt

/-- The Euclidean norm of the north and east components. -/
def horizontalNorm (a : Ned) : Float32 := (a.north * a.north + a.east * a.east).sqrt

/-- The same point, displaced to the north. -/
def offsetNorth (a : Ned) (offset : Float32) : Ned := { a with north := a.north + offset }

end Ned
end FlightGuidance
