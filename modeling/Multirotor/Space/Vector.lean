import Multirotor.Scalar

/-!
# Vectors and matrices

Vectors of the plane and of space with their componentwise operations, and three by three matrices by
rows.  Sums run in the order of the components.  The ground frame has its axes north, east and down;
the body frame has them forward, right and down.
-/

namespace Multirotor

/-- A vector of the horizontal plane. -/
structure Vec2 (α : Type) where
  x : α
  y : α
  deriving DecidableEq, Repr

/-- A vector of space, or one value for each of its axes. -/
structure Vec3 (α : Type) where
  x : α
  y : α
  z : α
  deriving DecidableEq, Repr

namespace Vec2

variable {α : Type} [Scalar α]

instance : Sub (Vec2 α) := ⟨fun v w => ⟨v.x - w.x, v.y - w.y⟩⟩

instance : HMul (Vec2 α) α (Vec2 α) := ⟨fun v s => ⟨v.x * s, v.y * s⟩⟩

/-- The length. -/
def norm (v : Vec2 α) : α := Scalar.sqrt (v.x * v.x + v.y * v.y)

end Vec2

namespace Vec3

section Components

variable {α β γ : Type}

/-- A value applied to every component. -/
def map (f : α → β) (v : Vec3 α) : Vec3 β := ⟨f v.x, f v.y, f v.z⟩

/-- The components of two vectors combined. -/
def zipWith (f : α → β → γ) (v : Vec3 α) (w : Vec3 β) : Vec3 γ := ⟨f v.x w.x, f v.y w.y, f v.z w.z⟩

/-- The same value on every axis. -/
def all (a : α) : Vec3 α := ⟨a, a, a⟩

/-- The components in order. -/
def toList (v : Vec3 α) : List α := [v.x, v.y, v.z]

end Components

variable {α : Type} [Scalar α]

instance : Zero (Vec3 α) := ⟨all 0⟩

instance : Neg (Vec3 α) := ⟨map (-·)⟩

instance : Add (Vec3 α) := ⟨zipWith (· + ·)⟩

instance : Sub (Vec3 α) := ⟨zipWith (· - ·)⟩

instance : HMul (Vec3 α) α (Vec3 α) := ⟨fun v s => v.map (· * s)⟩

instance : HDiv (Vec3 α) α (Vec3 α) := ⟨fun v s => v.map (· / s)⟩

/-- A vector along the third axis. -/
def vertical (z : α) : Vec3 α := ⟨0, 0, z⟩

/-- The componentwise product. -/
def mul (v w : Vec3 α) : Vec3 α := zipWith (· * ·) v w

/-- The componentwise quotient. -/
def div (v w : Vec3 α) : Vec3 α := zipWith (· / ·) v w

/-- The inner product. -/
def dot (v w : Vec3 α) : α := v.x * w.x + v.y * w.y + v.z * w.z

/-- The cross product. -/
def cross (v w : Vec3 α) : Vec3 α :=
  ⟨v.y * w.z - v.z * w.y, v.z * w.x - v.x * w.z, v.x * w.y - v.y * w.x⟩

/-- The length. -/
def norm (v : Vec3 α) : α := Scalar.sqrt (v.dot v)

/-- The unit vector of the same direction, unless the length is at most `least`. -/
def normalize? (v : Vec3 α) (least : α) : Option (Vec3 α) :=
  let n := v.norm
  if n ≤ least then none else some (v / n)

/-- The horizontal part. -/
def horizontal (v : Vec3 α) : Vec2 α := ⟨v.x, v.y⟩

end Vec3

/-! ## Matrices

A matrix times a vector adds the columns in their order, so every component is the inner product with
a row. -/

/-- A three by three matrix by its rows. -/
structure Mat3 (α : Type) where
  r1 : Vec3 α
  r2 : Vec3 α
  r3 : Vec3 α
  deriving DecidableEq, Repr

namespace Mat3

variable {α : Type}

/-- The matrix with rows and columns exchanged. -/
def transpose (m : Mat3 α) : Mat3 α :=
  ⟨⟨m.r1.x, m.r2.x, m.r3.x⟩, ⟨m.r1.y, m.r2.y, m.r3.y⟩, ⟨m.r1.z, m.r2.z, m.r3.z⟩⟩

variable [Scalar α]

/-- The diagonal matrix. -/
def diagonal (v : Vec3 α) : Mat3 α := ⟨⟨v.x, 0, 0⟩, ⟨0, v.y, 0⟩, ⟨0, 0, v.z⟩⟩

/-- The image of a vector. -/
def apply (m : Mat3 α) (v : Vec3 α) : Vec3 α := ⟨m.r1.dot v, m.r2.dot v, m.r3.dot v⟩

/-- The product of two matrices. -/
def mul (m n : Mat3 α) : Mat3 α :=
  let columns := n.transpose
  ⟨columns.apply m.r1, columns.apply m.r2, columns.apply m.r3⟩

instance : Mul (Mat3 α) := ⟨mul⟩

end Mat3

end Multirotor
