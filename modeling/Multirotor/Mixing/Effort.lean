import Multirotor.Scalar

/-!
# Efforts

Four-component vectors along the controlled axes (thrust, roll, pitch and yaw) and the four by four
matrices on them.  `EffortMatrix.adjugate` and `EffortMatrix.determinant` are the expansions by
minors.
-/

namespace Multirotor

/-- One value for each controlled axis. -/
structure Effort (α : Type) where
  thrust : α
  roll : α
  pitch : α
  yaw : α
  deriving DecidableEq, Repr

/-- A four by four matrix by its rows. -/
structure EffortMatrix (α : Type) where
  r1 : Effort α
  r2 : Effort α
  r3 : Effort α
  r4 : Effort α
  deriving DecidableEq, Repr

namespace Effort

variable {α β γ : Type}

/-- A value applied to every component. -/
def map (f : α → β) (u : Effort α) : Effort β := ⟨f u.thrust, f u.roll, f u.pitch, f u.yaw⟩

/-- The components of two efforts combined. -/
def zipWith (f : α → β → γ) (u : Effort α) (v : Effort β) : Effort γ :=
  ⟨f u.thrust v.thrust, f u.roll v.roll, f u.pitch v.pitch, f u.yaw v.yaw⟩

/-- The same value along every axis. -/
def all (a : α) : Effort α := ⟨a, a, a, a⟩

/-- The components in order. -/
def toList (u : Effort α) : List α := [u.thrust, u.roll, u.pitch, u.yaw]

variable [Scalar α]

/-- The inner product. -/
def dot (u v : Effort α) : α :=
  u.thrust * v.thrust + u.roll * v.roll + u.pitch * v.pitch + u.yaw * v.yaw

end Effort

namespace EffortMatrix

variable {α : Type}

/-- The matrix with rows and columns exchanged. -/
def transpose (m : EffortMatrix α) : EffortMatrix α :=
  ⟨⟨m.r1.thrust, m.r2.thrust, m.r3.thrust, m.r4.thrust⟩,
   ⟨m.r1.roll, m.r2.roll, m.r3.roll, m.r4.roll⟩,
   ⟨m.r1.pitch, m.r2.pitch, m.r3.pitch, m.r4.pitch⟩,
   ⟨m.r1.yaw, m.r2.yaw, m.r3.yaw, m.r4.yaw⟩⟩

variable [Scalar α]

/-- The matrix of zeros. -/
def zero : EffortMatrix α := ⟨.all 0, .all 0, .all 0, .all 0⟩

/-- The diagonal matrix. -/
def diagonal (u : Effort α) : EffortMatrix α :=
  ⟨⟨u.thrust, 0, 0, 0⟩, ⟨0, u.roll, 0, 0⟩, ⟨0, 0, u.pitch, 0⟩, ⟨0, 0, 0, u.yaw⟩⟩

/-- The row vector `u` times the matrix. -/
def rowTimes (m : EffortMatrix α) (u : Effort α) : Effort α :=
  let columns := m.transpose
  ⟨u.dot columns.r1, u.dot columns.r2, u.dot columns.r3, u.dot columns.r4⟩

/-- The matrix with the products of the components of `u` added. -/
def addSquare (m : EffortMatrix α) (u : Effort α) : EffortMatrix α :=
  let row (r : Effort α) (s : α) : Effort α := r.zipWith (fun a b => a + s * b) u
  ⟨row m.r1 u.thrust, row m.r2 u.roll, row m.r3 u.pitch, row m.r4 u.yaw⟩

/-- The determinant of the three by three matrix with the rows `u`, `v` and `w`. -/
def minor (u v w : α × α × α) : α :=
  let (u1, u2, u3) := u
  let (v1, v2, v3) := v
  let (w1, w2, w3) := w
  u1 * v2 * w3 - u1 * w2 * v3 - u2 * v1 * w3 + u2 * w1 * v3 + u3 * v1 * w2 - u3 * w1 * v2

/-- The cofactors of the three rows `a`, `b` and `c`, one for each column, the first with a positive
sign. -/
def cofactors (a b c : Effort α) : Effort α :=
  let skip1 (u : Effort α) : α × α × α := (u.roll, u.pitch, u.yaw)
  let skip2 (u : Effort α) : α × α × α := (u.thrust, u.pitch, u.yaw)
  let skip3 (u : Effort α) : α × α × α := (u.thrust, u.roll, u.yaw)
  let skip4 (u : Effort α) : α × α × α := (u.thrust, u.roll, u.pitch)
  { thrust := minor (skip1 a) (skip1 b) (skip1 c)
    roll := -minor (skip2 a) (skip2 b) (skip2 c)
    pitch := minor (skip3 a) (skip3 b) (skip3 c)
    yaw := -minor (skip4 a) (skip4 b) (skip4 c) }

/-- The transposed matrix of cofactors. -/
def adjugate (m : EffortMatrix α) : EffortMatrix α :=
  transpose
    ⟨cofactors m.r2 m.r3 m.r4, (cofactors m.r1 m.r3 m.r4).map (-·), cofactors m.r1 m.r2 m.r4,
      (cofactors m.r1 m.r2 m.r3).map (-·)⟩

/-- The determinant, expanded along the first column. -/
def determinant (m : EffortMatrix α) : α := m.transpose.r1.dot m.adjugate.r1

/-- The inverse, unless the determinant is zero. -/
def inverse? (m : EffortMatrix α) : Option (EffortMatrix α) :=
  let d := m.determinant
  if d == 0 then none
  else
    let scale (u : Effort α) : Effort α := u.map (· * (1 / d))
    let a := m.adjugate
    some ⟨scale a.r1, scale a.r2, scale a.r3, scale a.r4⟩

end EffortMatrix

end Multirotor
