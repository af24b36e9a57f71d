import Multirotor.Space.Euler

/-!
# Attitudes

The attitude of a body is kept either as Euler angles or as a unit quaternion.  Both can be asked for
their angles, their quaternion and the rotation to the ground frame; `Attitude.advance` moves them
under an angular velocity.  Euler angles hold still where their derivatives do not exist.
-/

namespace Multirotor

/-! ## Quaternions

`Quaternion.rotation` does not normalize; `Quaternion.euler` reads the angles off that matrix, with the
yaw taken as zero straight up and straight down. -/

/-- A quaternion with imaginary part `i`, `j`, `k` and real part `w`. -/
structure Quaternion (α : Type) where
  i : α
  j : α
  k : α
  w : α
  deriving DecidableEq, Repr

namespace Quaternion

variable {α : Type} [Scalar α]

open Scalar

instance : Add (Quaternion α) := ⟨fun p q => ⟨p.i + q.i, p.j + q.j, p.k + q.k, p.w + q.w⟩⟩

instance : HMul (Quaternion α) α (Quaternion α) :=
  ⟨fun q s => ⟨q.i * s, q.j * s, q.k * s, q.w * s⟩⟩

/-- The product. -/
def mul (p q : Quaternion α) : Quaternion α :=
  { w := p.w * q.w - p.i * q.i - p.j * q.j - p.k * q.k
    i := p.w * q.i + p.i * q.w + p.j * q.k - p.k * q.j
    j := p.w * q.j - p.i * q.k + p.j * q.w + p.k * q.i
    k := p.w * q.k + p.i * q.j - p.j * q.i + p.k * q.w }

instance : Mul (Quaternion α) := ⟨mul⟩

/-- A vector as a quaternion without real part. -/
def ofVec3 (v : Vec3 α) : Quaternion α := ⟨v.x, v.y, v.z, 0⟩

/-- The length.  The squares are added in pairs. -/
def norm (q : Quaternion α) : α := sqrt ((q.i * q.i + q.k * q.k) + (q.j * q.j + q.w * q.w))

/-- The quaternion divided by its length. -/
def normalize (q : Quaternion α) : Quaternion α :=
  let n := q.norm
  ⟨q.i / n, q.j / n, q.k / n, q.w / n⟩

/-- The attitude with the given angles. -/
def ofEuler (e : Euler α) : Quaternion α :=
  let sr := sin (e.roll * 0.5)
  let cr := cos (e.roll * 0.5)
  let sp := sin (e.pitch * 0.5)
  let cp := cos (e.pitch * 0.5)
  let sy := sin (e.yaw * 0.5)
  let cy := cos (e.yaw * 0.5)
  { w := cr * cp * cy + sr * sp * sy
    i := sr * cp * cy - cr * sp * sy
    j := cr * sp * cy + sr * cp * sy
    k := cr * cp * sy - sr * sp * cy }

/-- The matrix of the quaternion, a rotation when it is unit. -/
def rotation (q : Quaternion α) : Mat3 α :=
  let ww := q.w * q.w
  let ii := q.i * q.i
  let jj := q.j * q.j
  let kk := q.k * q.k
  let ij := q.i * q.j * 2.0
  let wk := q.w * q.k * 2.0
  let wj := q.w * q.j * 2.0
  let ik := q.i * q.k * 2.0
  let jk := q.j * q.k * 2.0
  let wi := q.w * q.i * 2.0
  ⟨⟨ww + ii - jj - kk, ij - wk, wj + ik⟩,
   ⟨wk + ij, ww - ii + jj - kk, jk - wi⟩,
   ⟨ik - wj, wi + jk, ww - ii - jj + kk⟩⟩

/-- The angles of the attitude.  With the nose straight up or down only the sum or the difference of
roll and yaw is determined, and the yaw is zero. -/
def euler (q : Quaternion α) : Euler α :=
  let m := q.rotation
  let down := m.r3.x
  if abs down < 1 then
    let pitch := -asin down
    let c := cos pitch
    { roll := atan2 (m.r3.y / c) (m.r3.z / c), pitch := pitch, yaw := atan2 (m.r2.x / c) (m.r1.x / c) }
  else if down ≤ -1 then { roll := atan2 m.r1.y m.r1.z, pitch := pi / 2.0, yaw := 0 }
  else { roll := -atan2 m.r1.y (-m.r1.z), pitch := -(pi / 2.0), yaw := 0 }

/-- The derivative of the attitude under the angular velocity `v` of the body frame. -/
def rateOfTurn (q : Quaternion α) (v : Vec3 α) : Quaternion α := q * ofVec3 v * (0.5 : α)

/-- One step of length `dt` under the angular velocity `v`, back on the unit sphere. -/
def advance (q : Quaternion α) (v : Vec3 α) (dt : α) : Quaternion α :=
  (q + q.rateOfTurn v * dt).normalize

end Quaternion

/-! ## Representations -/

/-- The representation that is integrated. -/
inductive AttitudeKind where
  | euler
  | quaternion
  deriving DecidableEq, Repr

/-- An attitude in one of the representations. -/
inductive Attitude (α : Type) where
  | euler (e : Euler α)
  | quaternion (q : Quaternion α)
  deriving DecidableEq, Repr

namespace Attitude

variable {α : Type} [Scalar α]

/-- The representation in use. -/
def kind : Attitude α → AttitudeKind
  | euler _ => .euler
  | quaternion _ => .quaternion

/-- The attitude with the given angles. -/
def ofAngles (kind : AttitudeKind) (e : Euler α) : Attitude α :=
  match kind with
  | .euler => euler e
  | .quaternion => quaternion (.ofEuler e)

/-- Roll, pitch and yaw. -/
def angles : Attitude α → Euler α
  | euler e => e
  | quaternion q => q.euler

/-- The unit quaternion. -/
def toQuaternion : Attitude α → Quaternion α
  | euler e => .ofEuler e
  | quaternion q => q

/-- The rotation from the body frame to the ground frame. -/
def rotation : Attitude α → Mat3 α
  | euler e => e.rotation
  | quaternion q => q.rotation

/-- The attitude with the given angles in the same representation. -/
def setAngles (a : Attitude α) (e : Euler α) : Attitude α := ofAngles a.kind e

/-- One step of length `dt` under the angular velocity `w` of the body frame. -/
def advance (a : Attitude α) (w : Vec3 α) (dt : α) : Attitude α :=
  match a with
  | euler e =>
    match e.rateOfTurn? w with
    | some rate => euler (e.advance rate dt)
    | none => euler e
  | quaternion q => quaternion (q.advance w dt)

end Attitude

end Multirotor
