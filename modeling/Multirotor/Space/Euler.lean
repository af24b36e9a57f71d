import Multirotor.Space.Vector

/-!
# Euler angles

An attitude as yaw about down, then pitch about right, then roll about forward; `wrapAngle` is the
representative of an angle in half a turn to either side.  `Euler.rotation` takes body vectors to the
ground frame.  `Euler.rateOfTurn?` and `Euler.turnOfRate` translate between the angular velocity in the
body frame and the derivatives of the angles; straight up and straight down the derivatives do not
exist.
-/

namespace Multirotor

/-- `angle` up to full turns in `(-π, π]`. -/
def wrapAngle {α : Type} [Scalar α] (angle : α) : α :=
  let wrapped := Scalar.modulo (angle + Scalar.pi) (2.0 * Scalar.pi) - Scalar.pi
  if wrapped == -Scalar.pi then Scalar.pi else wrapped

/-- Roll, pitch and yaw in radians, or their derivatives. -/
structure Euler (α : Type) where
  roll : α
  pitch : α
  yaw : α
  deriving DecidableEq, Repr

namespace Euler

/-- The angles as components about the three axes. -/
def toVec3 {α : Type} (e : Euler α) : Vec3 α := ⟨e.roll, e.pitch, e.yaw⟩

/-- Components about the three axes as angles. -/
def ofVec3 {α : Type} (v : Vec3 α) : Euler α := ⟨v.x, v.y, v.z⟩

variable {α : Type} [Scalar α]

open Scalar

instance : Zero (Euler α) := ⟨⟨0, 0, 0⟩⟩

/-- The rotation from the body frame to the ground frame. -/
def rotation (e : Euler α) : Mat3 α :=
  let sr := sin e.roll
  let cr := cos e.roll
  let sp := sin e.pitch
  let cp := cos e.pitch
  let sy := sin e.yaw
  let cy := cos e.yaw
  ⟨⟨cy * cp, cy * sp * sr - sy * cr, cy * sp * cr + sy * sr⟩,
   ⟨sy * cp, sy * sp * sr + cy * cr, sy * sp * cr - cy * sr⟩,
   ⟨-sp, cp * sr, cp * cr⟩⟩

/-- A body vector in the ground frame. -/
def toGround (e : Euler α) (v : Vec3 α) : Vec3 α := e.rotation.apply v

/-- A ground vector in the body frame. -/
def toBody (e : Euler α) (v : Vec3 α) : Vec3 α := e.rotation.transpose.apply v

/-- The derivatives of the angles under the angular velocity `w` of the body frame.  There are none
where the cosine of the pitch vanishes. -/
def rateOfTurn? (e : Euler α) (w : Vec3 α) : Option (Euler α) :=
  let sp := sin e.pitch
  let cp := cos e.pitch
  let sr := sin e.roll
  let cr := cos e.roll
  if abs cp < epsilon then none
  else
    let tp := sp / cp
    some
      { roll := w.x + sr * tp * w.y + cr * tp * w.z
        pitch := cr * w.y - sr * w.z
        yaw := sr / cp * w.y + cr / cp * w.z }

/-- The angular velocity in the body frame when the angles change at `rate`. -/
def turnOfRate (e rate : Euler α) : Vec3 α :=
  let sp := sin e.pitch
  let cp := cos e.pitch
  let sr := sin e.roll
  let cr := cos e.roll
  { x := rate.roll - sp * rate.yaw
    y := cr * rate.pitch + sr * cp * rate.yaw
    z := -sr * rate.pitch + cr * cp * rate.yaw }

/-- One step of length `dt` at the given derivatives; roll and yaw are brought back to half a turn
to either side. -/
def advance (e rate : Euler α) (dt : α) : Euler α :=
  { roll := wrapAngle (e.roll + rate.roll * dt)
    pitch := e.pitch + rate.pitch * dt
    yaw := wrapAngle (e.yaw + rate.yaw * dt) }

end Euler

end Multirotor
