import Multirotor.Body.Rigid
import Multirotor.Document.Codec

/-!
# Stored bodies

Vectors, rotors and the options of a body as documents.  A vector is stored as the list of its three
components.  Of rotor constants, batteries and mounts all fields have to be there; drag, ground effect
and bounds fall back to their standard values field by field; a collision names its kind beside its
fields.
-/

namespace Multirotor

/-! ## Vectors -/

section Vectors

variable {α β : Type}

instance [Codec α β] : Codec α (Vec3 β) where
  encode v := .list [encode v.x, encode v.y, encode v.z]
  decode
    | .list [x, y, z] => do return { x := ← decode x, y := ← decode y, z := ← decode z }
    | _ => none

instance [Codec α β] : Codec α (Euler β) where
  encode e := encode e.toVec3
  decode d := (decode d).map Euler.ofVec3

instance : Codec α AttitudeKind :=
  .ofNames [(.euler, "euler"), (.quaternion, "quaternion")]

end Vectors

/-! ## Rotors -/

open Document

variable {α : Type} [Scalar α]

instance : Codec α (RotorConstants α) where
  encode c := .record
    [("r", encode c.resistance),
     ("cq", encode c.torqueCoefficient),
     ("ct", encode c.thrustCoefficient),
     ("k", encode c.motorConstant),
     ("d", encode c.friction),
     ("j", encode c.inertia)]
  decode d := do
    let r ← d.fields ["r", "cq", "ct", "k", "d", "j"]
    return {
      resistance := ← required r "r"
      torqueCoefficient := ← required r "cq"
      thrustCoefficient := ← required r "ct"
      motorConstant := ← required r "k"
      friction := ← required r "d"
      inertia := ← required r "j" }

instance : Codec α (Battery α) where
  encode b := .record [("nominal_voltage", encode b.voltage)]
  decode d := do
    let r ← d.fields ["nominal_voltage"]
    return { voltage := ← required r "nominal_voltage" }

instance : Codec α (Mount α) where
  encode m := .record [("position", encode m.position), ("ccw", encode m.ccw)]
  decode d := do
    let r ← d.fields ["position", "ccw"]
    return { position := ← required r "position", ccw := ← required r "ccw" }

/-! ## The body -/

instance : Codec α IntegrationScheme :=
  .ofNames [(.explicitEuler, "explicit_euler"), (.semiImplicitEuler, "semi_implicit_euler")]

instance : Codec α (Drag α) where
  encode d := .record [("linear", encode d.linear), ("quadratic", encode d.quadratic)]
  decode d := do
    let r ← d.fields ["linear", "quadratic"]
    let fallback : Drag α := 0
    return {
      linear := ← optional r "linear" fallback.linear
      quadratic := ← optional r "quadratic" fallback.quadratic }

instance : Codec α (Surface α) where
  encode s := .record [("point", encode s.point), ("normal", encode s.normal)]
  decode d := do
    let r ← d.fields ["point", "normal"]
    return { point := ← required r "point", normal := ← required r "normal" }

instance : Codec α (GroundEffect α) where
  encode g := .record [("power", encode g.power), ("exponent", encode g.exponent)]
  decode d := do
    let r ← d.fields ["power", "exponent"]
    let fallback : GroundEffect α := .standard
    return {
      power := ← optional r "power" fallback.power
      exponent := ← optional r "exponent" fallback.exponent }

instance : Codec α (Bounds α) where
  encode b := .record
    [("position", encode b.position),
     ("velocity", encode b.velocity),
     ("angular_velocity", encode b.angularVelocity),
     ("position_limit", encode b.positionLimit),
     ("velocity_limit", encode b.velocityLimit),
     ("angular_velocity_limit", encode b.angularVelocityLimit)]
  decode d := do
    let r ← d.fields
      ["position", "velocity", "angular_velocity", "position_limit", "velocity_limit",
       "angular_velocity_limit"]
    let fallback : Bounds α := .standard
    return {
      position := ← optional r "position" fallback.position
      velocity := ← optional r "velocity" fallback.velocity
      angularVelocity := ← optional r "angular_velocity" fallback.angularVelocity
      positionLimit := ← optional r "position_limit" fallback.positionLimit
      velocityLimit := ← optional r "velocity_limit" fallback.velocityLimit
      angularVelocityLimit := ←
        optional r "angular_velocity_limit" fallback.angularVelocityLimit }

/-! ### Collisions -/

/-- The fields of a bounce. -/
def Bounce.toFields (b : Bounce α) : List (String × Document α) :=
  [("contact_position", encode b.contact),
   ("relative_velocity", encode b.relativeVelocity),
   ("restitution", encode b.restitution)]

instance : Codec α (Bounce α) where
  encode b := .record b.toFields
  decode d := do
    let r ← d.fields ["contact_position", "relative_velocity", "restitution"]
    return {
      contact := ← required r "contact_position"
      relativeVelocity := ← required r "relative_velocity"
      restitution := ← required r "restitution" }

/-- The fields of a strike. -/
def Strike.toFields (s : Strike α) : List (String × Document α) :=
  [("is_target_static", encode s.isTargetStatic),
   ("restitution", encode s.restitution),
   ("self_contact_vector", encode s.contactVector),
   ("normal", encode s.normal),
   ("target_contact_vector", encode s.targetContactVector),
   ("target_velocity", encode s.targetVelocity),
   ("target_angular_velocity", encode s.targetAngularVelocity),
   ("target_euler", encode s.targetAngles),
   ("target_inertia", encode s.targetInertia),
   ("target_mass", encode s.targetMass)]

instance : Codec α (Strike α) where
  encode s := .record s.toFields
  decode d := do
    let r ← d.fields
      ["is_target_static", "restitution", "self_contact_vector", "normal",
       "target_contact_vector", "target_velocity", "target_angular_velocity", "target_euler",
       "target_inertia", "target_mass"]
    return {
      isTargetStatic := ← required r "is_target_static"
      restitution := ← required r "restitution"
      contactVector := ← required r "self_contact_vector"
      normal := ← required r "normal"
      targetContactVector := ← required r "target_contact_vector"
      targetVelocity := ← required r "target_velocity"
      targetAngularVelocity := ← required r "target_angular_velocity"
      targetAngles := ← required r "target_euler"
      targetInertia := ← required r "target_inertia"
      targetMass := ← required r "target_mass" }

instance : Codec α (Collision α) where
  encode
    | .bounce b => .record (("kind", .text "simple") :: b.toFields)
    | .strike s => .record (("kind", .text "impulse") :: s.toFields)
  decode d := do
    let (kind, rest) ← d.splitTag "kind"
    match kind with
    | "simple" => (decode rest).map .bounce
    | "impulse" => (decode rest).map .strike
    | _ => none

end Multirotor
