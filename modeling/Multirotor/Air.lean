import Multirotor.Space.Vector

/-!
# Air

The surroundings of a body: the standard atmosphere, the friction of the air, a surface that sends the
downwash back, and the weather of one tick.
-/

namespace Multirotor

/-! ## The standard atmosphere

Pressure falls with a power of the temperature, which falls linearly with the altitude. -/

namespace Atmosphere

variable {α : Type} [Scalar α]

/-- Pressure at sea level in hectopascals. -/
def seaLevelHectopascals : α := 1013.25

/-- Temperature at sea level in degrees Celsius. -/
def seaLevelCelsius : α := 15.0

/-- Temperature lost per meter of altitude in kelvins. -/
def lapseRate : α := 0.0065

/-- The power of the temperature ratio that gives the pressure ratio. -/
def exponent : α := 5.2561

/-- The pressure at `altitude` meters above sea level, in the unit of `seaLevel`, when the air there
has `celsius` degrees.  Above the altitude where the temperature vanishes there is none left. -/
def pressure (seaLevel altitude celsius : α) : α :=
  let kelvin := celsius + 273.15
  let ratio := Scalar.larger (1 - lapseRate * altitude / kelvin) 0
  seaLevel * Scalar.pow ratio exponent

end Atmosphere

/-! ## Drag

Air friction with a linear and a quadratic part, on each axis of the velocity relative to the air. -/

/-- The coefficients of air friction. -/
structure Drag (α : Type) where
  /-- Force per speed. -/
  linear : α
  /-- Force per squared speed. -/
  quadratic : α
  deriving DecidableEq, Repr

namespace Drag

variable {α : Type} [Scalar α]

instance : Zero (Drag α) := ⟨{ linear := 0, quadratic := 0 }⟩

/-- The force against `velocity`, which is relative to the air. -/
def force (d : Drag α) (velocity : Vec3 α) : Vec3 α :=
  -velocity.map fun v => d.linear * v + d.quadratic * v * Scalar.abs v

end Drag

/-! ## Ground effect

Air blown at a nearby surface comes back and pushes the body.  The flow is reflected at the plane and
fades with the distance from it.  Either orientation of the normal describes the same surface to a
body that is off the plane. -/

/-- A plane in the ground frame. -/
structure Surface (α : Type) where
  /-- Any point of the plane. -/
  point : Vec3 α
  /-- Either normal of the plane. -/
  normal : Vec3 α
  deriving DecidableEq, Repr

/-- The strength of the flow that a surface sends back. -/
structure GroundEffect (α : Type) where
  /-- The fraction of the thrust that comes back from close by. -/
  power : α
  /-- The power of the distance with which it fades. -/
  exponent : α
  deriving DecidableEq, Repr

namespace GroundEffect

variable {α : Type} [Scalar α]

/-- Lengths up to this one give no direction. -/
def leastLength : α := 1e-9

/-- The reach of the effect in rotor radii. -/
def reach : α := 5.0

/-- All of the thrust, fading with the power three halves of the distance. -/
def standard : GroundEffect α := { power := 1, exponent := 1.5 }

/-- The unit normal that points to the side of `position`, and the distance from the plane. -/
def orient (unit : Vec3 α) (surface : Surface α) (position : Vec3 α) : Vec3 α × α :=
  let distance := (position - surface.point).dot unit
  if distance < 0 then (-unit, -distance) else (unit, distance)

/-- The force in the ground frame on a body at `position` whose rotors blow along `downwash`.  There
is none out of reach, and none when the flow does not go toward the surface. -/
def force (g : GroundEffect α) (surface : Surface α) (position downwash : Vec3 α)
    (thrust rotorRadius : α) : Vec3 α :=
  match surface.normal.normalize? leastLength, downwash.normalize? leastLength with
  | some unit, some flow =>
    let (normal, distance) := orient unit surface position
    if reach * rotorRadius < distance then 0
    else
      let incidence := flow.dot normal
      if 0 ≤ incidence then 0
      else
        let reflected := flow - normal * ((2.0 : α) * incidence)
        let falloff := Scalar.pow (rotorRadius / Scalar.larger distance rotorRadius) g.exponent
        reflected * (g.power * thrust * falloff)
  | _, _ => 0

end GroundEffect

/-! ## Weather -/

/-- What surrounds the body in one tick. -/
structure Weather (α : Type) where
  /-- Temperature at sea level in degrees Celsius. -/
  temperature : α
  /-- Wind in the ground frame. -/
  wind : Vec3 α
  /-- Pressure at sea level in atmospheres. -/
  seaLevelAtm : α
  /-- A surface that sends the downwash back. -/
  surface : Option (Surface α)
  deriving DecidableEq, Repr

/-- The standard atmosphere without wind. -/
def Weather.standard {α : Type} [Scalar α] : Weather α :=
  { temperature := Atmosphere.seaLevelCelsius, wind := 0, seaLevelAtm := 1, surface := none }

end Multirotor
