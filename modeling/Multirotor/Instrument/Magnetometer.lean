import Multirotor.Instrument.Triad
import Multirotor.Space.Euler

/-!
# The magnetometer

The magnetic field of the Earth seen from the body frame.
-/

namespace Multirotor

/-- The magnetic field at the reference. -/
structure MagneticField (α : Type) where
  /-- In nanoteslas. -/
  intensity : α
  /-- Degrees east of north. -/
  declination : α
  /-- Degrees below the horizon. -/
  inclination : α
  deriving DecidableEq, Repr

/-- A magnetometer. -/
structure Magnetometer (α : Type) where
  /-- The field in the ground frame. -/
  field : Vec3 α
  triad : Triad α
  value : Vec3 α

variable {α : Type} [Scalar α]

open Scalar

namespace MagneticField

/-- The field at the standard reference. -/
def standard : MagneticField α := { intensity := 46000.0, declination := -7.5, inclination := 49.5 }

/-- The field in the ground frame. -/
def groundVector (f : MagneticField α) : Vec3 α :=
  let d := radians f.declination
  let i := radians f.inclination
  (⟨cos i * cos d, cos i * sin d, sin i⟩ : Vec3 α) * f.intensity

end MagneticField

namespace Magnetometer

/-- The magnetometer before the first tick. -/
def build (s : InstrumentSettings α) (field : MagneticField α) (seed : Option UInt64)
    (r : Randomness α) : Except (Fault α) (Magnetometer α) := do
  let triad ← Triad.build s seed r
  .ok { field := field.groundVector, triad, value := 0 }

/-- One tick at an attitude. -/
def run (m : Magnetometer α) (angles : Euler α) : Magnetometer α :=
  let (value, triad) := (m.triad.add (angles.toBody m.field)).read
  { m with triad, value }

/-- The magnetometer before the first tick. -/
def reset (m : Magnetometer α) : Magnetometer α := { m with triad := m.triad.reset, value := 0 }

end Magnetometer

end Multirotor
