import Multirotor.Instrument.Triad

/-!
# Satellite positioning

Position and velocity around a geodetic reference.  The noise is in meters, before the offset becomes
degrees.  The course over ground counts from north over east.
-/

namespace Multirotor

/-- The geodetic origin of the ground frame. -/
structure GeoReference (α : Type) where
  /-- In degrees. -/
  latitude : α
  /-- In degrees. -/
  longitude : α
  /-- Above sea level. -/
  altitude : α
  deriving DecidableEq, Repr

/-- What a receiver shows. -/
structure GpsSample (α : Type) where
  /-- In degrees. -/
  latitude : α
  /-- In degrees. -/
  longitude : α
  /-- Above sea level. -/
  altitude : α
  /-- North, east and down. -/
  velocity : Vec3 α
  /-- Horizontal speed. -/
  groundSpeed : α
  /-- Course over ground in degrees. -/
  course : α
  deriving DecidableEq, Repr

/-- A receiver. -/
structure Gps (α : Type) where
  reference : GeoReference α
  position : Triad α
  velocity : Triad α
  value : GpsSample α

variable {α : Type} [Scalar α]

open Scalar

/-- The radius of the Earth at the equator. -/
def earthRadius : α := 6378137.0

namespace GeoReference

/-- A reference at sea level. -/
def standard : GeoReference α := { latitude := 35.6809591, longitude := 139.7673068, altitude := 0 }

/-- Latitude and longitude of an offset from the reference. -/
def coordinates (r : GeoReference α) (north east : α) : α × α :=
  (r.latitude + degrees (north / earthRadius),
    r.longitude + degrees (east / (earthRadius * cos (radians r.latitude))))

end GeoReference

namespace Gps

/-- The course over ground of a velocity, in degrees. -/
def courseOf (north east : α) : α := modulo (degrees (atan2 east north)) 360.0

/-- What is shown for an offset and a velocity. -/
def sample (r : GeoReference α) (position velocity : Vec3 α) : GpsSample α :=
  let (latitude, longitude) := r.coordinates position.x position.y
  { latitude, longitude
    altitude := r.altitude - position.z
    velocity
    groundSpeed := hypot velocity.x velocity.y
    course := courseOf velocity.x velocity.y }

/-- The seed of the velocity noise, which has a sequence of its own. -/
def velocitySeed (seed : UInt64) : UInt64 := seed ^^^ 0x9e3779b97f4a7c15

/-- The receiver before the first tick, at its reference and at rest. -/
def build (s : InstrumentSettings α) (reference : GeoReference α) (seed : Option UInt64)
    (r : Randomness α) : Except (Fault α) (Gps α) := do
  let position ← Triad.build s seed r
  let velocity ← Triad.build s (seed.map velocitySeed) (r.drop 1)
  .ok { reference, position, velocity, value := sample reference 0 0 }

/-- One tick at an offset and a velocity in the ground frame. -/
def run (g : Gps α) (position velocity : Vec3 α) : Gps α :=
  let (offset, positionTriad) := (g.position.add position).read
  let (speed, velocityTriad) := (g.velocity.add velocity).read
  { g with
    position := positionTriad
    velocity := velocityTriad
    value := sample g.reference offset speed }

/-- The receiver before the first tick. -/
def reset (g : Gps α) : Gps α :=
  { g with
    position := g.position.reset
    velocity := g.velocity.reset
    value := sample g.reference 0 0 }

end Gps

end Multirotor
