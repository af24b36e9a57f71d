import Multirotor.Air
import Multirotor.Instrument.Gps

/-!
# The barometer

Static pressure at the averaged height.  The instrument shows it with noise on the height; the rotors
feel the same pressure without noise.
-/

namespace Multirotor

/-- What a barometer shows. -/
structure BarometerSample (α : Type) where
  /-- In hectopascals. -/
  absolutePressure : α
  /-- In hectopascals; zero, since airspeed is not modelled. -/
  differentialPressure : α
  /-- Height above the origin of the ground frame. -/
  height : α
  deriving DecidableEq, Repr

/-- A barometer. -/
structure Barometer (α : Type) where
  reference : GeoReference α
  height : SampleWindow α
  noise : Noise α
  /-- The weather of the last tick. -/
  weather : Weather α
  value : BarometerSample α

namespace Barometer

variable {α : Type} [Scalar α]

/-- What is shown at a height in a weather. -/
def sample (r : GeoReference α) (weather : Weather α) (height : α) : BarometerSample α :=
  { absolutePressure :=
      Atmosphere.pressure (Atmosphere.seaLevelHectopascals * weather.seaLevelAtm)
        (r.altitude + height) weather.temperature
    differentialPressure := 0
    height }

/-- The barometer before the first tick. -/
def build (s : InstrumentSettings α) (reference : GeoReference α) (seed : Option UInt64)
    (r : Randomness α) : Except (Fault α) (Barometer α) := do
  let noise ← Noise.build s.noiseVariance seed r
  .ok
    { reference
      height := s.window
      noise
      weather := .standard
      value := sample reference .standard 0 }

/-- Pressure in atmospheres at the averaged height, without noise. -/
def pressureAtm (b : Barometer α) : α :=
  Atmosphere.pressure b.weather.seaLevelAtm (b.reference.altitude + b.height.mean)
    b.weather.temperature

/-- One tick at a position in the ground frame, in the standard atmosphere unless there is weather. -/
def run (b : Barometer α) (position : Vec3 α) (weather : Option (Weather α)) : Barometer α :=
  let weather := weather.getD .standard
  let window := b.height.add (-position.z)
  let (height, noise) := b.noise.perturb window.mean
  { b with height := window, noise, weather, value := sample b.reference weather height }

/-- The barometer before the first tick. -/
def reset (b : Barometer α) : Barometer α :=
  { b with
    height := b.height.reset
    noise := b.noise.reset
    weather := .standard
    value := sample b.reference .standard 0 }

end Barometer

end Multirotor
