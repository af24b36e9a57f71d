import Multirotor.Body.Motion
import Multirotor.Instrument.Barometer
import Multirotor.Instrument.Gps
import Multirotor.Instrument.Inertial
import Multirotor.Instrument.Magnetometer

/-!
# The instrument panel

All instruments of an aircraft.  With a seed each of them has a reproducible noise of its own, and
without one each noise has starts of its own from the entropy of the system.
-/

namespace Multirotor

/-- The settings of every instrument. -/
structure PanelSettings (α : Type) where
  accelerometer : InstrumentSettings α
  gyroscope : InstrumentSettings α
  gps : InstrumentSettings α
  barometer : InstrumentSettings α
  magnetometer : InstrumentSettings α
  deriving DecidableEq, Repr

/-- The instruments of an aircraft. -/
structure Panel (α : Type) where
  accelerometer : Accelerometer α
  gyroscope : Gyroscope α
  gps : Gps α
  barometer : Barometer α
  magnetometer : Magnetometer α

/-- What one instrument shows. -/
inductive Reading (α : Type) where
  /-- Specific force in the body frame. -/
  | accelerometer (v : Vec3 α)
  /-- Angular velocity. -/
  | gyroscope (v : Vec3 α)
  | gps (s : GpsSample α)
  | barometer (s : BarometerSample α)
  /-- Magnetic field in the body frame. -/
  | magnetometer (v : Vec3 α)
  deriving DecidableEq, Repr

/-- The instrument that was read. -/
def Reading.kind {α : Type} : Reading α → InstrumentKind
  | accelerometer _ => .accelerometer
  | gyroscope _ => .gyroscope
  | gps _ => .gps
  | barometer _ => .barometer
  | magnetometer _ => .magnetometer

variable {α : Type} [Scalar α]

namespace PanelSettings

/-- Every instrument shows its last sample as it is. -/
def standard : PanelSettings α :=
  { accelerometer := .standard
    gyroscope := .standard
    gps := .standard
    barometer := .standard
    magnetometer := .standard }

/-- The settings of one instrument. -/
def get (s : PanelSettings α) : InstrumentKind → InstrumentSettings α
  | .accelerometer => s.accelerometer
  | .gyroscope => s.gyroscope
  | .gps => s.gps
  | .barometer => s.barometer
  | .magnetometer => s.magnetometer

/-- The settings with those of one instrument replaced. -/
def set (s : PanelSettings α) (kind : InstrumentKind) (i : InstrumentSettings α) :
    PanelSettings α :=
  match kind with
  | .accelerometer => { s with accelerometer := i }
  | .gyroscope => { s with gyroscope := i }
  | .gps => { s with gps := i }
  | .barometer => { s with barometer := i }
  | .magnetometer => { s with magnetometer := i }

/-- Refuses a window without samples. -/
def check (s : PanelSettings α) : Except (Fault α) Unit :=
  InstrumentKind.all.forM fun kind => (s.get kind).check kind

end PanelSettings

namespace Panel

/-- The seed of an instrument. -/
def seedFor (seed : Option UInt64) : InstrumentKind → Option UInt64
  | .accelerometer => seed
  | .gyroscope => seed.map (· + 1)
  | .gps => seed.map (· + 2)
  | .barometer => seed.map (· + 3)
  | .magnetometer => seed.map (· + 4)

/-- The instruments before the first tick. -/
def build (s : PanelSettings α) (reference : GeoReference α) (field : MagneticField α)
    (dt gravity : α) (seed : Option UInt64) (r : Randomness α) : Except (Fault α) (Panel α) := do
  s.check
  let accelerometer ←
    Accelerometer.build s.accelerometer dt gravity (seedFor seed .accelerometer) r
  let gyroscope ← Gyroscope.build s.gyroscope (seedFor seed .gyroscope) (r.drop 1)
  -- The receiver has two noises.
  let gps ← Gps.build s.gps reference (seedFor seed .gps) (r.drop 2)
  let barometer ← Barometer.build s.barometer reference (seedFor seed .barometer) (r.drop 4)
  let magnetometer ←
    Magnetometer.build s.magnetometer field (seedFor seed .magnetometer) (r.drop 5)
  .ok { accelerometer, gyroscope, gps, barometer, magnetometer }

/-- One tick. -/
def run (p : Panel α) (o : Observation α) : Panel α :=
  { accelerometer := p.accelerometer.run
      { velocity := o.bodyVelocity, angularVelocity := o.angularVelocity, angles := o.angles }
    gyroscope := p.gyroscope.run o.angularVelocity
    gps := p.gps.run o.position o.groundVelocity
    barometer := p.barometer.run o.position o.weather
    magnetometer := p.magnetometer.run o.angles }

/-- What an instrument shows. -/
def read (p : Panel α) : InstrumentKind → Reading α
  | .accelerometer => .accelerometer p.accelerometer.value
  | .gyroscope => .gyroscope p.gyroscope.value
  | .gps => .gps p.gps.value
  | .barometer => .barometer p.barometer.value
  | .magnetometer => .magnetometer p.magnetometer.value

/-- Pressure in atmospheres, without noise. -/
def pressureAtm (p : Panel α) : α := p.barometer.pressureAtm

/-- The instruments before the first tick. -/
def reset (p : Panel α) : Panel α :=
  { accelerometer := p.accelerometer.reset
    gyroscope := p.gyroscope.reset
    gps := p.gps.reset
    barometer := p.barometer.reset
    magnetometer := p.magnetometer.reset }

end Panel

end Multirotor
