import Multirotor.Decimal

/-!
# Faults

The instruments of an aircraft, and the reasons for which it cannot be built, or a tick not be run.
`Fault.name` names the reason and `Fault.message` is the text shown for it; numbers in the text have
the fewest digits that read back.
-/

namespace Multirotor

/-- An instrument of the aircraft.  The order is the one in which they are checked and in which they
take their noise seeds. -/
inductive InstrumentKind where
  | accelerometer
  | gyroscope
  | gps
  | barometer
  | magnetometer
  deriving DecidableEq, Repr

namespace InstrumentKind

/-- Every instrument, in order. -/
def all : List InstrumentKind := [accelerometer, gyroscope, gps, barometer, magnetometer]

/-- The instrument's name in running text. -/
def title : InstrumentKind → String
  | accelerometer => "Accelerometer"
  | gyroscope => "Gyroscope"
  | gps => "Gps"
  | barometer => "Barometer"
  | magnetometer => "Magnetometer"

end InstrumentKind

/-- An axis of the body frame. -/
inductive Axis where
  | x
  | y
  | z
  deriving DecidableEq, Repr

/-- The letter of the axis. -/
def Axis.letter : Axis → String
  | x => "x"
  | y => "y"
  | z => "z"

/-- Why an aircraft cannot be built or run. -/
inductive Fault (α : Type) where
  | mass (value : α)
  | inertia (axis : Axis) (value : α)
  | resistance (value : α)
  | rotorInertia (value : α)
  | timeConstant (value : α)
  | thrustCoefficient (value : α)
  | timeStep (value : α)
  /-- The timestep is not a whole number of microseconds. -/
  | fractionalTimeStep (value : α)
  | gravity (value : α)
  | batteryVoltage (value : α)
  | motorConstant (value : α)
  | rotorCount (expected actual : Nat)
  /-- The rotors cannot produce thrust and the three torques independently. -/
  | dependentRotors
  | emptyWindow (kind : InstrumentKind)
  /-- The noise has no finite deviation. -/
  | unboundedNoise
  | dutyCount (expected actual : Nat)
  | notYetRun
  deriving DecidableEq, Repr

namespace Fault

/-- The name of a fault, whatever values it was found with. -/
def name {α : Type} : Fault α → String
  | mass _ => "NonPositiveMass"
  | inertia .. => "NonPositiveInertia"
  | resistance _ => "NonPositiveResistance"
  | rotorInertia _ => "NonPositiveRotorInertia"
  | timeConstant _ => "NonPositiveTimeConstant"
  | thrustCoefficient _ => "NonPositiveThrustCoefficient"
  | timeStep _ => "NonPositiveTimeStep"
  | fractionalTimeStep _ => "FractionalTimeStep"
  | gravity _ => "NonPositiveGravity"
  | batteryVoltage _ => "NonPositiveBatteryVoltage"
  | motorConstant _ => "NonPositiveMotorConstant"
  | rotorCount .. => "RotorCountMismatch"
  | dependentRotors => "SingularMixer"
  | emptyWindow _ => "EmptySampleWindow"
  | unboundedNoise => "Noise"
  | dutyCount .. => "DutyCountMismatch"
  | notYetRun => "NotYetRun"

/-- The text that is shown for a fault. -/
def message : Fault Float → String
  | mass v => "mass must be positive, got " ++ Decimal.shortest v ++ " kg"
  | inertia axis v =>
    "inertia about the " ++ axis.letter ++ " axis must be positive, got " ++ Decimal.shortest v ++
      " kg*m^2"
  | resistance v => "rotor resistance must be positive, got " ++ Decimal.shortest v ++ " ohm"
  | rotorInertia v => "rotor inertia must be positive, got " ++ Decimal.shortest v ++ " kg*m^2"
  | timeConstant v => "rotor time constant must be positive, got " ++ Decimal.shortest v ++ " s"
  | thrustCoefficient v => "thrust coefficient must be positive, got " ++ Decimal.shortest v
  | timeStep v => "timestep must be positive, got " ++ Decimal.shortest v ++ " s"
  | fractionalTimeStep v =>
    "timestep must be a whole number of microseconds, got " ++ Decimal.shortest v ++ " s"
  | gravity v => "gravity must be positive to hover, got " ++ Decimal.shortest v ++ " m/s^2"
  | batteryVoltage v => "battery voltage must be positive, got " ++ Decimal.shortest v ++ " V"
  | motorConstant v =>
    "motor constant must be positive with a battery, got " ++ Decimal.shortest v
  | rotorCount expected actual =>
    "expected " ++ toString expected ++ " rotor positions, got " ++ toString actual
  | dependentRotors => "mixer allocation matrix is singular"
  | emptyWindow kind =>
    "sample window of the " ++ kind.title ++ " sensor must hold at least one sample"
  | unboundedNoise =>
    "invalid noise distribution: variation parameter is non-finite in (log)normal distribution"
  | dutyCount expected actual =>
    "expected " ++ toString expected ++ " duty commands, got " ++ toString actual
  | notYetRun => "the aircraft has not run a tick yet"

end Fault

end Multirotor
