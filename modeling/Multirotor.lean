import Multirotor.Aircraft.Flight
import Multirotor.Decimal
import Multirotor.Document.Reader
import Multirotor.Document
import Multirotor.Instrument.Triad
import Multirotor.Storage.Configuration
import Multirotor.Telemetry
import Multirotor.Proofs.Aircraft.Assembly
import Multirotor.Proofs.Scalar.Exact
import Multirotor.Proofs.Aircraft.Reset
import Multirotor.Proofs.Aircraft.Buildable
import Multirotor.Proofs.Mixing.Columns
import Multirotor.Proofs.Mixing.PseudoInverse
import Multirotor.Proofs.Space.Vector
import Multirotor.Proofs.Mixing.Steady
import Multirotor.Proofs.Space.Rotation
import Multirotor.Proofs.Body.Views
import Multirotor.Proofs.Body.Impulse
import Multirotor.Proofs.Aircraft.Pending
import Multirotor.Proofs.Aircraft.Noiseless
import Multirotor.Proofs.Aircraft.Divisors
import Multirotor.Proofs.Body.Poised
import Multirotor.Proofs.Pilot.Idle
import Multirotor.Proofs.Aircraft.Hover
import Multirotor.Proofs.Body.Recovery
import Multirotor.Proofs.Aircraft.Bookkeeping
import Multirotor.Proofs.Aircraft.Heeded
import Multirotor.Proofs.Space.Move
import Multirotor.Proofs.Body.Moved
import Multirotor.Proofs.Body.Ground
import Multirotor.Proofs.Space.Kinematics
import Multirotor.Proofs.Mixing.Reorder
import Multirotor.Proofs.Aircraft.RotorOrder
import Multirotor.Proofs.Pilot.History
import Multirotor.Proofs.Pilot.Loop
import Multirotor.Proofs.Pilot.Moved
import Multirotor.Proofs.Scalar.Value
import Multirotor.Proofs.Scalar.Rounding
import Multirotor.Proofs.Scalar.Whole
import Multirotor.Proofs.Scalar.Clamp
import Multirotor.Proofs.Aircraft.Clock
import Multirotor.Proofs.Pilot.Envelope
import Multirotor.Proofs.Pilot.Setpoints
import Multirotor.Proofs.Pilot.Terms
import Multirotor.Proofs.Pilot.Climbing
import Multirotor.Proofs.Pilot.Transmitter
import Multirotor.Proofs.Aircraft.Duties
import Multirotor.Proofs.Storage.Removal
import Multirotor.Proofs.Storage.Laws
import Multirotor.Proofs.Storage.Members
import Multirotor.Proofs.Storage.Configuration
import Multirotor.Proofs.Pilot.Windup
import Multirotor.Proofs.Air.Surface
import Multirotor.Proofs.Body.Frames
import Multirotor.Proofs.Space.Standstill
import Multirotor.Proofs.Rotor.Lag
import Multirotor.Proofs.Space.AxisAngle
import Multirotor.Proofs.Space.Principal
import Multirotor.Proofs.Space.Integration
import Multirotor.Proofs.Body.Reflection
import Multirotor.Proofs.Rotor.Momentum
import Multirotor.Proofs.Body.Central
import Multirotor.Proofs.Body.Rest
import Multirotor.Proofs.Body.Flight
import Multirotor.Proofs.Body.Tumbling
import Multirotor.Proofs.Body.Restoration
import Multirotor.Proofs.Air.Downwash
import Multirotor.Proofs.Pilot.Heading
import Multirotor.Proofs.Scalar.Limit
import Multirotor.Proofs.Pilot.Saturation
import Multirotor.Proofs.Mixing.Units
import Multirotor.Proofs.Aircraft.SpecificForce
import Multirotor.Proofs.Instrument.Recent
import Multirotor.Proofs.Air.Pressure
import Multirotor.Proofs.Instrument.Barometer
import Multirotor.Proofs.Instrument.Magnetometer
import Multirotor.Proofs.Scalar.Remainder
import Multirotor.Proofs.Instrument.Course
import Multirotor.Proofs.Aircraft.Seeds
import Multirotor.Proofs.Space.Rates
