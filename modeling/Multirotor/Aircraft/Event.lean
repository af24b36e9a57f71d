import Multirotor.Decimal
import Multirotor.Pilot.Autopilot

/-!
# Events

What an aircraft tells about itself while it is built and run.  Every event has a level, and at
`Float` a text, `Event.message`; numbers in it are rounded to a few places.
-/

namespace Multirotor

/-- How much an event matters. -/
inductive Level where
  | warn
  | info
  | debug
  | trace
  deriving DecidableEq, Repr

/-- Something that an aircraft tells. -/
inductive Event (α : Type) where
  /-- The aircraft is built. -/
  | ready (rotors : Nat) (hoverSpeed maxSpeed timeConstant : α)
  | mixerReady (mode : ControlMode)
  | body (e : BodyEvent α)
  /-- The autopilot has run. -/
  | control (demand : Wrench α) (tilt : Tilt α)
  /-- A tick has ended. -/
  | tick (clock ticks : UInt64) (position : Vec3 α) (angles : Euler α) (thrust : α)
  /-- An instrument was read before the first tick. -/
  | earlyReading (kind : InstrumentKind)
  | reset
  deriving DecidableEq, Repr

/-- The name of a level. -/
def Level.title : Level → String
  | warn => "warn"
  | info => "info"
  | debug => "debug"
  | trace => "trace"

/-- The mode as it is shown. -/
def ControlMode.title : ControlMode → String
  | scripted => "Api"
  | radio angleDirect =>
    "RadioControl \x7b angle_direct: " ++ (if angleDirect then "true" else "false") ++ " \x7d"

/-- How much an event of the body matters. -/
def BodyEvent.level {α : Type} : BodyEvent α → Level
  | contactAtCenter => .warn
  | contactWithoutNormal => .warn
  | _ => .debug

namespace Event

/-- How much an event matters. -/
def level {α : Type} : Event α → Level
  | ready .. => .info
  | mixerReady _ => .info
  | body e => e.level
  | control .. => .trace
  | tick .. => .trace
  | earlyReading _ => .warn
  | reset => .info

/-- Numbers in brackets, rounded to some places. -/
def bracketed (places : Nat) (xs : List Float) : String :=
  "[" ++ String.intercalate ", " (xs.map (Decimal.fixed places)) ++ "]"

/-- The text of an event of the body. -/
def bodyMessage : BodyEvent Float → String
  | .collisionReplaced => "Pending collision replaced before it was applied"
  | .contactAtCenter => "Ignoring collision with a contact point at the body center"
  | .contactWithoutNormal => "Ignoring impulse collision with a zero-length normal"
  | .reflected v => "Collision changed velocity to " ++ bracketed 3 v.toList
  | .struck j => "Impulse collision " ++ bracketed 3 j.toList ++ " applied"
  | .restored m =>
    "Out of bounds, reset to " ++ bracketed 3 m.position.toList ++ " " ++
      bracketed 3 m.velocity.toList ++ " " ++ bracketed 3 m.angularVelocity.toList

/-- The text of an event. -/
def message : Event Float → String
  | ready rotors hover most timeConstant =>
    "Aircraft ready: " ++ toString rotors ++ " rotors, hover " ++ Decimal.fixed 1 hover ++
      " rad/s, max " ++ Decimal.fixed 1 most ++ " rad/s, time constant " ++
      Decimal.fixed 4 timeConstant ++ " s"
  | mixerReady mode => "Mixer ready for " ++ mode.title ++ " control"
  | body e => bodyMessage e
  | control demand tilt =>
    "control: thrust " ++ Decimal.fixed 3 demand.thrust ++ " torque " ++
      bracketed 4 demand.torque.toList ++ " tilt (" ++ Decimal.fixed 3 tilt.roll ++ ", " ++
      Decimal.fixed 3 tilt.pitch ++ ")"
  | tick clock ticks position angles thrust =>
    "t=" ++ toString clock ++ "us tick " ++ toString ticks ++ ": pos " ++
      bracketed 3 position.toList ++ " euler " ++ bracketed 3 angles.toVec3.toList ++ " thrust " ++
      Decimal.fixed 3 thrust
  | earlyReading kind => kind.title ++ " read before the first tick"
  | reset => "Aircraft reset"

end Event

end Multirotor
