import Multirotor.Aircraft.Configuration
import Multirotor.Aircraft.Event

/-!
# Flight

An aircraft is built from a configuration and run one tick at a time.  A tick spins the rotors at the
queued duties, combines them into a wrench, moves the body, lets the instruments sample it and asks
the autopilot for the duties of the next tick.  `Aircraft.reset` puts every part back to where it
started; noise without a seed then goes on with other deviates.
-/

namespace Multirotor

/-- The clock and the switches that are handed to a tick. -/
structure TickContext where
  /-- Microseconds since the start of the simulation. -/
  time : UInt64
  /-- Weather takes effect, if the configuration uses it as well. -/
  useWeather : Bool
  /-- Every tick tells its outcome. -/
  trace : Bool
  deriving DecidableEq, Repr

/-- What an aircraft is given for one tick. -/
structure AircraftInput (α : Type) where
  /-- A duty for each rotor, for an aircraft that is flown by them. -/
  duties : Option (List α)
  /-- A pose, for an aircraft that is placed by an operator. -/
  manual : Option (Pose α)
  weather : Option (Weather α)
  target : Option (Target α)
  /-- Acts on the body in place of the rotors' wrench. -/
  wrench : Option (Wrench α)
  deriving DecidableEq, Repr

/-- An aircraft in flight. -/
structure Aircraft (α : Type) where
  config : Configuration α
  dtMicros : UInt64
  rotors : List (Rotor α)
  propulsion : Propulsion α
  body : RigidBody α
  panel : Panel α
  autopilot : Autopilot α
  /-- The duties of the next tick. -/
  duties : List α
  /-- The wrench last asked of the rotors. -/
  demand : Wrench α
  /-- Microseconds of simulated time. -/
  time : UInt64
  ticks : UInt64
  lastInput : Option (AircraftInput α)

variable {α : Type}

/-- Nothing is given. -/
def AircraftInput.none : AircraftInput α :=
  { duties := .none, manual := .none, weather := .none, target := .none, wrench := .none }

namespace Aircraft

variable [Scalar α]

/-! ### Building -/

/-- One of the rotors at rest. -/
def buildRotor (c : Configuration α) : Except (Fault α) (Rotor α) :=
  match c.battery with
  | some battery => Rotor.onBattery c.rotor battery c.maxRotorSpeed c.timeStep
  | none => Rotor.lag c.rotor c.maxRotorSpeed c.rotorTimeConstant c.timeStep

/-- The aircraft of a configuration before the first tick, with what it tells. -/
def build (c : Configuration α) (r : Randomness α) :
    Except (Fault α) (Aircraft α × List (Event α)) := do
  c.check
  let count := c.rotorCount.toNat
  let rotors ← (List.replicate count ()).mapM fun _ => buildRotor c
  let body ← RigidBody.atRest c.airframe c.bodyOptions c.attitude c.startPosition c.startAttitude
    c.timeStep
  let panel ← Panel.build c.instruments c.reference c.magneticField c.timeStep c.gravity
    c.noiseSeed r
  let mixer ← Mixer.build c.mounts c.rotor c.dutyCurve
  let aircraft : Aircraft α :=
    { config := c
      dtMicros := c.timeStepMicros
      rotors
      propulsion := .idle c.mounts c.rotor
      body, panel
      autopilot := .start c.mode c.pilot c.airframe c.maxThrust mixer c.timeStep
      duties := List.replicate rotors.length 0
      demand := 0
      time := 0
      ticks := 0
      lastInput := none }
  return (aircraft,
    [.ready count c.hoverSpeed c.maxRotorSpeed c.rotorTimeConstant, .mixerReady c.mode])

/-! ### One tick -/

/-- The state of the body in a weather. -/
def observe (a : Aircraft α) (weather : Option (Weather α)) : Observation α :=
  { position := a.body.position
    groundVelocity := a.body.groundVelocity
    bodyVelocity := a.body.velocity
    angularVelocity := a.body.angularVelocity
    angles := a.body.angles
    weather }

/-- The weather that takes effect in a tick. -/
def effectiveWeather (a : Aircraft α) (ctx : TickContext) (input : AircraftInput α) :
    Option (Weather α) :=
  if a.config.useWeather && ctx.useWeather then input.weather else none

/-- The aircraft with given duties queued; a wrong number of them is refused even by an aircraft that
does not use them. -/
def takeDuties (a : Aircraft α) (duties : Option (List α)) : Except (Fault α) (Aircraft α) :=
  match duties with
  | some duties =>
    if duties.length = a.rotors.length then
      .ok (if a.config.directDuties then { a with duties } else a)
    else .error (.dutyCount a.rotors.length duties.length)
  | none => .ok a

/-- Spins the rotors and combines them; the air is thinner at height when there is weather. -/
def spinRotors (a : Aircraft α) (weather : Option (Weather α)) : Aircraft α :=
  let rotors := (a.rotors.zip a.duties).map fun (rotor, duty) => rotor.run duty
  let atm := if weather.isSome then a.panel.pressureAtm else 1
  { a with rotors, propulsion := a.propulsion.run (rotors.map (·.spin)) atm }

/-- Asks the autopilot for the next duties, unless they are given. -/
def steer (a : Aircraft α) (o : Observation α) (target : Option (Target α)) :
    Aircraft α × List (Event α) :=
  if a.config.directDuties then (a, [])
  else
    let (output, autopilot) := a.autopilot.run o target
    ({ a with autopilot, demand := output.demand, duties := output.duties },
      [.control output.demand output.tilt])

/-- One tick of an aircraft that has its duties. -/
def fly (a : Aircraft α) (ctx : TickContext) (input : AircraftInput α) :
    Aircraft α × List (Event α) :=
  let weather := a.effectiveWeather ctx input
  let a := a.spinRotors weather
  let wrench := input.wrench.getD a.propulsion.wrench
  let (body, bodyEvents) := a.body.run { wrench, manual := input.manual, weather }
  let a := { a with body }
  let observation := a.observe weather
  let a := { a with panel := a.panel.run observation }
  let (a, controlEvents) := a.steer observation input.target
  let a :=
    { a with
      time := a.time + a.dtMicros
      ticks := a.ticks + 1
      lastInput := some input }
  let tickEvents :=
    if ctx.trace then
      [.tick ctx.time a.ticks observation.position observation.angles wrench.thrust]
    else []
  (a, bodyEvents.map .body ++ controlEvents ++ tickEvents)

/-- One tick.  When the duties are refused, nothing changes. -/
def run (a : Aircraft α) (ctx : TickContext) (input : AircraftInput α) :
    Except (Fault α) (Aircraft α × List (Event α)) :=
  (a.takeDuties input.duties).map fun a => a.fly ctx input

/-! ### Between ticks -/

/-- Queues a collision for the next tick in place of one that was not taken yet. -/
def setCollision (a : Aircraft α) (c : Collision α) : Aircraft α × List (Event α) :=
  let (body, events) := a.body.setCollision c
  ({ a with body }, events.map .body)

/-- The aircraft with every part put back. -/
def reset (a : Aircraft α) : Aircraft α × List (Event α) :=
  ({ a with
      rotors := a.rotors.map Rotor.reset
      propulsion := a.propulsion.reset
      body := a.body.reset
      panel := a.panel.reset
      autopilot := a.autopilot.reset
      duties := List.replicate a.rotors.length 0
      demand := 0
      time := 0
      ticks := 0
      lastInput := none },
    [.reset])

/-- The input of the last tick. -/
def lastInput? (a : Aircraft α) : Except (Fault α) (AircraftInput α) :=
  match a.lastInput with
  | some input => .ok input
  | none => .error .notYetRun

/-- What an instrument shows after the last tick. -/
def read? (a : Aircraft α) (kind : InstrumentKind) :
    Except (Fault α) (Reading α) × List (Event α) :=
  if a.ticks = 0 then (.error .notYetRun, [.earlyReading kind]) else (.ok (a.panel.read kind), [])

/-- Simulated time in seconds. -/
def elapsed (a : Aircraft α) : α := (a.ticks.toNat : α) * a.config.timeStep

/-- The thrust of each rotor at sea level. -/
def rotorThrusts (a : Aircraft α) : List α := a.rotors.map (·.thrust 1)

end Aircraft

end Multirotor
