import Multirotor.Scalar

/-!
# Feedback loops

A loop adds a proportional, an integral and a derivative term of its error.  The integral is bounded,
and while the output is saturated it may only move against its sign; the derivative passes a
first-order filter.  An update with a value that is not finite is ignored as a whole.
-/

namespace Multirotor

/-- The gains of a loop. -/
structure PidGains (α : Type) where
  proportional : α
  integral : α
  derivative : α
  /-- The bound on the integral term. -/
  integralMax : α
  /-- The cutoff of the filter in hertz; none for zero or less. -/
  filterHz : α
  deriving DecidableEq, Repr

/-- The terms of the last update. -/
structure PidTerms (α : Type) where
  target : α
  actual : α
  error : α
  proportional : α
  integral : α
  derivative : α
  saturated : Bool
  deriving DecidableEq, Repr

/-- A loop with its memory. -/
structure Pid (α : Type) where
  gains : PidGains α
  dt : α
  /-- No error was seen since the start. -/
  isFresh : Bool
  error : α
  /-- The filtered slope of the error. -/
  slope : α
  integrator : α
  terms : PidTerms α
  deriving DecidableEq, Repr

variable {α : Type} [Scalar α]

open Scalar

/-- How far a first-order low-pass filter moves toward its input in a step of length `dt`: all the way
without a cutoff. -/
def smoothing (dt cutoffHz : α) : α :=
  if cutoffHz ≤ 0 ∨ dt ≤ 0 then 1
  else
    let rc := 1 / (2.0 * pi * cutoffHz)
    larger (smaller (dt / (dt + rc)) 1) 0

namespace PidGains

/-- A proportional gain alone. -/
def onlyProportional (gain : α) : PidGains α :=
  { proportional := gain, integral := 0, derivative := 0, integralMax := 0, filterHz := 0 }

/-- The error itself. -/
def standard : PidGains α := onlyProportional 1

end PidGains

/-- The terms before any update. -/
def PidTerms.zero : PidTerms α :=
  { target := 0
    actual := 0
    error := 0
    proportional := 0
    integral := 0
    derivative := 0
    saturated := false }

namespace Pid

/-- A loop without memory. -/
def start (gains : PidGains α) (dt : α) : Pid α :=
  { gains, dt, isFresh := true, error := 0, slope := 0, integrator := 0, terms := .zero }

/-- Whether the integral may move: freely, or against its sign when the output is saturated. -/
def mayIntegrate (p : Pid α) (saturated : Bool) : Prop :=
  saturated = false ∨ (0 ≤ p.integrator ∧ p.error < 0) ∨ (p.integrator < 0 ∧ 0 ≤ p.error)

instance (p : Pid α) (saturated : Bool) : Decidable (p.mayIntegrate saturated) :=
  inferInstanceAs (Decidable (_ ∨ _ ∨ _))

/-- The integral term after a step. -/
def nextIntegrator (p : Pid α) (saturated : Bool) : α :=
  if p.gains.integral != 0 ∧ 0 < p.dt then
    if p.mayIntegrate saturated then
      let moved := p.integrator + p.error * p.gains.integral * p.dt
      smaller (larger moved (-p.gains.integralMax)) p.gains.integralMax
    else p.integrator
  else 0

/-- Moves the integral by the last error. -/
def integrate (p : Pid α) (saturated : Bool) : Pid α :=
  let integrator := p.nextIntegrator saturated
  { p with integrator, terms := { p.terms with integral := integrator, saturated } }

/-- Takes in an error and filters its slope; the first error has none. -/
def observe (p : Pid α) (error : α) : Pid α :=
  let slope :=
    if p.isFresh then 0
    else if 0 < p.dt then
      p.slope + smoothing p.dt p.gains.filterHz * ((error - p.error) / p.dt - p.slope)
    else p.slope
  { p with isFresh := false, error, slope }

/-- The output of the loop for a target and a measurement, with the loop after it. -/
def update (p : Pid α) (target measurement : α) (saturated : Bool) : α × Pid α :=
  if !isFinite target || !isFinite measurement then (0, p)
  else
    let p := (p.observe (target - measurement)).integrate saturated
    let proportional := p.error * p.gains.proportional
    let derivative := p.slope * p.gains.derivative
    let terms :=
      { p.terms with target, actual := measurement, error := p.error, proportional, derivative }
    (proportional + p.integrator + derivative, { p with terms })

/-- The loop without memory. -/
def reset (p : Pid α) : Pid α := start p.gains p.dt

end Pid

end Multirotor
