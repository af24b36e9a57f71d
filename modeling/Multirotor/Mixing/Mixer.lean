import Multirotor.Mixing.Effort
import Multirotor.Rotor.Wrench

/-!
# Mixing

A demanded wrench is spread over the rotors.  Each rotor contributes in proportion to the square of
its speed, so the squared speeds solve a linear system with four rows and one column per rotor;
`Mixer.build` finds its pseudo-inverse and refuses rotors that cannot produce the four axes
independently.  `Mixer.duties` are the duties for the squared speeds, and `Mixer.saturation` tells
which limits they ran into.
-/

namespace Multirotor

/-- The duty at which a rotor keeps a speed. -/
inductive DutyCurve (α : Type) where
  /-- Speed is proportional to duty. -/
  | proportional (maxSpeed : α)
  /-- A motor on a battery. -/
  | battery (source : Battery α) (constants : RotorConstants α)
  deriving DecidableEq, Repr

/-- The limits that the last demand ran into. -/
structure Saturation where
  /-- A rotor was asked to pull backward. -/
  lower : Bool
  /-- A rotor was asked for more than full duty. -/
  upper : Bool
  deriving DecidableEq, Repr

/-- The spread of a wrench over the rotors. -/
structure Mixer (α : Type) where
  /-- For each rotor, its squared speed per unit of demand along each axis. -/
  allocation : List (Effort α)
  curve : DutyCurve α
  deriving DecidableEq, Repr

variable {α : Type} [Scalar α]

/-- The duty at which a rotor keeps `speed`. -/
def DutyCurve.duty (c : DutyCurve α) (speed : α) : α :=
  match c with
  | .proportional maxSpeed => speed / maxSpeed
  | .battery source constants => source.steadyDuty constants speed

/-- The components of a wrench along the controlled axes. -/
def Wrench.effort (w : Wrench α) : Effort α := ⟨w.thrust, w.torque.x, w.torque.y, w.torque.z⟩

namespace Mixer

/-- The least determinant of the normalized system that counts as solvable. -/
def leastDeterminant : α := 1e-9

/-- What a mounted rotor contributes per squared speed. -/
def contribution (c : RotorConstants α) (m : Mount α) : Effort α :=
  { thrust := c.thrustCoefficient
    roll := -m.position.y * c.thrustCoefficient
    pitch := m.position.x * c.thrustCoefficient
    yaw := m.ccw * c.torqueCoefficient }

/-- The greatest magnitude so far, after one more value.  The new value wins unless it is at most
the old one, so NaN takes the place of what came before it and gives way to what comes after. -/
def greater (most x : α) : α :=
  let magnitude := Scalar.abs x
  if magnitude ≤ most then most else magnitude

/-- The greatest magnitude along each axis. -/
def greatest (efforts : List (Effort α)) : Effort α :=
  efforts.foldl (fun most u => most.zipWith greater u) (.all 0)

/-- The products of the rows of the matrix whose columns are the given efforts. -/
def gram (columns : List (Effort α)) : EffortMatrix α :=
  columns.foldl EffortMatrix.addSquare .zero

/-- The inverse of the products of rows, unless the rows are close to dependent. -/
def gramInverse? (columns : List (Effort α)) : Option (EffortMatrix α) :=
  let products := gram columns
  if Scalar.abs products.determinant < leastDeterminant then none else products.inverse?

/-- The mixer of the mounted rotors.  The axes differ by orders of magnitude and are brought to a
common scale before their independence is judged; an axis without a positive scale is refused. -/
def build (mounts : List (Mount α)) (constants : RotorConstants α) (curve : DutyCurve α) :
    Except (Fault α) (Mixer α) :=
  let contributions := mounts.map (contribution constants)
  let scale := greatest contributions
  if scale.toList.any fun s => !decide (0 < s) then .error .dependentRotors
  else
    let columns := contributions.map fun u => u.zipWith (· / ·) scale
    match gramInverse? columns with
    | none => .error .dependentRotors
    | some inverse =>
      let unscale := EffortMatrix.diagonal (scale.map (1 / ·))
      .ok { allocation := columns.map fun u => unscale.rowTimes (inverse.rowTimes u), curve }

/-- The number of rotors. -/
def rotorCount (m : Mixer α) : Nat := m.allocation.length

/-- The squared speeds that produce a demand. -/
def squaredSpeeds (m : Mixer α) (demand : Wrench α) : List α :=
  m.allocation.map (·.dot demand.effort)

/-- The speeds that produce a demand; a rotor that would have to pull backward stands still. -/
def speeds (m : Mixer α) (demand : Wrench α) : List α :=
  (m.squaredSpeeds demand).map Scalar.sqrtOrZero

/-- The duties that produce a demand, before they are limited. -/
def wantedDuties (m : Mixer α) (demand : Wrench α) : List α := (m.speeds demand).map m.curve.duty

/-- The duties that produce a demand, held between zero and one. -/
def duties (m : Mixer α) (demand : Wrench α) : List α :=
  (m.wantedDuties demand).map (Scalar.clamp · 0 1)

/-- The limits that a demand runs into. -/
def saturation (m : Mixer α) (demand : Wrench α) : Saturation :=
  { lower := (m.squaredSpeeds demand).any fun u => decide (u < 0)
    upper := (m.wantedDuties demand).any fun d => decide (1 < d) }

end Mixer

end Multirotor
