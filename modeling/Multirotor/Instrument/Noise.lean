import Multirotor.Fault
import Multirotor.Scalar

/-!
# Noise

Normally distributed noise around zero with a given variance.  Where the deviates come from is a
parameter of whatever is built with noise: a `Randomness` says what a generator gives after a start
from a seed, always the same, and after each start from the entropy of the system.  A reset starts
the generator once more.  A variance that is not positive switches the noise off, and then there is
no generator and nothing is drawn.
-/

namespace Multirotor

variable {α : Type}

/-- Where standard normal deviates come from. -/
structure Randomness (α : Type) where
  /-- The deviates after a start from a seed, in the order in which they are drawn. -/
  seeded : UInt64 → Nat → α
  /-- The deviates after each start of each noise from the entropy of the system. -/
  unseeded : Nat → Nat → Nat → α

namespace Randomness

/-- What is left for the noises from the `n`-th on. -/
def drop (r : Randomness α) (n : Nat) : Randomness α :=
  { r with unseeded := fun noise => r.unseeded (n + noise) }

/-- What is left after every noise has started once. -/
def later (r : Randomness α) : Randomness α :=
  { r with unseeded := fun noise start => r.unseeded noise (start + 1) }

end Randomness

/-- A generator of normal deviates around zero. -/
structure Generator (α : Type) where
  /-- The standard deviation. -/
  deviation : α
  /-- The standard normal deviates of this start and of every later one. -/
  starts : Nat → Nat → α
  /-- How many of this start were drawn. -/
  drawn : Nat

namespace Generator

/-- The generator of the first noise.  With a seed every start is the same. -/
def start (r : Randomness α) (deviation : α) : Option UInt64 → Generator α
  | some seed => { deviation, starts := fun _ => r.seeded seed, drawn := 0 }
  | none => { deviation, starts := r.unseeded 0, drawn := 0 }

/-- The generator after its next start. -/
def restart (g : Generator α) : Generator α :=
  { g with starts := fun n => g.starts (n + 1), drawn := 0 }

/-- The next deviate. -/
def next [Mul α] (g : Generator α) : α × Generator α :=
  (g.deviation * g.starts 0 g.drawn, { g with drawn := g.drawn + 1 })

end Generator

/-- A source of noise. -/
structure Noise (α : Type) where
  variance : α
  seed : Option UInt64
  /-- None when the noise is off. -/
  generator : Option (Generator α)

namespace Noise

variable [Scalar α]

/-- The standard deviation that a variance asks for; none when it switches the noise off. -/
def deviation? (variance : α) : Except (Fault α) (Option α) :=
  if 0 < variance then
    let deviation : α := Scalar.sqrt variance
    if Scalar.isFinite deviation then .ok (some deviation) else .error .unboundedNoise
  else .ok none

/-- The noise of a variance and a seed, the first one of `r`. -/
def build (variance : α) (seed : Option UInt64) (r : Randomness α) :
    Except (Fault α) (Noise α) := do
  let deviation ← deviation? variance
  .ok { variance, seed, generator := deviation.map fun deviation => .start r deviation seed }

/-- Noise that adds nothing. -/
def off : Noise α := { variance := 0, seed := none, generator := none }

/-- Whether the noise is on. -/
def isEnabled (n : Noise α) : Bool := n.generator.isSome

/-- A value with noise added. -/
def perturb (n : Noise α) (x : α) : α × Noise α :=
  match n.generator with
  | some g =>
    let (deviate, g) := g.next
    (x + deviate, { n with generator := some g })
  | none => (x, n)

/-- The noise after its next start. -/
def reset (n : Noise α) : Noise α := { n with generator := n.generator.map .restart }

end Noise

/-! ### One way to have deviates -/

namespace Randomness

/-- A bijective scrambling of a word. -/
def scramble (z : UInt64) : UInt64 :=
  let z := (z ^^^ (z >>> 30)) * 0xbf58476d1ce4e5b9
  let z := (z ^^^ (z >>> 27)) * 0x94d049bb133111eb
  z ^^^ (z >>> 31)

variable [Scalar α]

/-- A word of the stream of a seed as a number above zero and up to one. -/
def unit (seed : UInt64) (n : Nat) : α :=
  let word := scramble (scramble seed + (n + 1).toUInt64 * 0x9e3779b97f4a7c15)
  (((word >>> 11).toNat + 1 : Nat) : α) / 9007199254740992.0

/-- Deviates by the transform of Box and Muller from a stream of scrambled words, where the system
hands out seeds.  Nothing is proved of it: it lets the library run by itself, and examples be given. -/
def boxMuller (entropy : Nat → Nat → UInt64) : Randomness α :=
  let deviate (seed : UInt64) (n : Nat) : α :=
    Scalar.sqrt (-2.0 * Scalar.log (unit seed (2 * n))) *
      Scalar.cos (2.0 * Scalar.pi * unit seed (2 * n + 1))
  { seeded := deviate, unseeded := fun noise start => deviate (entropy noise start) }

end Randomness

end Multirotor
