import Mathlib.Tactic.FieldSimp
import Multirotor.Body.Rigid
import Multirotor.Proofs.Space.Rotation

/-!
# Impulses between two bodies

The impulse of a contact acts on the body, and its opposite on the target unless that stands fast.
Here the laws of such a contact are proved: the contact points part at the restitution times the
speed at which they met, momentum and angular momentum are kept, and the kinetic energy falls by
what the restitution takes.  They rest on `Collider.HasInertia`: the inverse inertia of a body
belongs to a symmetric and positive inertia, which rotating it into the frame of the other body
keeps.
-/

namespace Multirotor

/-! ## Inertia -/

/-- Every component is positive. -/
def Vec3.IsPositive (v : Vec3 ℝ) : Prop := 0 < v.x ∧ 0 < v.y ∧ 0 < v.z

namespace Mat3

/-- A symmetric and positive matrix. -/
structure IsInertia (m : Mat3 ℝ) : Prop where
  symmetric : m.transpose = m
  positive (v : Vec3 ℝ) : v ≠ 0 → 0 < v.dot (m.apply v)

theorem IsInertia.nonneg {m : Mat3 ℝ} (h : m.IsInertia) (v : Vec3 ℝ) : 0 ≤ v.dot (m.apply v) := by
  by_cases hv : v = 0
  · rw [hv, Vec3.zero_dot]
  · exact (h.positive v hv).le

theorem IsInertia.dot_apply_comm {m : Mat3 ℝ} (h : m.IsInertia) (u v : Vec3 ℝ) :
    u.dot (m.apply v) = v.dot (m.apply u) := by
  rw [dot_apply, h.symmetric, Vec3.dot_comm]

theorem isInertia_diagonal {v : Vec3 ℝ} (hv : v.IsPositive) : (diagonal v).IsInertia where
  symmetric := rfl
  positive u hu := by
    obtain ⟨hx, hy, hz⟩ := hv
    have hsq : ∀ {a : ℝ}, 0 < a → ∀ x : ℝ, 0 ≤ x * (a * x) := fun ha x => by
      rw [mul_left_comm]
      exact mul_nonneg ha.le (mul_self_nonneg x)
    have hpos : ∀ {a x : ℝ}, 0 < a → x ≠ 0 → 0 < x * (a * x) := fun ha hx => by
      rw [mul_left_comm]
      exact mul_pos ha (mul_self_pos.2 hx)
    have hne : u.x ≠ 0 ∨ u.y ≠ 0 ∨ u.z ≠ 0 := by
      by_contra h
      push Not at h
      exact hu (Vec3.ext h.1 h.2.1 h.2.2)
    rw [apply_diagonal]
    simp only [Vec3.dot, Vec3.mul, Vec3.zipWith]
    rcases hne with h | h | h
    · linarith [hpos hx h, hsq hy u.y, hsq hz u.z]
    · linarith [hpos hy h, hsq hx u.x, hsq hz u.z]
    · linarith [hpos hz h, hsq hx u.x, hsq hy u.y]

/-- The inertia of a body that is turned. -/
theorem IsInertia.rotated {m r : Mat3 ℝ} (hm : m.IsInertia) (hr : r.IsRotation) :
    (r * m * r.transpose).IsInertia where
  symmetric := by
    rw [transpose_mul, transpose_mul, transpose_transpose, hm.symmetric, Mat3.mul_assoc]
  positive v hv := by
    rw [apply_mul, apply_mul, dot_apply]
    exact hm.positive _ (hr.transpose_apply_ne_zero hv)

theorem IsRotation.rotated_inverse {m m' r : Mat3 ℝ} (hr : r.IsRotation)
    (h : ∀ v, m.apply (m'.apply v) = v) (v : Vec3 ℝ) :
    (r * m * r.transpose).apply ((r * m' * r.transpose).apply v) = v := by
  rw [apply_mul, apply_mul, apply_mul, apply_mul, hr.transpose_apply_apply, h,
    hr.apply_transpose_apply]

end Mat3

namespace Collider

/-- `inertia` is what the inverse inertia of the body is inverse to. -/
structure HasInertia (c : Collider ℝ) (inertia : Mat3 ℝ) : Prop where
  mass_pos : 0 < c.mass
  isInertia : inertia.IsInertia
  inverse (v : Vec3 ℝ) : inertia.apply (c.inverseInertia.apply v) = v

/-! ## One body under an impulse -/

section Motion

variable {α : Type} [Scalar α]

/-- The body after an impulse at the contact. -/
def push (c : Collider α) (impulse : Vec3 α) : Collider α :=
  { c with
    velocity := c.velocity + Collision.velocityChange impulse c.mass
    angularVelocity := c.angularVelocity +
      Collision.angularVelocityChange impulse c.contactVector c.inverseInertia }

/-- Linear momentum. -/
def momentum (c : Collider α) : Vec3 α := c.velocity * c.mass

/-- Angular momentum about the contact. -/
def angularMomentum (c : Collider α) (inertia : Mat3 α) : Vec3 α :=
  inertia.apply c.angularVelocity - c.contactVector.cross c.momentum

/-- Kinetic energy of the motion and of the rotation. -/
def kineticEnergy (c : Collider α) (inertia : Mat3 α) : α :=
  c.mass * c.velocity.dot c.velocity / 2.0 +
    c.angularVelocity.dot (inertia.apply c.angularVelocity) / 2.0

end Motion

variable {c : Collider ℝ} {inertia : Mat3 ℝ}

theorem inverseMassAlong_eq (c : Collider ℝ) (n : Vec3 ℝ) : c.inverseMassAlong n =
    1 / c.mass +
      (c.contactVector.cross n).dot (c.inverseInertia.apply (c.contactVector.cross n)) := by
  rw [inverseMassAlong, Vec3.dot_cross, Vec3.dot_comm]

theorem inverseMassAlong_scale (c : Collider ℝ) (n : Vec3 ℝ) {s : ℝ} (hs : s * s = 1) :
    c.inverseMassAlong (n * s) = c.inverseMassAlong n := by
  rw [inverseMassAlong_eq, inverseMassAlong_eq, Vec3.cross_scale, Mat3.apply_scale, Vec3.dot_scale,
    Vec3.scale_dot, ← mul_assoc, hs, one_mul]

theorem inverseMassAlong_pos (h : c.HasInertia inertia) (n : Vec3 ℝ) :
    0 < c.inverseMassAlong n := by
  have hrotation := h.isInertia.nonneg (c.inverseInertia.apply (c.contactVector.cross n))
  rw [h.inverse, Vec3.dot_comm] at hrotation
  rw [inverseMassAlong_eq]
  have hmass : 0 < 1 / c.mass := one_div_pos.2 h.mass_pos
  linarith

/-- An impulse along `n` changes the velocity of the contact point by the inverse mass along `n`. -/
theorem contactVelocity_push (c : Collider ℝ) {n : Vec3 ℝ} (hn : n.dot n = 1) (j : ℝ) :
    (c.push (n * j)).contactVelocity.dot n =
      c.contactVelocity.dot n + j * c.inverseMassAlong n := by
  rw [inverseMassAlong_eq]
  simp only [contactVelocity, push, Collision.velocityChange, Collision.angularVelocityChange,
    Vec3.cross_scale, Mat3.apply_scale]
  generalize c.inverseInertia.apply (c.contactVector.cross n) = turn
  simp only [Vec3.dot, Vec3.add_x, Vec3.add_y, Vec3.add_z, Vec3.scale_x, Vec3.scale_y,
    Vec3.scale_z, Vec3.div_x, Vec3.div_y, Vec3.div_z, Vec3.cross_x, Vec3.cross_y,
    Vec3.cross_z] at hn ⊢
  linear_combination j / c.mass * hn

theorem momentum_push (h : c.HasInertia inertia) (impulse : Vec3 ℝ) :
    (c.push impulse).momentum = c.momentum + impulse := by
  have hm := h.mass_pos.ne'
  ext <;> simp [momentum, push, Collision.velocityChange] <;> field_simp

/-- The impulse has no moment about the contact. -/
theorem angularMomentum_push (h : c.HasInertia inertia) (impulse : Vec3 ℝ) :
    (c.push impulse).angularMomentum inertia = c.angularMomentum inertia := by
  rw [angularMomentum, momentum_push h, angularMomentum]
  simp only [push, Collision.angularVelocityChange, Mat3.apply_add, h.inverse]
  ext <;> simp <;> ring

/-- The work of an impulse along `n`. -/
theorem kineticEnergy_push (h : c.HasInertia inertia) {n : Vec3 ℝ} (hn : n.dot n = 1) (j : ℝ) :
    (c.push (n * j)).kineticEnergy inertia = c.kineticEnergy inertia +
      j * c.contactVelocity.dot n + j * j * c.inverseMassAlong n / 2 := by
  let w := c.contactVector.cross n
  let turn := c.inverseInertia.apply w
  have hmotion : c.mass * (c.velocity + n * j / c.mass).dot (c.velocity + n * j / c.mass) =
      c.mass * c.velocity.dot c.velocity + 2 * j * c.velocity.dot n + j * j / c.mass := by
    have hm := h.mass_pos.ne'
    simp only [Vec3.dot, Vec3.add_x, Vec3.add_y, Vec3.add_z, Vec3.scale_x, Vec3.scale_y,
      Vec3.scale_z, Vec3.div_x, Vec3.div_y, Vec3.div_z] at hn ⊢
    field_simp
    linear_combination j ^ 2 * hn
  have hrotation : (c.angularVelocity + turn * j).dot
      (inertia.apply (c.angularVelocity + turn * j)) =
        c.angularVelocity.dot (inertia.apply c.angularVelocity) + 2 * j * c.angularVelocity.dot w +
          j * j * w.dot turn := by
    -- The mixed terms are equal because the inertia is symmetric.
    have hsymm : turn.dot (inertia.apply c.angularVelocity) = c.angularVelocity.dot w := by
      rw [h.isInertia.dot_apply_comm, h.inverse]
    rw [Mat3.apply_add, Mat3.apply_scale, h.inverse, Vec3.add_dot, Vec3.dot_add, Vec3.dot_add,
      Vec3.dot_scale, Vec3.scale_dot, Vec3.scale_dot, Vec3.dot_scale, hsymm, Vec3.dot_comm turn w]
    ring
  have hcontact : c.contactVelocity.dot n = c.velocity.dot n + c.angularVelocity.dot w := by
    rw [contactVelocity, Vec3.add_dot, Vec3.dot_comm (Vec3.cross _ _), Vec3.dot_cross]
  rw [inverseMassAlong_eq, hcontact]
  simp only [kineticEnergy, push, Collision.velocityChange, Collision.angularVelocityChange,
    Vec3.cross_scale, Mat3.apply_scale, Scalar.two_real]
  rw [hmotion, hrotation]
  ring

end Collider

/-! ## Two bodies -/

/-- Two bodies that meet, each with its inertia; a target that stands fast takes no part. -/
structure Contact (α : Type) where
  body : Collider α
  inertia : Mat3 α
  target : Option (Collider α)
  targetInertia : Mat3 α

namespace Contact

section Motion

variable {α : Type} [Scalar α]

/-- The speed along `n` at which the contact points part. -/
def parting (c : Contact α) (n : Vec3 α) : α :=
  (c.body.contactVelocity - (c.target.map Collider.contactVelocity).getD 0).dot n

/-- What an impulse along `n` changes of that speed, per unit of impulse. -/
def inverseMass (c : Contact α) (n : Vec3 α) : α :=
  c.body.inverseMassAlong n +
    (match c.target with
      | some t => t.inverseMassAlong n
      | none => 0)

/-- The contact is judged to separate already. -/
def IsSeparating (c : Contact α) (n : Vec3 α) : Prop :=
  Collision.leastNormal < Scalar.abs (c.body.contactVector.dot n) ∧
    c.parting n * c.body.contactVector.dot n ≤ 0

instance (c : Contact α) (n : Vec3 α) : Decidable (c.IsSeparating n) :=
  inferInstanceAs (Decidable (_ ∧ _))

/-- The two bodies after an impulse on the body and its opposite on the target. -/
def push (c : Contact α) (impulse : Vec3 α) : Contact α :=
  { c with body := c.body.push impulse, target := c.target.map (·.push (-impulse)) }

/-- Momentum of both bodies. -/
def momentum (c : Contact α) : Vec3 α :=
  c.body.momentum + (c.target.map Collider.momentum).getD 0

/-- Angular momentum of both bodies about the contact. -/
def angularMomentum (c : Contact α) : Vec3 α :=
  c.body.angularMomentum c.inertia +
    (c.target.map (·.angularMomentum c.targetInertia)).getD 0

/-- Kinetic energy of both bodies. -/
def kineticEnergy (c : Contact α) : α :=
  c.body.kineticEnergy c.inertia + (c.target.map (·.kineticEnergy c.targetInertia)).getD 0

end Motion

/-- Both bodies have the inertia that is given for them. -/
structure IsSolid (c : Contact ℝ) : Prop where
  body : c.body.HasInertia c.inertia
  target : ∀ t ∈ c.target, t.HasInertia c.targetInertia

variable {c : Contact ℝ} {n : Vec3 ℝ}

theorem inverseMass_pos (h : c.IsSolid) (n : Vec3 ℝ) : 0 < c.inverseMass n := by
  obtain ⟨body, inertia, target, targetInertia⟩ := c
  have hbody := Collider.inverseMassAlong_pos h.body n
  cases target with
  | none => simpa [inverseMass] using hbody
  | some t => exact add_pos hbody (Collider.inverseMassAlong_pos (h.target t rfl) n)

theorem parting_push (c : Contact ℝ) (hn : n.dot n = 1) (j : ℝ) :
    (c.push (n * j)).parting n = c.parting n + j * c.inverseMass n := by
  obtain ⟨body, inertia, target, targetInertia⟩ := c
  have hbody := Collider.contactVelocity_push body hn j
  cases target with
  | none =>
    simp only [parting, push, inverseMass, Option.map_none, Option.getD_none, Vec3.sub_dot, hbody]
    ring
  | some t =>
    have htarget := Collider.contactVelocity_push t hn (-j)
    simp only [parting, push, inverseMass, Option.map_some, Option.getD_some, Vec3.sub_dot, hbody,
      Vec3.neg_scale, htarget]
    ring

/-- What the body gains the target loses. -/
theorem momentum_push (h : c.IsSolid) (ht : c.target.isSome) (impulse : Vec3 ℝ) :
    (c.push impulse).momentum = c.momentum := by
  obtain ⟨body, inertia, target, targetInertia⟩ := c
  obtain ⟨t, rfl⟩ := Option.isSome_iff_exists.1 ht
  simp only [momentum, push, Option.map_some, Option.getD_some, Collider.momentum_push h.body,
    Collider.momentum_push (h.target t rfl)]
  ext <;> simp <;> ring

theorem angularMomentum_push (h : c.IsSolid) (impulse : Vec3 ℝ) :
    (c.push impulse).angularMomentum = c.angularMomentum := by
  obtain ⟨body, inertia, target, targetInertia⟩ := c
  have hbody := Collider.angularMomentum_push h.body impulse
  cases target with
  | none => simp only [angularMomentum, push, Option.map_none, hbody]
  | some t =>
    have htarget := Collider.angularMomentum_push (h.target t rfl) (-impulse)
    simp only [angularMomentum, push, Option.map_some, Option.getD_some, hbody, htarget]

theorem kineticEnergy_push (h : c.IsSolid) (hn : n.dot n = 1) (j : ℝ) :
    (c.push (n * j)).kineticEnergy =
      c.kineticEnergy + j * c.parting n + j * j * c.inverseMass n / 2 := by
  obtain ⟨body, inertia, target, targetInertia⟩ := c
  have hbody := Collider.kineticEnergy_push h.body hn j
  cases target with
  | none =>
    simp only [kineticEnergy, push, parting, inverseMass, Option.map_none, Option.getD_none,
      Vec3.sub_dot, Vec3.zero_dot, hbody]
    ring
  | some t =>
    have htarget := Collider.kineticEnergy_push (h.target t rfl) hn (-j)
    simp only [kineticEnergy, push, parting, inverseMass, Option.map_some, Option.getD_some,
      Vec3.sub_dot, Vec3.neg_scale, hbody, htarget]
    ring

/-! ### The impulse that is computed -/

/-- The impulse on the body along the unit vector `n`. -/
noncomputable def impulseAlong (c : Contact ℝ) (restitution : ℝ) (n : Vec3 ℝ) : Vec3 ℝ :=
  if c.IsSeparating n then 0
  else n * (-(1 + restitution) * c.parting n / c.inverseMass n)

theorem impulse?_eq (c : Contact ℝ) {normal : Vec3 ℝ} (h : Collision.leastNormal < normal.norm)
    (restitution : ℝ) : c.body.impulse? c.target normal restitution =
      some (c.impulseAlong restitution (normal / normal.norm)) := by
  rw [Collider.impulse?, Vec3.normalize?_of_lt h]
  rfl

/-- Turning the unit vector around changes nothing. -/
theorem impulseAlong_scale (c : Contact ℝ) (restitution : ℝ) (n : Vec3 ℝ) {s : ℝ} (hs : s * s = 1) :
    c.impulseAlong restitution (n * s) = c.impulseAlong restitution n := by
  have hparting : c.parting (n * s) = s * c.parting n := Vec3.dot_scale _ _ _
  have hmass : c.inverseMass (n * s) = c.inverseMass n := by
    unfold inverseMass
    rw [Collider.inverseMassAlong_scale _ _ hs]
    cases c.target with
    | none => rfl
    | some t => simp only [Collider.inverseMassAlong_scale _ _ hs]
  have habs : |s| = 1 := by
    rw [← Real.sqrt_mul_self_eq_abs, hs, Real.sqrt_one]
  have hseparating : c.IsSeparating (n * s) ↔ c.IsSeparating n := by
    have hside : s * c.parting n * (s * c.body.contactVector.dot n) =
        c.parting n * c.body.contactVector.dot n := by
      linear_combination c.parting n * c.body.contactVector.dot n * hs
    unfold IsSeparating
    rw [hparting, Vec3.dot_scale, hside, Scalar.abs_real, abs_mul, habs, one_mul, Scalar.abs_real]
  unfold impulseAlong
  by_cases h : c.IsSeparating n
  · rw [if_pos h, if_pos (hseparating.2 h)]
  · rw [if_neg h, if_neg (mt hseparating.1 h), hparting, hmass, Vec3.scale_scale]
    congr 1
    calc s * (-(1 + restitution) * (s * c.parting n) / c.inverseMass n)
        = s * s * (-(1 + restitution) * c.parting n / c.inverseMass n) := by ring
      _ = -(1 + restitution) * c.parting n / c.inverseMass n := by rw [hs, one_mul]

theorem impulse?_scale (c : Contact ℝ) {normal : Vec3 ℝ} (h : Collision.leastNormal < normal.norm)
    {k : ℝ} (hk : k ≠ 0) (hlong : Collision.leastNormal < (normal * k).norm) (restitution : ℝ) :
    c.body.impulse? c.target (normal * k) restitution =
      c.body.impulse? c.target normal restitution := by
  rw [impulse?_eq c hlong, impulse?_eq c h, Vec3.scale_div_norm,
    impulseAlong_scale c _ _ (Vec3.sign_mul_self hk)]

theorem parting_impulseAlong (h : c.IsSolid) (hn : n.dot n = 1) (hc : ¬ c.IsSeparating n)
    (restitution : ℝ) :
    (c.push (c.impulseAlong restitution n)).parting n = -restitution * c.parting n := by
  have hK := (inverseMass_pos h n).ne'
  rw [impulseAlong, if_neg hc, parting_push c hn]
  field_simp
  ring

theorem kineticEnergy_impulseAlong (h : c.IsSolid) (hn : n.dot n = 1) (hc : ¬ c.IsSeparating n)
    (restitution : ℝ) :
    (c.push (c.impulseAlong restitution n)).kineticEnergy - c.kineticEnergy =
      -(1 - restitution ^ 2) * c.parting n ^ 2 / (2 * c.inverseMass n) := by
  have hK := (inverseMass_pos h n).ne'
  rw [impulseAlong, if_neg hc, kineticEnergy_push h hn]
  field_simp
  ring

end Contact

theorem Collision.diagonal_inverseDiagonal {inertia : Vec3 ℝ} (h : inertia.IsPositive)
    (v : Vec3 ℝ) : (Mat3.diagonal inertia).apply ((inverseDiagonal inertia).apply v) = v := by
  obtain ⟨hx, hy, hz⟩ := h
  rw [inverseDiagonal, Mat3.apply_diagonal, Mat3.apply_diagonal]
  ext <;> simp only [Vec3.mul, Vec3.zipWith, Vec3.map] <;> field_simp

/-! ## The impulse of a strike -/

namespace RigidBody

/-- The body and the target of a strike in the frame of the body. -/
def contact {α : Type} [Scalar α] (b : RigidBody α) (s : Strike α) : Contact α :=
  let relative := b.angles.rotation.transpose * s.targetAngles.rotation
  { body := b.collider s.contactVector
    inertia := .diagonal b.airframe.inertia
    target := s.target? b.angles
    targetInertia := relative * .diagonal s.targetInertia * relative.transpose }

variable {b : RigidBody ℝ} {s : Strike ℝ}

theorem isSolid_contact (hmass : 0 < b.airframe.mass) (hinertia : b.airframe.inertia.IsPositive)
    (htarget : s.isTargetStatic = false → 0 < s.targetMass ∧ s.targetInertia.IsPositive) :
    (b.contact s).IsSolid where
  body :=
    { mass_pos := hmass
      isInertia := Mat3.isInertia_diagonal hinertia
      inverse := Collision.diagonal_inverseDiagonal hinertia }
  target t ht := by
    have hrelative : (b.angles.rotation.transpose * s.targetAngles.rotation).IsRotation :=
      b.angles.isRotation_rotation.transpose.mul s.targetAngles.isRotation_rotation
    cases hstatic : s.isTargetStatic with
    | true => simp [contact, Strike.target?, hstatic] at ht
    | false =>
      obtain ⟨hm, hi⟩ := htarget hstatic
      obtain rfl : _ = t := by simpa [contact, Strike.target?, hstatic] using ht
      exact ⟨hm, (Mat3.isInertia_diagonal hi).rotated hrelative,
        hrelative.rotated_inverse (Collision.diagonal_inverseDiagonal hi)⟩

theorem strike_eq_push {J : Vec3 ℝ}
    (h : (b.collider s.contactVector).impulse? (s.target? b.angles) s.normal
      s.restitution = some J) :
    let pushed := (b.collider s.contactVector).push J
    b.strike s =
      ({ b with velocity := pushed.velocity, angularVelocity := pushed.angularVelocity },
        [.struck J]) := by
  simp only [strike, h]
  rfl

/-- The laws of a strike between a body and a target, either of which may turn.  The denominator of
the impulse is positive.  Unless the contact points already separate, the impulse makes them part at
the restitution times the speed at which they met, keeps the momentum and the angular momentum about
the contact and takes the energy that belongs to the restitution.  Only the line of the normal
matters. -/
theorem strike_laws (hmass : 0 < b.airframe.mass) (hinertia : b.airframe.inertia.IsPositive)
    (htarget : s.isTargetStatic = false → 0 < s.targetMass ∧ s.targetInertia.IsPositive)
    (hn : Collision.leastNormal < s.normal.norm) :
    let c := b.contact s
    let n := s.normal / s.normal.norm
    let e := s.restitution
    let v := c.parting n
    let K := c.inverseMass n
    0 < K ∧ ∃ J, c.body.impulse? c.target s.normal e = some J ∧
      (b.strike s).1.collider s.contactVector = (c.push J).body ∧
      (c.IsSeparating n → J = 0) ∧
      (¬ c.IsSeparating n →
        (c.push J).parting n = -e * v ∧
        (s.isTargetStatic = false → (c.push J).momentum = c.momentum) ∧
        (c.push J).angularMomentum = c.angularMomentum ∧
        (c.push J).kineticEnergy - c.kineticEnergy = -(1 - e ^ 2) * v ^ 2 / (2 * K) ∧
        (0 ≤ e → e ≤ 1 → (c.push J).kineticEnergy ≤ c.kineticEnergy)) ∧
      ∀ k : ℝ, k ≠ 0 → Collision.leastNormal < (s.normal * k).norm →
        c.body.impulse? c.target (s.normal * k) e = some J := by
  intro c n e v K
  have hsolid := isSolid_contact hmass hinertia htarget
  have hunit : n.dot n = 1 :=
    Vec3.dot_self_div_norm (lt_trans (by norm_num [Collision.leastNormal]) hn)
  have hK : 0 < K := Contact.inverseMass_pos hsolid n
  have himpulse := c.impulse?_eq hn e
  refine ⟨hK, c.impulseAlong e n, himpulse, ?_, fun h => if_pos h, fun h => ?_,
    fun k hk hlong => ?_⟩
  · rw [strike_eq_push himpulse]
    rfl
  · have henergy := Contact.kineticEnergy_impulseAlong hsolid hunit h e
    refine ⟨Contact.parting_impulseAlong hsolid hunit h e, fun ht => ?_,
      Contact.angularMomentum_push hsolid _, henergy, fun h0 h1 => ?_⟩
    · exact Contact.momentum_push hsolid (by simp [contact, Strike.target?, ht]) _
    · have hloss : 0 ≤ (1 - e ^ 2) * v ^ 2 / (2 * K) :=
        div_nonneg (mul_nonneg (by nlinarith) (sq_nonneg v)) (by linarith)
      have hsame : -(1 - e ^ 2) * v ^ 2 / (2 * K) = -((1 - e ^ 2) * v ^ 2 / (2 * K)) := by ring
      rw [hsame] at henergy
      linarith
  · rw [c.impulse?_scale hn hk hlong, himpulse]

/-- A body that runs into a turned target, off its center, and loses half of the speed. -/
theorem strike_laws_oblique :
    let b : RigidBody ℝ :=
      { airframe :=
          { mass := 1, inertia := ⟨1, 2, 3⟩, gravity := 0, drag := { linear := 0, quadratic := 0 }
            rotorRadius := 0 }
        options := .none
        dt := 1
        position := 0
        velocity := ⟨3, 0, 0⟩
        angularVelocity := 0
        acceleration := 0
        attitude := .euler 0
        start := 0
        startAngles := 0
        pending := none }
    let s : Strike ℝ :=
      { isTargetStatic := false
        restitution := 1 / 2
        contactVector := ⟨1, 1, 0⟩
        normal := ⟨1, 0, 0⟩
        targetContactVector := ⟨-1, 0, 1⟩
        targetVelocity := ⟨-1, 0, 0⟩
        targetAngularVelocity := 0
        targetAngles := ⟨0.1, 0.2, 0.3⟩
        targetInertia := ⟨3, 2, 1⟩
        targetMass := 2 }
    ∃ J, (b.contact s).body.impulse? (b.contact s).target s.normal s.restitution = some J ∧
      ((b.contact s).push J).parting ⟨1, 0, 0⟩ = -2 ∧
      ((b.contact s).push J).momentum = ⟨1, 0, 0⟩ := by
  intro b s
  have hnorm : s.normal.norm = 1 := by simp [s, Vec3.norm, Vec3.dot]
  have hunit : s.normal / s.normal.norm = ⟨1, 0, 0⟩ := by
    rw [hnorm]
    ext <;> simp [s]
  have hparting : (b.contact s).parting ⟨1, 0, 0⟩ = 4 := by
    simp [b, s, contact, collider, Strike.target?, Contact.parting, Collider.contactVelocity,
      Vec3.dot]
    norm_num
  have hmeet : ¬ (b.contact s).IsSeparating ⟨1, 0, 0⟩ := by
    rintro ⟨-, h⟩
    rw [hparting] at h
    simp [contact, collider, s, Vec3.dot] at h
    linarith
  obtain ⟨-, J, hJ, -, -, hlaws, -⟩ := strike_laws (b := b) (s := s) (by norm_num [b])
    (by norm_num [b, Vec3.IsPositive]) (fun _ => by norm_num [s, Vec3.IsPositive])
    (by rw [hnorm]; norm_num [Collision.leastNormal])
  rw [hunit] at hlaws
  obtain ⟨hpart, hmomentum, -⟩ := hlaws hmeet
  refine ⟨J, hJ, ?_, ?_⟩
  · rw [hpart, hparting]
    norm_num [s]
  · rw [hmomentum rfl]
    ext <;> simp [b, s, contact, collider, Strike.target?, Contact.momentum, Collider.momentum]
    norm_num

end RigidBody

end Multirotor
