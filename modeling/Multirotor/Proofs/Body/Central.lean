import Multirotor.Proofs.Body.Impulse
import Multirotor.Proofs.Body.Reflection

/-!
# Central hits

A body can be hit in two ways: `RigidBody.bounce` reflects its relative velocity in the ground
frame, `RigidBody.strike` gives it an impulse in its own frame.  The two are meant for different
obstacles and decide in different ways whether the body approaches.  When the contact lies straight
in the direction of the normal and the target stands fast, the impulse has no moment about the center
and reflects the velocity (`RigidBody.strike_of_central`), and both are the same
(`RigidBody.strike_eq_bounce`).
-/

namespace Multirotor

theorem Vec3.scale_cross_scale (d : Vec3 ℝ) (s t : ℝ) : (d * s).cross (d * t) = 0 := by
  ext <;> simp <;> ring

theorem Vec3.dot_self_of_norm {d : Vec3 ℝ} (h : d.norm = 1) : d.dot d = 1 := by
  rw [← Real.mul_self_sqrt d.dot_self_nonneg, ← norm_eq, h, one_mul]

/-! ## Impulses through the center -/

namespace Collider

variable {c : Collider ℝ} {d : Vec3 ℝ} {s : ℝ} (h : c.contactVector = d * s)

include h

/-- The spin moves such a contact across the direction only. -/
theorem contactVelocity_dot_of_central : c.contactVelocity.dot d = c.velocity.dot d := by
  rw [contactVelocity, h]
  simp only [Vec3.dot, Vec3.add_x, Vec3.add_y, Vec3.add_z, Vec3.cross_x, Vec3.cross_y, Vec3.cross_z,
    Vec3.scale_x, Vec3.scale_y, Vec3.scale_z]
  ring

theorem inverseMassAlong_of_central : c.inverseMassAlong d = 1 / c.mass := by
  have hcross : c.contactVector.cross d = 0 := by
    rw [h]
    ext <;> simp <;> ring
  rw [inverseMassAlong_eq, hcross, Vec3.zero_dot, add_zero]

theorem push_of_central (j : ℝ) :
    c.push (d * j) = { c with velocity := c.velocity + d * (j / c.mass) } := by
  have hvelocity : Collision.velocityChange (d * j) c.mass = d * (j / c.mass) := by
    ext <;> simp [Collision.velocityChange, mul_div_assoc]
  have hspin : c.angularVelocity +
      Collision.angularVelocityChange (d * j) c.contactVector c.inverseInertia =
        c.angularVelocity := by
    rw [Collision.angularVelocityChange, h, Vec3.scale_cross_scale, Mat3.apply_zero, Vec3.add_zero]
  rw [push, hvelocity, hspin]

end Collider

namespace Contact

variable {c : Contact ℝ} {d : Vec3 ℝ} {s : ℝ}

/-- Unless the body already moves away, its velocity is reflected off the fixed target. -/
theorem push_impulseAlong_of_central (hd : d.dot d = 1) (hcontact : c.body.contactVector = d * s)
    (hfixed : c.target = none) (hmass : 0 < c.body.mass) (restitution : ℝ) :
    c.body.push (c.impulseAlong restitution d) =
      if Collision.leastNormal < |s| ∧ c.body.velocity.dot d * s ≤ 0 then c.body
      else { c.body with velocity := c.body.velocity.reflect d restitution } := by
  have hparting : c.parting d = c.body.velocity.dot d := by
    rw [parting, hfixed, Option.map_none, Option.getD_none, Vec3.sub_dot, Vec3.zero_dot, sub_zero,
      Collider.contactVelocity_dot_of_central hcontact]
  have hinverse : c.inverseMass d = 1 / c.body.mass := by
    rw [inverseMass, hfixed, Collider.inverseMassAlong_of_central hcontact, add_zero]
  have hside : c.body.contactVector.dot d = s := by
    rw [hcontact, Vec3.scale_dot, hd, mul_one]
  have hseparating : c.IsSeparating d ↔
      Collision.leastNormal < |s| ∧ c.body.velocity.dot d * s ≤ 0 := by
    rw [IsSeparating, hparting, hside, Scalar.abs_real]
  by_cases h : c.IsSeparating d
  · have hzero : (0 : Vec3 ℝ) = d * (0 : ℝ) := by ext <;> simp
    rw [impulseAlong, if_pos h, if_pos (hseparating.1 h), hzero,
      Collider.push_of_central hcontact, zero_div, ← hzero, Vec3.add_zero]
  · have hreflect : c.body.velocity +
        d * (-(1 + restitution) * c.body.velocity.dot d / (1 / c.body.mass) / c.body.mass) =
          c.body.velocity.reflect d restitution := by
      have hm := hmass.ne'
      ext <;> simp [Vec3.reflect] <;> field_simp <;> ring
    rw [impulseAlong, if_neg h, if_neg (mt hseparating.2 h), hparting, hinverse,
      Collider.push_of_central hcontact, hreflect]

end Contact

/-! ## The body -/

namespace RigidBody

variable {b : RigidBody ℝ} {S : Strike ℝ} {d : Vec3 ℝ} {s : ℝ}

theorem strike_of_central (hmass : 0 < b.airframe.mass) (hstatic : S.isTargetStatic = true)
    (hd : d.dot d = 1) (hcontact : S.contactVector = d * s)
    (hlong : Collision.leastNormal < S.normal.norm) {σ : ℝ} (hσ : σ * σ = 1)
    (hunit : S.normal / S.normal.norm = d * σ) :
    (b.strike S).1 =
      if Collision.leastNormal < |s| ∧ b.velocity.dot d * s ≤ 0 then b
      else { b with velocity := b.velocity.reflect d S.restitution } := by
  have hfixed : (b.contact S).target = none := by
    simp [contact, Strike.target?, hstatic]
  have himpulse := (b.contact S).impulse?_eq hlong S.restitution
  rw [hunit, Contact.impulseAlong_scale _ _ _ hσ] at himpulse
  have hpush := Contact.push_impulseAlong_of_central (c := b.contact S) hd hcontact hfixed hmass
    S.restitution
  have hpushed :
      (b.collider S.contactVector).push ((b.contact S).impulseAlong S.restitution d) = _ := hpush
  rw [strike_eq_push himpulse, hpushed]
  have hvelocity : (b.contact S).body.velocity = b.velocity := rfl
  rw [hvelocity]
  split_ifs <;> rfl

/-- Without a lever arm the impulse acts on the velocity as a wall with the same normal does. -/
theorem strike_of_centered (hmass : 0 < b.airframe.mass) (hstatic : S.isTargetStatic = true)
    (hcontact : S.contactVector = 0) :
    let reflected := Collision.reflectAtWall? b.velocity S.normal S.restitution
    (b.strike S).1 = { b with velocity := reflected.getD b.velocity } ∧
      ((b.strike S).2 = [.contactWithoutNormal] ↔ reflected = none) := by
  intro reflected
  by_cases hshort : S.normal.norm ≤ Collision.leastNormal
  · have hnormal := Vec3.normalize?_of_le hshort
    simp [reflected, strike, Collider.impulse?, Collision.reflectAtWall?, hnormal]
  · have hlong := not_le.1 hshort
    have hreflected :
        reflected = some (b.velocity.reflect (S.normal / S.normal.norm) S.restitution) :=
      Collision.reflectAtWall?_of_lt _ _ hlong
    have hd := Vec3.dot_self_div_norm (Collision.leastNormal_pos.trans hlong)
    have harm : S.contactVector = S.normal / S.normal.norm * (0 : ℝ) := by
      rw [hcontact]
      ext <;> simp
    have hsame : S.normal / S.normal.norm = S.normal / S.normal.norm * (1 : ℝ) := by
      ext <;> simp
    have hside : ¬ (Collision.leastNormal : ℝ) < |0| := by
      rw [abs_zero]
      exact Collision.leastNormal_pos.not_gt
    constructor
    · rw [strike_of_central hmass hstatic hd harm hlong (one_mul 1) hsame,
        if_neg fun h => hside h.1, hreflected, Option.getD_some]
    · rw [strike_eq_push ((b.contact S).impulse?_eq hlong S.restitution), hreflected]
      simp

/-- A bounce off a point straight in a direction of the body frame, met with the velocity over
ground. -/
theorem bounce_of_central (hproper : b.attitude.IsProper) (hd : d.norm = 1)
    (hs : Collision.leastNormal < s) (restitution : ℝ) :
    (b.bounce
        { contact := b.position + b.attitude.rotation.apply (d * s)
          relativeVelocity := b.groundVelocity
          restitution }).1 =
      if b.velocity.dot d ≤ 0 then b
      else { b with velocity := b.velocity.reflect d restitution } := by
  set R := b.attitude.rotation
  have hR : R.IsRotation := hproper.isRotation
  set c : Bounce ℝ :=
    { contact := b.position + R.apply (d * s), relativeVelocity := b.groundVelocity, restitution }
  have hpos : 0 < s := Collision.leastNormal_pos.trans hs
  have hnormal : c.contact - b.position = R.apply d * s := by
    rw [← Mat3.apply_scale]
    ext <;> simp [c]
  have hnorm : (c.contact - b.position).norm = s := by
    rw [hnormal, Vec3.norm_scale, hR.norm_apply, hd, mul_one, abs_of_pos hpos]
  have htoward : b.toward c = R.apply d := by
    rw [toward, hnorm, hnormal]
    ext <;> simp [hpos.ne']
  have hmeets : b.Meets c ↔ 0 < b.velocity.dot d := by
    have hdot : c.relativeVelocity.dot (b.toward c) = b.velocity.dot d := by
      rw [htoward]
      exact hR.dot_apply_apply _ _
    rw [Meets, hnorm, hdot]
    exact and_iff_right hs
  by_cases h : 0 < b.velocity.dot d
  · have hreflect : b.groundVelocity + (c.relativeVelocity.reflect (R.apply d) restitution -
        c.relativeVelocity) = R.apply (b.velocity.reflect d restitution) := by
      rw [hR.apply_reflect]
      ext <;> simp [c, groundVelocity, R]
    rw [if_neg (not_le.2 h), bounce_of_meets (hmeets.2 h), htoward]
    change b.setGroundVelocity (b.groundVelocity + (c.relativeVelocity.reflect (R.apply d)
      restitution - c.relativeVelocity)) = _
    rw [hreflect, setGroundVelocity, hR.transpose_apply_apply]
  · rw [if_pos (not_lt.1 h), bounce_of_not_meets hproper (mt hmeets.1 h)]

/-- The two kinds of collision agree on central hits.  When the contact lies straight in a direction
of the body frame, at a distance, and the normal is a multiple of the direction, a strike on a fixed
target does to the body what a bounce does off the same point met with the velocity over ground; the
rotation does not change.  Without a lever arm the strike is a reflection at a wall with its
normal. -/
theorem strike_eq_bounce (hproper : b.attitude.IsProper) (hmass : 0 < b.airframe.mass)
    (hstatic : S.isTargetStatic = true) :
    (∀ (d : Vec3 ℝ) (s k : ℝ), d.norm = 1 → Collision.leastNormal < s →
      Collision.leastNormal < (d * k).norm → S.contactVector = d * s → S.normal = d * k →
      let c : Bounce ℝ :=
        { contact := b.position + b.attitude.rotation.apply (d * s)
          relativeVelocity := b.groundVelocity
          restitution := S.restitution }
      (b.strike S).1 = (b.bounce c).1 ∧
      (b.strike S).1.groundVelocity = (b.bounce c).1.groundVelocity ∧
      (b.strike S).1.angularVelocity = b.angularVelocity) ∧
    (S.contactVector = 0 →
      let reflected := Collision.reflectAtWall? b.velocity S.normal S.restitution
      (b.strike S).1 = { b with velocity := reflected.getD b.velocity } ∧
        ((b.strike S).2 = [.contactWithoutNormal] ↔ reflected = none)) := by
  refine ⟨fun d s k hd hs hk hcontact hnormal => ?_, strike_of_centered hmass hstatic⟩
  intro c
  have hpos : 0 < s := Collision.leastNormal_pos.trans hs
  have hunit : S.normal / S.normal.norm = d * (k / |k|) := by
    have hself : d / d.norm = d := by
      rw [hd]
      ext <;> simp
    rw [hnormal, Vec3.scale_div_norm, hself]
  have hstrike := strike_of_central hmass hstatic (Vec3.dot_self_of_norm hd) hcontact
    (hnormal ▸ hk) (Collision.sign_of_leastNormal_lt hk) hunit
  have hrecede : (Collision.leastNormal < |s| ∧ b.velocity.dot d * s ≤ 0) ↔
      b.velocity.dot d ≤ 0 := by
    rw [abs_of_pos hpos, and_iff_right hs, ← not_lt, mul_pos_iff_of_pos_right hpos, not_lt]
  have hsame : (b.strike S).1 = (b.bounce c).1 := by
    rw [hstrike, bounce_of_central hproper hd hs, if_congr hrecede rfl rfl]
  refine ⟨hsame, by rw [hsame], ?_⟩
  rw [hstrike]
  split_ifs <;> rfl

/-- A body with its nose raised runs into an obstacle ahead of it, below and to its right, while it
tumbles.  The normal points back at the body, and half of the speed comes back. -/
theorem strike_eq_bounce_tumbling :
    let q : Quaternion ℝ := ⟨0, 3 / 5, 0, 4 / 5⟩
    let b : RigidBody ℝ :=
      { airframe :=
          { mass := 2, inertia := ⟨1, 2, 3⟩, gravity := 9.81, drag := 0, rotorRadius := 0.05 }
        options := .none
        dt := 0.01
        position := ⟨1, 2, -3⟩
        velocity := ⟨3, 0, 0⟩
        angularVelocity := ⟨7, 8, 9⟩
        acceleration := 0
        attitude := .quaternion q
        start := 0
        startAngles := 0
        pending := none }
    let S : Strike ℝ :=
      { isTargetStatic := true
        restitution := 1 / 2
        contactVector := ⟨2, 1, 2⟩
        normal := ⟨-4 / 3, -2 / 3, -4 / 3⟩
        targetContactVector := 0
        targetVelocity := 0
        targetAngularVelocity := 0
        targetAngles := 0
        targetInertia := ⟨1, 1, 1⟩
        targetMass := 1 }
    let c : Bounce ℝ :=
      { contact := b.position + b.attitude.rotation.apply ⟨2, 1, 2⟩
        relativeVelocity := b.groundVelocity
        restitution := 1 / 2 }
    q.normSq = 1 ∧ (b.strike S).1 = (b.bounce c).1 ∧ (b.strike S).1.velocity = ⟨1, -1, -2⟩ ∧
      (b.strike S).1.angularVelocity = ⟨7, 8, 9⟩ := by
  intro q b S c
  have hq : q.normSq = 1 := by norm_num [q, Quaternion.normSq]
  have hproper : b.attitude.IsProper := hq
  set d : Vec3 ℝ := ⟨2 / 3, 1 / 3, 2 / 3⟩
  have hd : d.norm = 1 := by
    rw [Vec3.norm_eq, Vec3.dot, Real.sqrt_eq_one]
    norm_num [d]
  have hcontact : S.contactVector = d * (3 : ℝ) := by
    ext <;> norm_num [S, d]
  have hnormal : S.normal = d * (-2 : ℝ) := by
    ext <;> norm_num [S, d]
  have hs : (Collision.leastNormal : ℝ) < 3 := by norm_num [Collision.leastNormal]
  have hk : Collision.leastNormal < (d * (-2 : ℝ)).norm := by
    rw [Vec3.norm_scale, hd]
    norm_num [Collision.leastNormal]
  have hcenter : c = { contact := b.position + b.attitude.rotation.apply (d * (3 : ℝ))
                       relativeVelocity := b.groundVelocity
                       restitution := S.restitution } := by
    rw [← hcontact]
  obtain ⟨hsame, -, hspin⟩ := (strike_eq_bounce hproper (by norm_num [b]) (S := S) rfl).1 d 3 (-2)
    hd hs hk hcontact hnormal
  rw [← hcenter] at hsame
  refine ⟨hq, hsame, ?_, hspin⟩
  have hdot : b.velocity.dot d = 2 := by norm_num [b, d, Vec3.dot]
  rw [hsame, hcenter, bounce_of_central hproper hd hs, if_neg (by rw [hdot]; norm_num)]
  ext <;> norm_num [Vec3.reflect, hdot]

end RigidBody

end Multirotor
