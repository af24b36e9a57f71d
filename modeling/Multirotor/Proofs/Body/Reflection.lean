import Multirotor.Proofs.Body.Ground

/-!
# Reflections

A body that runs into a contact has its relative velocity reflected: the part along the normal is
turned around and scaled by the restitution, the part along the surface is kept (`Vec3.reflect`).
Only the line of the normal matters.  `RigidBody.bounce` does this to a body that `Meets` the
contact, in the ground frame, and leaves any other body alone (`RigidBody.bounce_reflects`).
-/

namespace Multirotor

/-! ## Partial reflections -/

namespace Vec3

/-- The vector with its part along the unit vector `n` turned around and scaled. -/
def reflect {α : Type} [Scalar α] (v n : Vec3 α) (restitution : α) : Vec3 α :=
  v - n * ((1 + restitution) * v.dot n)

/-- The part of the vector across the unit vector `n`. -/
def tangent {α : Type} [Scalar α] (v n : Vec3 α) : Vec3 α := v - n * v.dot n

variable (v : Vec3 ℝ) {n : Vec3 ℝ} (e : ℝ)

theorem dot_reflect (hn : n.dot n = 1) : (v.reflect n e).dot n = -e * v.dot n := by
  rw [reflect, sub_dot, scale_dot, hn]
  ring

theorem tangent_reflect (hn : n.dot n = 1) : (v.reflect n e).tangent n = v.tangent n := by
  rw [tangent, dot_reflect v e hn]
  ext <;> simp [reflect, tangent] <;> ring

theorem dot_self_reflect (hn : n.dot n = 1) :
    (v.reflect n e).dot (v.reflect n e) = v.dot v - (1 - e ^ 2) * v.dot n ^ 2 := by
  have hsquare (c : ℝ) : (v - n * c).dot (v - n * c) =
      v.dot v - 2 * c * v.dot n + c ^ 2 * n.dot n := by
    simp only [dot, sub_x, sub_y, sub_z, scale_x, scale_y, scale_z]
    ring
  rw [reflect, hsquare, hn]
  ring

theorem norm_reflect_one (hn : n.dot n = 1) : (v.reflect n 1).norm = v.norm := by
  rw [norm_eq, dot_self_reflect v 1 hn, norm_eq]
  congr 1
  ring

theorem norm_reflect_le {e : ℝ} (hn : n.dot n = 1) (hlow : -1 ≤ e) (hhigh : e ≤ 1) :
    (v.reflect n e).norm ≤ v.norm := by
  have hsquare : e ^ 2 ≤ 1 := (sq_le_one_iff_abs_le_one e).2 (abs_le.2 ⟨hlow, hhigh⟩)
  rw [norm_eq, dot_self_reflect v e hn, norm_eq]
  exact Real.sqrt_le_sqrt (sub_le_self _ (mul_nonneg (sub_nonneg.2 hsquare) (sq_nonneg _)))

/-- Turning the unit vector around changes nothing. -/
theorem reflect_scale (n : Vec3 ℝ) {s : ℝ} (hs : s * s = 1) :
    v.reflect (n * s) e = v.reflect n e := by
  have hmultiple : s * ((1 + e) * (s * v.dot n)) = (1 + e) * v.dot n := by
    linear_combination (1 + e) * v.dot n * hs
  rw [reflect, dot_scale, scale_scale, hmultiple, reflect]

end Vec3

theorem Mat3.IsRotation.apply_reflect {m : Mat3 ℝ} (hm : m.IsRotation) (v n : Vec3 ℝ) (e : ℝ) :
    m.apply (v.reflect n e) = (m.apply v).reflect (m.apply n) e := by
  rw [Vec3.reflect, Mat3.apply_sub, Mat3.apply_scale, Vec3.reflect, hm.dot_apply_apply]

/-! ## Reflection at an obstacle -/

namespace Collision

variable (v : Vec3 ℝ) (e : ℝ)

theorem reflectAtWall?_of_lt {normal : Vec3 ℝ} (h : leastNormal < normal.norm) :
    reflectAtWall? v normal e = some (v.reflect (normal / normal.norm) e) := by
  rw [reflectAtWall?, Vec3.normalize?_of_lt h]
  rfl

theorem leastNormal_pos : (0 : ℝ) < leastNormal := by
  norm_num [leastNormal]

theorem sign_of_leastNormal_lt {normal : Vec3 ℝ} {k : ℝ} (hk : leastNormal < (normal * k).norm) :
    k / |k| * (k / |k|) = 1 := by
  refine Vec3.sign_mul_self ?_
  rintro rfl
  rw [Vec3.norm_scale, abs_zero, zero_mul] at hk
  exact hk.not_gt leastNormal_pos

theorem reflectAtWall?_scale (normal : Vec3 ℝ) {k : ℝ} (hk : leastNormal < (normal * k).norm) :
    reflectAtWall? v (normal * k) e = some (v.reflect (normal / normal.norm) e) := by
  rw [reflectAtWall?_of_lt v e hk, Vec3.scale_div_norm,
    Vec3.reflect_scale v e _ (sign_of_leastNormal_lt hk)]

/-- A contact point gives the normal, and which way is toward it. -/
theorem reflectAtPoint?_eq (center contact : Vec3 ℝ) :
    let normal := contact - center
    let n := normal / normal.norm
    reflectAtPoint? v center contact e =
      if normal.norm ≤ leastNormal then none
      else if 0 < v.dot n then some (v.reflect n e) else some v := by
  intro normal n
  have hunfold : reflectAtPoint? v center contact e =
      if v.dot normal ≤ 0 then (normal.normalize? leastNormal).map fun _ => v
      else reflectAtWall? v normal e := rfl
  rw [hunfold]
  by_cases hnear : normal.norm ≤ leastNormal
  · rw [if_pos hnear, reflectAtWall?, Vec3.normalize?_of_le hnear, Option.map_none, Option.map_none,
      ite_self]
  · have hfar := not_le.1 hnear
    have happroach : v.dot normal ≤ 0 ↔ ¬ 0 < v.dot n := by
      have hdot : v.dot n = v.dot normal / normal.norm := by
        rw [Vec3.dot_comm, Vec3.div_dot, Vec3.dot_comm]
      rw [hdot, div_pos_iff_of_pos_right (leastNormal_pos.trans hfar), not_lt]
    rw [if_neg hnear, Vec3.normalize?_of_lt hfar, Option.map_some, reflectAtWall?_of_lt v e hfar]
    by_cases hn : 0 < v.dot n
    · rw [if_pos hn, if_neg fun hle => happroach.1 hle hn]
    · rw [if_neg hn, if_pos (happroach.2 hn)]

end Collision

/-! ## The body -/

namespace RigidBody

section Bounce

variable (b : RigidBody ℝ) (c : Bounce ℝ)

/-- The unit vector from the body to a contact. -/
noncomputable def toward : Vec3 ℝ := (c.contact - b.position) / (c.contact - b.position).norm

/-- The contact is off the center of the body, and the body moves toward it. -/
def Meets : Prop :=
  Collision.leastNormal < (c.contact - b.position).norm ∧ 0 < c.relativeVelocity.dot (b.toward c)

end Bounce

variable {b : RigidBody ℝ} {c : Bounce ℝ}

theorem setGroundVelocity_groundVelocity (h : b.attitude.IsProper) :
    b.setGroundVelocity b.groundVelocity = b := by
  rw [setGroundVelocity, groundVelocity, h.isRotation.transpose_apply_apply]

theorem toward_dot_self (h : Collision.leastNormal < (c.contact - b.position).norm) :
    (b.toward c).dot (b.toward c) = 1 :=
  Vec3.dot_self_div_norm (Collision.leastNormal_pos.trans h)

theorem reflectAtPoint?_toward (b : RigidBody ℝ) (c : Bounce ℝ) :
    Collision.reflectAtPoint? c.relativeVelocity b.position c.contact c.restitution =
      if (c.contact - b.position).norm ≤ Collision.leastNormal then none
      else if 0 < c.relativeVelocity.dot (b.toward c) then
        some (c.relativeVelocity.reflect (b.toward c) c.restitution)
      else some c.relativeVelocity :=
  Collision.reflectAtPoint?_eq _ _ _ _

theorem bounce_of_meets (h : b.Meets c) : (b.bounce c).1 = b.setGroundVelocity
    (b.groundVelocity +
      (c.relativeVelocity.reflect (b.toward c) c.restitution - c.relativeVelocity)) := by
  have hreflect := b.reflectAtPoint?_toward c
  rw [if_neg (not_le.2 h.1), if_pos h.2] at hreflect
  simp only [bounce, hreflect]

theorem bounce_of_not_meets (hproper : b.attitude.IsProper) (h : ¬ b.Meets c) :
    (b.bounce c).1 = b := by
  have hreflect := b.reflectAtPoint?_toward c
  by_cases hnear : (c.contact - b.position).norm ≤ Collision.leastNormal
  · rw [if_pos hnear] at hreflect
    simp only [bounce, hreflect]
  · have hreceding : ¬ 0 < c.relativeVelocity.dot (b.toward c) := fun hn => h ⟨not_le.1 hnear, hn⟩
    rw [if_neg hnear, if_neg hreceding] at hreflect
    have hsame : b.groundVelocity + (c.relativeVelocity - c.relativeVelocity) =
        b.groundVelocity := by
      ext <;> simp
    simp only [bounce, hreflect, hsame]
    exact setGroundVelocity_groundVelocity hproper

/-- What the bounce adds to the velocity. -/
theorem groundVelocity_bounce_of_meets (hproper : b.attitude.IsProper) (h : b.Meets c) :
    (b.bounce c).1.groundVelocity = b.groundVelocity +
      b.toward c * (-(1 + c.restitution) * c.relativeVelocity.dot (b.toward c)) := by
  rw [bounce_of_meets h, groundVelocity_setGroundVelocity hproper]
  ext <;> simp [Vec3.reflect] <;> ring

/-- A bounce is a partial reflection and nothing else.  A body that moves toward a contact gets its
velocity relative to it reflected: the part along the unit vector to the contact is turned around
and scaled by the restitution, the part across it is kept, and no speed is gained within the range
of the restitution.  Otherwise the body stays as it is; its pose and rotation never change.  At a
wall all multiples of a normal give the same. -/
theorem bounce_reflects (hproper : b.attitude.IsProper) (c : Bounce ℝ) :
    let n := (c.contact - b.position) / (c.contact - b.position).norm
    let u := c.relativeVelocity
    let e := c.restitution
    let meets := Collision.leastNormal < (c.contact - b.position).norm ∧ 0 < u.dot n
    let after := (b.bounce c).1
    let u' := u + (after.groundVelocity - b.groundVelocity)
    (meets →
      after.groundVelocity = b.groundVelocity + n * (-(1 + e) * u.dot n) ∧
      u'.dot n = -e * u.dot n ∧ u' - n * u'.dot n = u - n * u.dot n ∧
      (e = 1 → u'.norm = u.norm) ∧ (-1 ≤ e → e ≤ 1 → u'.norm ≤ u.norm)) ∧
    (¬ meets → after = b) ∧
    after = { b with velocity := after.velocity } ∧
    ∀ (v normal : Vec3 ℝ) (k : ℝ), Collision.leastNormal < (normal * k).norm →
      Collision.reflectAtWall? v (normal * k) e =
        some (v - normal / normal.norm * ((1 + e) * v.dot (normal / normal.norm))) := by
  intro n u e meets after u'
  refine ⟨fun h => ?_, bounce_of_not_meets hproper, ?_,
    fun v normal k hk => Collision.reflectAtWall?_scale v e normal hk⟩
  · have hn : n.dot n = 1 := toward_dot_self h.1
    have hvelocity : after.groundVelocity = b.groundVelocity + n * (-(1 + e) * u.dot n) :=
      groundVelocity_bounce_of_meets hproper h
    have hu' : u' = u.reflect n e := by
      simp only [u', hvelocity]
      ext <;> simp [Vec3.reflect] <;> ring
    refine ⟨hvelocity, ?_⟩
    rw [hu']
    refine ⟨Vec3.dot_reflect u e hn, Vec3.tangent_reflect u e hn, ?_, Vec3.norm_reflect_le u hn⟩
    intro he
    rw [he]
    exact Vec3.norm_reflect_one u hn
  · by_cases h : meets
    · simp only [after, bounce_of_meets h]
      rfl
    · simp only [after, bounce_of_not_meets hproper h]

/-- A body with its nose raised runs into an obstacle west of it at a slant.  Half of the speed
toward the obstacle comes back, and the speed across is kept. -/
theorem bounce_reflects_slanted :
    let q : Quaternion ℝ := ⟨0, 3 / 5, 0, 4 / 5⟩
    let b : RigidBody ℝ :=
      { airframe :=
          { mass := 1, inertia := ⟨1, 2, 3⟩, gravity := 9.81, drag := 0, rotorRadius := 0.05 }
        options := .none
        dt := 0.01
        position := ⟨1, 2, -3⟩
        velocity := ⟨4, 5, 6⟩
        angularVelocity := ⟨7, 8, 9⟩
        acceleration := 0
        attitude := .quaternion q
        start := 0
        startAngles := 0
        pending := none }
    let c : Bounce ℝ :=
      { contact := ⟨1, 0, -3⟩, relativeVelocity := ⟨1, -4, 2⟩, restitution := 1 / 2 }
    q.normSq = 1 ∧ (b.bounce c).1.groundVelocity = b.groundVelocity + ⟨0, 6, 0⟩ ∧
      c.relativeVelocity + ((b.bounce c).1.groundVelocity - b.groundVelocity) = ⟨1, 2, 2⟩ := by
  intro q b c
  have hq : q.normSq = 1 := by norm_num [q, Quaternion.normSq]
  have hproper : b.attitude.IsProper := hq
  have hnormal : c.contact - b.position = ⟨0, -2, 0⟩ := by
    ext <;> norm_num [b, c]
  have hnorm : (c.contact - b.position).norm = 2 := by
    rw [hnormal, Vec3.norm_eq, Vec3.dot, Real.sqrt_eq_iff_mul_self_eq] <;> norm_num
  have hn : (c.contact - b.position) / (c.contact - b.position).norm = ⟨0, -1, 0⟩ := by
    rw [hnorm, hnormal]
    ext <;> norm_num
  obtain ⟨hmeets, -⟩ := bounce_reflects hproper c
  rw [hn, hnorm] at hmeets
  obtain ⟨hvelocity, -⟩ := hmeets ⟨by norm_num [Collision.leastNormal], by norm_num [c, Vec3.dot]⟩
  have hchange : (b.bounce c).1.groundVelocity = b.groundVelocity + ⟨0, 6, 0⟩ := by
    rw [hvelocity]
    congr 1
    ext <;> norm_num [c, Vec3.dot]
  refine ⟨hq, hchange, ?_⟩
  rw [hchange]
  ext <;> norm_num [c]

end RigidBody

end Multirotor
