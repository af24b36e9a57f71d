import Mathlib.Analysis.Calculus.Deriv.Inv
import Mathlib.Analysis.Calculus.Deriv.Prod
import Mathlib.Analysis.SpecialFunctions.Trigonometric.Bounds
import Mathlib.Analysis.SpecialFunctions.Trigonometric.Deriv
import Mathlib.Topology.Algebra.Module.ModuleTopology
import Multirotor.Proofs.Space.Angle
import Multirotor.Proofs.Space.Rotation
import Multirotor.Space.Attitude

/-!
# Kinematics

A body that turns at `w` in its own frame changes its rotation `R` at the rate `R * skew w`.  Both
representations of an attitude follow this law: Euler angles through the derivatives that
`Euler.rateOfTurn?` finds for them, quaternions through `Quaternion.rateOfTurn` and the return to
the unit sphere.  Hence a step of one and a step of the other from the same rotation differ by less
than any multiple of a short timestep (`Attitude.isLittleO_advance_sub`).
-/

namespace Multirotor

open Asymptotics Topology

/-! ## Matrices that depend on time -/

namespace Mat3

/-- The matrix of the cross product with `w`. -/
def skew {α : Type} [Scalar α] (w : Vec3 α) : Mat3 α :=
  ⟨⟨0, -w.z, w.y⟩, ⟨w.z, 0, -w.x⟩, ⟨-w.y, w.x, 0⟩⟩

theorem apply_skew (w v : Vec3 ℝ) : (skew w).apply v = w.cross v := by
  ext <;> simp only [skew, apply, Vec3.dot, Vec3.cross] <;> ring

/-- The entries by row and column. -/
def entries (m : Mat3 ℝ) : Fin 3 → Fin 3 → ℝ :=
  ![![m.r1.x, m.r1.y, m.r1.z], ![m.r2.x, m.r2.y, m.r2.z], ![m.r3.x, m.r3.y, m.r3.z]]

theorem entries_mul (m n : Mat3 ℝ) (i j : Fin 3) :
    (m * n).entries i j = ∑ k, m.entries i k * n.entries k j := by
  fin_cases i <;> fin_cases j <;>
    simp [entries, mul_eq, apply, transpose, Vec3.dot, Fin.sum_univ_three, mul_comm]

variable {f : ℝ → Mat3 ℝ} {f' : Mat3 ℝ} {t : ℝ}

theorem hasDerivAt_entries_iff : HasDerivAt (fun t => (f t).entries) f'.entries t ↔
    ∀ i j, HasDerivAt (fun t => (f t).entries i j) (f'.entries i j) t := by
  simp only [hasDerivAt_pi]

theorem hasDerivAt_mul_left (m : Mat3 ℝ) (h : HasDerivAt (fun t => (f t).entries) f'.entries t) :
    HasDerivAt (fun t => (m * f t).entries) (m * f').entries t := by
  rw [hasDerivAt_entries_iff] at h ⊢
  intro i j
  simp only [entries_mul]
  exact HasDerivAt.fun_sum fun k _ => (h k j).const_mul (m.entries i k)

end Mat3

/-! ## Euler angles -/

namespace Euler

/-- The angles after the time `t` at constant derivatives. -/
def drift {α : Type} [Scalar α] (e rate : Euler α) (t : α) : Euler α :=
  ofVec3 (e.toVec3 + rate.toVec3 * t)

theorem drift_zero (e rate : Euler ℝ) : e.drift rate 0 = e := by
  simp [drift, ofVec3, toVec3]

/-- A step brings the angles back by full turns, which the rotation does not see. -/
theorem rotation_advance (e rate : Euler ℝ) (dt : ℝ) :
    (e.advance rate dt).rotation = (e.drift rate dt).rotation := by
  simp only [rotation, advance, Scalar.sin_real, Scalar.cos_real, sin_wrapAngle, cos_wrapAngle]
  rfl

theorem hasDerivAt_rotation_drift (e rate : Euler ℝ) :
    HasDerivAt (fun t => (e.drift rate t).rotation.entries)
      (e.rotation * Mat3.skew (e.turnOfRate rate)).entries 0 := by
  have line (a r : ℝ) : HasDerivAt (fun t => a + r * t) r 0 := by
    simpa using ((hasDerivAt_id (0 : ℝ)).const_mul r).const_add a
  have hsin (a r : ℝ) : HasDerivAt (fun t => Real.sin (a + r * t)) (Real.cos a * r) 0 := by
    simpa using (line a r).sin
  have hcos (a r : ℝ) : HasDerivAt (fun t => Real.cos (a + r * t)) (-Real.sin a * r) 0 := by
    simpa using (line a r).cos
  have hsr := hsin e.roll rate.roll
  have hcr := hcos e.roll rate.roll
  have hsp := hsin e.pitch rate.pitch
  have hcp := hcos e.pitch rate.pitch
  have hsy := hsin e.yaw rate.yaw
  have hcy := hcos e.yaw rate.yaw
  have hroll := Real.sin_sq_add_cos_sq e.roll
  have hpitch := Real.sin_sq_add_cos_sq e.pitch
  rw [Mat3.hasDerivAt_entries_iff]
  intro i j
  -- The entries row by row, each a sum of products of the six functions above.
  fin_cases i <;> fin_cases j <;>
    [refine (hcy.mul hcp).congr_deriv ?_;
     refine (((hcy.mul hsp).mul hsr).sub (hsy.mul hcr)).congr_deriv ?_;
     refine (((hcy.mul hsp).mul hcr).add (hsy.mul hsr)).congr_deriv ?_;
     refine (hsy.mul hcp).congr_deriv ?_;
     refine (((hsy.mul hsp).mul hsr).add (hcy.mul hcr)).congr_deriv ?_;
     refine (((hsy.mul hsp).mul hcr).sub (hcy.mul hsr)).congr_deriv ?_;
     refine hsp.neg.congr_deriv ?_;
     refine (hcp.mul hsr).congr_deriv ?_;
     refine (hcp.mul hcr).congr_deriv ?_] <;>
    simp [Mat3.entries, Mat3.skew, rotation, turnOfRate, Mat3.mul_eq, Mat3.apply, Mat3.transpose,
      Vec3.dot] <;>
    grind

theorem cos_pitch_ne_zero_of_le {e : Euler ℝ} (h : Scalar.epsilon ≤ |Real.cos e.pitch|) :
    Real.cos e.pitch ≠ 0 := by
  intro h0
  rw [h0, abs_zero, Scalar.epsilon_real] at h
  norm_num at h

/-- Away from the vertical the angles have derivatives, and these amount to the given turn. -/
theorem exists_rateOfTurn {e : Euler ℝ} (h : Scalar.epsilon ≤ |Real.cos e.pitch|) (w : Vec3 ℝ) :
    ∃ rate, e.rateOfTurn? w = some rate ∧ e.turnOfRate rate = w := by
  have hcp := cos_pitch_ne_zero_of_le h
  have hroll := Real.sin_sq_add_cos_sq e.roll
  refine ⟨_, if_neg (not_lt.2 h), ?_⟩
  simp only [turnOfRate, Scalar.sin_real, Scalar.cos_real]
  ext
  · field_simp
    ring
  · field_simp
    grind
  · field_simp
    grind

end Euler

/-! ## Quaternions -/

namespace Quaternion

/-- The matrix of a quaternion that is brought to unit length. -/
theorem entries_rotation_normalize {q : Quaternion ℝ} (h : 0 < q.normSq) (i j : Fin 3) :
    q.normalize.rotation.entries i j = q.rotation.entries i j / q.normSq := by
  have hnorm : q.norm * q.norm = q.normSq := by rw [norm_eq, Real.mul_self_sqrt h.le]
  have hne : q.norm ≠ 0 := fun h0 => h.ne' (by rw [← hnorm, h0, mul_zero])
  rw [← hnorm]
  fin_cases i <;> fin_cases j <;> simp [Mat3.entries, rotation, normalize] <;> field_simp

theorem hasDerivAt_quadratic_div (a b c : ℝ) {d : ℝ} :
    HasDerivAt (fun t : ℝ => (a + b * t + c * t ^ 2) / (1 + d * t ^ 2)) b 0 := by
  have hid := hasDerivAt_id (0 : ℝ)
  have hnum := ((hid.const_mul b).const_add a).add ((hid.pow 2).const_mul c)
  have hden := ((hid.pow 2).const_mul d).const_add 1
  refine (hnum.div hden (by simp)).congr_deriv ?_
  simp

/-- Before it is brought to unit length, a step is the identity and the cross product with `w` in
first order. -/
theorem entries_rotation_unscaled (w : Vec3 ℝ) (t : ℝ) (i j : Fin 3) :
    (⟨w.x * (t * 0.5), w.y * (t * 0.5), w.z * (t * 0.5), 1⟩ : Quaternion ℝ).rotation.entries i j =
      (Mat3.diagonal (.all 1)).entries i j + (Mat3.skew w).entries i j * t +
        (ofVec3 (w * (1 / 2 : ℝ))).rotation.entries i j * t ^ 2 := by
  fin_cases i <;> fin_cases j <;>
    simp [Mat3.entries, Mat3.skew, Mat3.diagonal, Vec3.all, rotation, ofVec3] <;> ring

theorem hasDerivAt_rotation_step (w : Vec3 ℝ) :
    HasDerivAt (fun t => (step w t).rotation.entries) (Mat3.skew w).entries 0 := by
  have hnorm (t : ℝ) : (⟨w.x * (t * 0.5), w.y * (t * 0.5), w.z * (t * 0.5), 1⟩ : Quaternion ℝ).normSq =
      1 + (w.x ^ 2 + w.y ^ 2 + w.z ^ 2) / 4 * t ^ 2 := by
    simp only [normSq]
    ring
  have hpos (t : ℝ) : 0 < 1 + (w.x ^ 2 + w.y ^ 2 + w.z ^ 2) / 4 * t ^ 2 := by positivity
  rw [Mat3.hasDerivAt_entries_iff]
  intro i j
  simp only [step, entries_rotation_normalize (lt_of_lt_of_eq (hpos _) (hnorm _).symm), hnorm,
    entries_rotation_unscaled]
  exact hasDerivAt_quadratic_div _ _ _

/-- A step of a unit quaternion turns its matrix in its own frame. -/
theorem hasDerivAt_rotation_advance {q : Quaternion ℝ} (h : q.normSq = 1) (w : Vec3 ℝ) :
    HasDerivAt (fun t => (q.advance w t).rotation.entries)
      (q.rotation * Mat3.skew w).entries 0 := by
  simp only [advance_eq_mul h, rotation_mul]
  exact Mat3.hasDerivAt_mul_left _ (hasDerivAt_rotation_step w)

end Quaternion

/-! ## Attitudes of either kind -/

namespace Attitude

/-- The attitude follows the angular velocity: Euler angles are away from the vertical, where their
derivatives exist, and a quaternion is a unit one. -/
def IsRegular : Attitude ℝ → Prop
  | euler e => Scalar.epsilon ≤ |Real.cos e.pitch|
  | quaternion q => q.normSq = 1

variable {a b : Attitude ℝ}

theorem hasDerivAt_rotation_advance (h : a.IsRegular) (w : Vec3 ℝ) :
    HasDerivAt (fun t => (a.advance w t).rotation.entries)
      (a.rotation * Mat3.skew w).entries 0 := by
  cases a with
  | euler e =>
    obtain ⟨rate, hrate, hturn⟩ := Euler.exists_rateOfTurn h w
    simp only [advance, hrate, rotation, Euler.rotation_advance]
    rw [← hturn]
    exact e.hasDerivAt_rotation_drift rate
  | quaternion q => exact Quaternion.hasDerivAt_rotation_advance h w

theorem rotation_advance_zero (h : a.IsRegular) (w : Vec3 ℝ) :
    (a.advance w 0).rotation = a.rotation := by
  cases a with
  | euler e =>
    obtain ⟨rate, hrate, -⟩ := Euler.exists_rateOfTurn h w
    simp only [advance, hrate, rotation, Euler.rotation_advance, Euler.drift_zero]
  | quaternion q =>
    have hstep : Quaternion.step w 0 = ⟨0, 0, 0, 1⟩ := by
      simp [Quaternion.step, Quaternion.normalize, Quaternion.norm]
    change (q.advance w 0).rotation = q.rotation
    rw [Quaternion.advance_eq_mul h, hstep]
    congr 1
    ext <;> simp [Quaternion.mul_eq, Quaternion.mul]

/-- Steps from one rotation agree to first order, whatever the representations. -/
theorem isLittleO_advance_sub (ha : a.IsRegular) (hb : b.IsRegular) (h : a.rotation = b.rotation)
    (w : Vec3 ℝ) :
    (fun dt => (a.advance w dt).rotation.entries - (b.advance w dt).rotation.entries) =o[𝓝 0]
      fun dt => dt := by
  have hderiv := (hasDerivAt_rotation_advance ha w).sub (hasDerivAt_rotation_advance hb w)
  rw [h, sub_self, hasDerivAt_iff_isLittleO_nhds_zero] at hderiv
  simpa [rotation_advance_zero ha, rotation_advance_zero hb, h] using hderiv

/-- Euler angles away from the vertical and unit quaternions follow the same kinematics, so that a
step of one and a step of the other from one rotation agree to first order. -/
theorem integrators_agree (w : Vec3 ℝ) :
    (∀ e : Euler ℝ, Scalar.epsilon ≤ |Real.cos e.pitch| →
      ∃ rate, e.rateOfTurn? w = some rate ∧
        HasDerivAt (fun t => (e.drift rate t).rotation.entries)
          (e.rotation * Mat3.skew w).entries 0) ∧
    (∀ q : Quaternion ℝ, q.normSq = 1 →
      HasDerivAt (fun t : ℝ => (q + q.rateOfTurn w * t).normalize.rotation.entries)
        (q.rotation * Mat3.skew w).entries 0) ∧
    ∀ a b : Attitude ℝ, a.IsRegular → b.IsRegular → a.rotation = b.rotation →
      (fun dt => (a.advance w dt).rotation.entries - (b.advance w dt).rotation.entries) =o[𝓝 0]
        fun dt => dt := by
  refine ⟨fun e he => ?_, fun q hq => Quaternion.hasDerivAt_rotation_advance hq w,
    fun a b ha hb h => isLittleO_advance_sub ha hb h w⟩
  obtain ⟨rate, hrate, hturn⟩ := Euler.exists_rateOfTurn he w
  refine ⟨rate, hrate, ?_⟩
  rw [← hturn]
  exact e.hasDerivAt_rotation_drift rate

/-- A tumbling body: a step of its angles and a step of their quaternion. -/
theorem integrators_agree_tumbling :
    let w : Vec3 ℝ := ⟨1, 2, 3⟩
    let e : Euler ℝ := ⟨0.3, 1, -2⟩
    Scalar.epsilon ≤ |Real.cos e.pitch| ∧
      (fun dt => (advance (.euler e) w dt).rotation.entries -
        (advance (.quaternion (.ofEuler e)) w dt).rotation.entries) =o[𝓝 0] fun dt => dt := by
  intro w e
  have hpitch : Scalar.epsilon ≤ |Real.cos e.pitch| := by
    have hcos := Real.one_sub_sq_div_two_le_cos (x := e.pitch)
    refine le_trans ?_ (le_abs_self _)
    refine le_trans ?_ hcos
    norm_num [Scalar.epsilon, e]
  exact ⟨hpitch, (integrators_agree w).2.2 (.euler e) (.quaternion (.ofEuler e)) hpitch
    (Quaternion.normSq_ofEuler e) (Quaternion.rotation_ofEuler e).symm⟩

end Attitude

end Multirotor
