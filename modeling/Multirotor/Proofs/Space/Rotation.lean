import Multirotor.Fault
import Multirotor.Proofs.Space.Vector
import Multirotor.Space.Attitude

/-!
# Rotations

A rotation keeps inner products and orientation: its matrix is orthonormal with determinant one.
The matrices of Euler angles and of unit quaternions are rotations.
-/

namespace Multirotor

namespace Mat3

/-- An orthonormal matrix with determinant one. -/
structure IsRotation (m : Mat3 ℝ) : Prop where
  transpose_mul_self : m.transpose * m = diagonal (.all 1)
  mul_transpose_self : m * m.transpose = diagonal (.all 1)
  determinant : m.determinant = 1

namespace IsRotation

variable {m n : Mat3 ℝ} (hm : m.IsRotation) (hn : n.IsRotation)

include hm

theorem transpose_apply_apply (v : Vec3 ℝ) : m.transpose.apply (m.apply v) = v := by
  rw [← apply_mul, hm.transpose_mul_self, apply_diagonal]
  ext <;> exact one_mul _

theorem apply_transpose_apply (v : Vec3 ℝ) : m.apply (m.transpose.apply v) = v := by
  rw [← apply_mul, hm.mul_transpose_self, apply_diagonal]
  ext <;> exact one_mul _

theorem dot_apply_apply (u v : Vec3 ℝ) : (m.apply u).dot (m.apply v) = u.dot v := by
  rw [Mat3.dot_apply, hm.transpose_apply_apply]

theorem norm_apply (v : Vec3 ℝ) : (m.apply v).norm = v.norm := by
  rw [Vec3.norm_eq, hm.dot_apply_apply, Vec3.norm_eq]

theorem transpose_apply_ne_zero {v : Vec3 ℝ} (hv : v ≠ 0) : m.transpose.apply v ≠ 0 := by
  intro h
  apply hv
  rw [← hm.apply_transpose_apply v, h, apply_zero]

theorem transpose : m.transpose.IsRotation where
  transpose_mul_self := hm.mul_transpose_self
  mul_transpose_self := hm.transpose_mul_self
  determinant := by rw [determinant_transpose, hm.determinant]

include hn in
theorem mul : (m * n).IsRotation where
  transpose_mul_self := by
    rw [Mat3.transpose_mul, Mat3.mul_assoc, ← Mat3.mul_assoc m.transpose, hm.transpose_mul_self,
      diagonal_one_mul, hn.transpose_mul_self]
  mul_transpose_self := by
    rw [Mat3.transpose_mul, Mat3.mul_assoc, ← Mat3.mul_assoc n, hn.mul_transpose_self,
      diagonal_one_mul, hm.mul_transpose_self]
  determinant := by rw [determinant_mul, hm.determinant, hn.determinant, one_mul]

end IsRotation

end Mat3

/-! ## Euler angles -/

/-- The rotation about an axis. -/
noncomputable def Axis.turn (axis : Axis) (angle : ℝ) : Mat3 ℝ :=
  let s := Real.sin angle
  let c := Real.cos angle
  match axis with
  | x => ⟨⟨1, 0, 0⟩, ⟨0, c, -s⟩, ⟨0, s, c⟩⟩
  | y => ⟨⟨c, 0, s⟩, ⟨0, 1, 0⟩, ⟨-s, 0, c⟩⟩
  | z => ⟨⟨c, -s, 0⟩, ⟨s, c, 0⟩, ⟨0, 0, 1⟩⟩

theorem Axis.isRotation_turn (axis : Axis) (angle : ℝ) : (axis.turn angle).IsRotation := by
  have h := Real.sin_sq_add_cos_sq angle
  constructor
  · cases axis <;> ext <;> simp [turn, Mat3.mul_eq, Mat3.apply, Mat3.transpose, Mat3.diagonal,
      Vec3.dot, Vec3.all] <;> linarith
  · cases axis <;> ext <;> simp [turn, Mat3.mul_eq, Mat3.apply, Mat3.transpose, Mat3.diagonal,
      Vec3.dot, Vec3.all] <;> linarith
  · cases axis <;> simp [turn, Mat3.determinant, Vec3.dot] <;> linarith

/-- Turns about one axis add up. -/
theorem Axis.turn_add (axis : Axis) (x y : ℝ) : axis.turn (x + y) = axis.turn x * axis.turn y := by
  cases axis <;> ext <;> simp [turn, Mat3.mul_eq, Mat3.apply, Mat3.transpose, Vec3.dot,
    Real.cos_add, Real.sin_add] <;> ring

namespace Euler

/-- Yaw about down, then pitch about right, then roll about forward. -/
theorem rotation_eq_mul (e : Euler ℝ) :
    e.rotation = Axis.z.turn e.yaw * (Axis.y.turn e.pitch * Axis.x.turn e.roll) := by
  ext <;> simp [rotation, Axis.turn, Mat3.mul_eq, Mat3.apply, Mat3.transpose, Vec3.dot] <;> ring

/-- The matrix of Euler angles is a rotation, whatever the angles. -/
theorem isRotation_rotation (e : Euler ℝ) : e.rotation.IsRotation := by
  rw [rotation_eq_mul]
  exact (Axis.isRotation_turn _ _).mul ((Axis.isRotation_turn _ _).mul (Axis.isRotation_turn _ _))

end Euler

/-! ## Quaternions -/

namespace Quaternion

attribute [ext] Quaternion

/-! ### The matrix -/

/-- The sum of the squares. -/
def normSq (q : Quaternion ℝ) : ℝ := q.i * q.i + q.j * q.j + q.k * q.k + q.w * q.w

theorem transpose_mul_rotation (q : Quaternion ℝ) :
    q.rotation.transpose * q.rotation = .diagonal (.all (q.normSq * q.normSq)) := by
  ext <;> simp only [rotation, normSq, Scalar.two_real, Mat3.mul_eq, Mat3.apply, Mat3.transpose,
    Mat3.diagonal, Vec3.dot, Vec3.all] <;> ring

theorem rotation_mul_transpose (q : Quaternion ℝ) :
    q.rotation * q.rotation.transpose = .diagonal (.all (q.normSq * q.normSq)) := by
  ext <;> simp only [rotation, normSq, Scalar.two_real, Mat3.mul_eq, Mat3.apply, Mat3.transpose,
    Mat3.diagonal, Vec3.dot, Vec3.all] <;> ring

theorem determinant_rotation (q : Quaternion ℝ) :
    q.rotation.determinant = q.normSq * q.normSq * q.normSq := by
  simp only [rotation, normSq, Scalar.two_real, Mat3.determinant, Vec3.dot, Vec3.cross]
  ring

/-- The matrix of a unit quaternion is a rotation. -/
theorem isRotation_rotation {q : Quaternion ℝ} (h : q.normSq = 1) : q.rotation.IsRotation where
  transpose_mul_self := by rw [transpose_mul_rotation, h, one_mul]
  mul_transpose_self := by rw [rotation_mul_transpose, h, one_mul]
  determinant := by rw [determinant_rotation, h, one_mul, one_mul]

/-! ### Products -/

theorem add_eq (p q : Quaternion ℝ) : p + q = ⟨p.i + q.i, p.j + q.j, p.k + q.k, p.w + q.w⟩ := rfl

theorem scale_eq (q : Quaternion ℝ) (s : ℝ) : q * s = ⟨q.i * s, q.j * s, q.k * s, q.w * s⟩ := rfl

theorem mul_eq (p q : Quaternion ℝ) : p * q = p.mul q := rfl

theorem rotation_mul (p q : Quaternion ℝ) : (p * q).rotation = p.rotation * q.rotation := by
  ext <;> simp only [rotation, mul_eq, mul, Scalar.two_real, Mat3.mul_eq, Mat3.apply,
    Mat3.transpose, Vec3.dot] <;> ring

protected theorem mul_assoc (p q r : Quaternion ℝ) : p * q * r = p * (q * r) := by
  ext <;> simp only [mul_eq, mul] <;> ring

theorem normSq_mul (p q : Quaternion ℝ) : (p * q).normSq = p.normSq * q.normSq := by
  simp only [normSq, mul_eq, mul]
  ring

theorem norm_eq (q : Quaternion ℝ) : q.norm = √q.normSq := by
  rw [norm, Scalar.sqrt_real, normSq]
  congr 1
  ring

theorem normalize_mul {q : Quaternion ℝ} (h : q.normSq = 1) (p : Quaternion ℝ) :
    (q * p).normalize = q * p.normalize := by
  have hnorm : (q * p).norm = p.norm := by rw [norm_eq, normSq_mul, h, one_mul, ← norm_eq]
  ext <;> simp only [normalize, hnorm] <;> simp only [mul_eq, mul] <;> ring

theorem normSq_normalize {q : Quaternion ℝ} (h : 0 < q.normSq) : q.normalize.normSq = 1 := by
  have hnorm : q.norm * q.norm = q.normSq := by rw [norm_eq, Real.mul_self_sqrt h.le]
  have hne : q.norm ≠ 0 := fun h0 => h.ne' (by rw [← hnorm, h0, mul_zero])
  simp only [normSq, normalize] at hnorm ⊢
  field_simp
  linarith

/-! ### The quaternion of Euler angles -/

/-- The quaternion of a turn about an axis. -/
def ofTurn {α : Type} [Scalar α] (axis : Axis) (angle : α) : Quaternion α :=
  let s := Scalar.sin (angle * 0.5)
  let c := Scalar.cos (angle * 0.5)
  match axis with
  | .x => ⟨s, 0, 0, c⟩
  | .y => ⟨0, s, 0, c⟩
  | .z => ⟨0, 0, s, c⟩

theorem normSq_ofTurn (axis : Axis) (angle : ℝ) : (ofTurn axis angle).normSq = 1 := by
  have h := Real.sin_sq_add_cos_sq (angle * (1 / 2))
  cases axis <;> simp [ofTurn, normSq] <;> linarith

theorem rotation_ofTurn (axis : Axis) (angle : ℝ) :
    (ofTurn axis angle).rotation = axis.turn angle := by
  have hs : Real.sin angle = 2 * Real.sin (angle * (1 / 2)) * Real.cos (angle * (1 / 2)) := by
    rw [← Real.sin_two_mul]
    ring_nf
  have hc : Real.cos angle = Real.cos (angle * (1 / 2)) ^ 2 - Real.sin (angle * (1 / 2)) ^ 2 := by
    rw [← Real.cos_two_mul']
    ring_nf
  have hone := Real.sin_sq_add_cos_sq (angle * (1 / 2))
  cases axis <;> ext <;> simp [ofTurn, rotation, Axis.turn, hs, hc] <;> linarith

theorem ofEuler_eq_mul (e : Euler ℝ) :
    ofEuler e = ofTurn .z e.yaw * (ofTurn .y e.pitch * ofTurn .x e.roll) := by
  ext <;> simp only [ofEuler, ofTurn, mul_eq, mul, Scalar.half_real, Scalar.sin_real,
    Scalar.cos_real] <;> ring

theorem normSq_ofEuler (e : Euler ℝ) : (ofEuler e).normSq = 1 := by
  rw [ofEuler_eq_mul, normSq_mul, normSq_mul, normSq_ofTurn, normSq_ofTurn, normSq_ofTurn, one_mul,
    one_mul]

theorem rotation_ofEuler (e : Euler ℝ) : (ofEuler e).rotation = e.rotation := by
  rw [ofEuler_eq_mul, rotation_mul, rotation_mul, rotation_ofTurn, rotation_ofTurn,
    rotation_ofTurn, Euler.rotation_eq_mul]

/-! ### Steps -/

/-- The turn of one step under an angular velocity. -/
def step {α : Type} [Scalar α] (v : Vec3 α) (dt : α) : Quaternion α :=
  normalize ⟨v.x * (dt * 0.5), v.y * (dt * 0.5), v.z * (dt * 0.5), 1⟩

/-- The squared length of a step before it is brought back to one. -/
theorem normSq_unscaled (v : Vec3 ℝ) (dt : ℝ) :
    (⟨v.x * (dt * 0.5), v.y * (dt * 0.5), v.z * (dt * 0.5), 1⟩ : Quaternion ℝ).normSq =
      1 + (v.norm * dt / 2) ^ 2 := by
  have hnorm : v.norm * v.norm = v.dot v := Real.mul_self_sqrt v.dot_self_nonneg
  simp only [normSq, Vec3.dot] at hnorm ⊢
  linear_combination -(dt / 2) ^ 2 * hnorm

theorem normSq_step (v : Vec3 ℝ) (dt : ℝ) : (step v dt).normSq = 1 := by
  apply normSq_normalize
  rw [normSq_unscaled]
  positivity

theorem add_rateOfTurn_eq_mul (q : Quaternion ℝ) (v : Vec3 ℝ) (dt : ℝ) :
    q + q.rateOfTurn v * dt = q * ⟨v.x * (dt * 0.5), v.y * (dt * 0.5), v.z * (dt * 0.5), 1⟩ := by
  ext <;> simp only [rateOfTurn, add_eq, scale_eq, mul_eq, mul, ofVec3, Scalar.half_real] <;> ring

/-- A step turns the body in its own frame. -/
theorem advance_eq_mul {q : Quaternion ℝ} (h : q.normSq = 1) (v : Vec3 ℝ) (dt : ℝ) :
    q.advance v dt = q * step v dt := by
  rw [advance, add_rateOfTurn_eq_mul, normalize_mul h]
  rfl

/-- Unit quaternions stay unit. -/
theorem normSq_advance {q : Quaternion ℝ} (h : q.normSq = 1) (v : Vec3 ℝ) (dt : ℝ) :
    (q.advance v dt).normSq = 1 := by
  rw [advance_eq_mul h, normSq_mul, h, normSq_step, one_mul]

end Quaternion

/-! ## Angles of a rotation -/

namespace Mat3

/-- The Euler angles that are read off a rotation. -/
def euler {α : Type} [Scalar α] (m : Mat3 α) : Euler α :=
  let down := m.r3.x
  if Scalar.abs down < 1 then
    let pitch := -Scalar.asin down
    let c := Scalar.cos pitch
    { roll := Scalar.atan2 (m.r3.y / c) (m.r3.z / c)
      pitch := pitch
      yaw := Scalar.atan2 (m.r2.x / c) (m.r1.x / c) }
  else if down ≤ -1 then
    { roll := Scalar.atan2 m.r1.y m.r1.z, pitch := Scalar.pi / 2.0, yaw := 0 }
  else { roll := -Scalar.atan2 m.r1.y (-m.r1.z), pitch := -(Scalar.pi / 2.0), yaw := 0 }

namespace IsRotation

variable {m : Mat3 ℝ} (h : m.IsRotation)

include h

theorem dot_r3_r1 : m.r3.dot m.r1 = 0 := congrArg (·.r1.z) h.mul_transpose_self

theorem dot_r3_r2 : m.r3.dot m.r2 = 0 := congrArg (·.r2.z) h.mul_transpose_self

theorem dot_r1_r1 : m.r1.dot m.r1 = 1 := congrArg (·.r1.x) h.mul_transpose_self

theorem dot_r3_r3 : m.r3.dot m.r3 = 1 := congrArg (·.r3.z) h.mul_transpose_self

/-- The first column is a unit vector. -/
theorem first_column : m.r1.x * m.r1.x + m.r2.x * m.r2.x + m.r3.x * m.r3.x = 1 :=
  congrArg (·.r1.x) h.transpose_mul_self

/-- The rows are a right-handed basis. -/
theorem r1_eq_cross : m.r1 = m.r2.cross m.r3 := by
  have hleft : m.apply m.r1 = ⟨1, 0, 0⟩ := congrArg Mat3.r1 h.mul_transpose_self
  have hright : m.apply (m.r2.cross m.r3) = ⟨1, 0, 0⟩ := by
    ext
    · exact h.determinant
    · simp only [apply, Vec3.dot, Vec3.cross]; ring
    · simp only [apply, Vec3.dot, Vec3.cross]; ring
  rw [← h.transpose_apply_apply m.r1, ← h.transpose_apply_apply (m.r2.cross m.r3), hleft, hright]

theorem r2_eq_cross : m.r2 = m.r3.cross m.r1 := by
  have hleft : m.apply m.r2 = ⟨0, 1, 0⟩ := congrArg Mat3.r2 h.mul_transpose_self
  have hright : m.apply (m.r3.cross m.r1) = ⟨0, 1, 0⟩ := by
    ext
    · simp only [apply, Vec3.dot, Vec3.cross]; ring
    · exact (Vec3.dot_cross _ _ _).symm.trans h.determinant
    · simp only [apply, Vec3.dot, Vec3.cross]; ring
  rw [← h.transpose_apply_apply m.r2, ← h.transpose_apply_apply (m.r3.cross m.r1), hleft, hright]

/-- The third row and the first column determine the rest, unless both are vertical. -/
theorem first_rows : (1 - m.r3.x * m.r3.x) * m.r1.y = -m.r1.x * m.r3.x * m.r3.y - m.r2.x * m.r3.z ∧
    (1 - m.r3.x * m.r3.x) * m.r1.z = -m.r1.x * m.r3.x * m.r3.z + m.r2.x * m.r3.y ∧
    (1 - m.r3.x * m.r3.x) * m.r2.y = -m.r2.x * m.r3.x * m.r3.y + m.r1.x * m.r3.z ∧
    (1 - m.r3.x * m.r3.x) * m.r2.z = -m.r2.x * m.r3.x * m.r3.z - m.r1.x * m.r3.y := by
  have h31 := h.dot_r3_r1
  have h32 := h.dot_r3_r2
  have h33 := h.dot_r3_r3
  have ha := congrArg Vec3.x h.r1_eq_cross
  have hd := congrArg Vec3.x h.r2_eq_cross
  simp only [Vec3.dot, Vec3.cross] at h31 h32 h33 ha hd
  refine ⟨?_, ?_, ?_, ?_⟩
  · linear_combination m.r3.y * h31 + m.r3.z * hd - m.r1.y * h33
  · linear_combination m.r3.z * h31 - m.r3.y * hd - m.r1.z * h33
  · linear_combination m.r3.y * h32 - m.r3.z * ha - m.r2.y * h33
  · linear_combination m.r3.z * h32 + m.r3.y * ha - m.r2.z * h33

theorem eq_of_row_of_column {n : Mat3 ℝ} (hn : n.IsRotation) (hlt : |m.r3.x| < 1)
    (hrow : n.r3 = m.r3) (h1 : n.r1.x = m.r1.x) (h2 : n.r2.x = m.r2.x) : n = m := by
  have hne : 1 - m.r3.x * m.r3.x ≠ 0 := by
    have := (sq_lt_one_iff_abs_lt_one m.r3.x).2 hlt
    nlinarith
  have hm := h.first_rows
  have hn := hn.first_rows
  rw [hrow, h1, h2] at hn
  refine Mat3.ext (Vec3.ext h1 ?_ ?_) (Vec3.ext h2 ?_ ?_) hrow
  · exact mul_left_cancel₀ hne (hn.1.trans hm.1.symm)
  · exact mul_left_cancel₀ hne (hn.2.1.trans hm.2.1.symm)
  · exact mul_left_cancel₀ hne (hn.2.2.1.trans hm.2.2.1.symm)
  · exact mul_left_cancel₀ hne (hn.2.2.2.trans hm.2.2.2.symm)

theorem rotation_euler_of_abs_lt (hlt : |m.r3.x| < 1) : m.euler.rotation = m := by
  have hsin : Real.sin (Real.arcsin m.r3.x) = m.r3.x :=
    Real.sin_arcsin (abs_lt.1 hlt).1.le (abs_lt.1 hlt).2.le
  obtain ⟨C, hC⟩ : ∃ C, C = Real.cos (-Real.arcsin m.r3.x) := ⟨_, rfl⟩
  have hpos : 0 < 1 - m.r3.x ^ 2 := sub_pos.2 ((sq_lt_one_iff_abs_lt_one m.r3.x).2 hlt)
  have hCC : C * C = 1 - m.r3.x ^ 2 := by
    rw [hC, Real.cos_neg, Real.cos_arcsin, Real.mul_self_sqrt hpos.le]
  have hC0 : C ≠ 0 := fun h0 => hpos.ne (by rw [← hCC, h0, zero_mul])
  -- The third row and the first column have the length `C` without their common entry.
  have hroll : m.r3.z / C * (m.r3.z / C) + m.r3.y / C * (m.r3.y / C) = 1 := by
    have hrow := h.dot_r3_r3
    simp only [Vec3.dot] at hrow
    field_simp
    linarith
  have hyaw : m.r1.x / C * (m.r1.x / C) + m.r2.x / C * (m.r2.x / C) = 1 := by
    have hcolumn := h.first_column
    field_simp
    linarith
  have heuler : m.euler =
      { roll := Complex.arg ⟨m.r3.z / C, m.r3.y / C⟩
        pitch := -Real.arcsin m.r3.x
        yaw := Complex.arg ⟨m.r1.x / C, m.r2.x / C⟩ } := by
    rw [hC]
    exact if_pos hlt
  rw [heuler]
  refine h.eq_of_row_of_column (Euler.isRotation_rotation _) hlt (Vec3.ext ?_ ?_ ?_) ?_ ?_
  · simp only [Euler.rotation, Scalar.sin_real, Real.sin_neg, hsin, neg_neg]
  · simp only [Euler.rotation, Scalar.sin_real, Scalar.cos_real, Scalar.sin_arg hroll, ← hC]
    field_simp
  · simp only [Euler.rotation, Scalar.cos_real, Scalar.cos_arg hroll, ← hC]
    field_simp
  · simp only [Euler.rotation, Scalar.cos_real, Scalar.cos_arg hyaw, ← hC]
    field_simp
  · simp only [Euler.rotation, Scalar.sin_real, Scalar.cos_real, Scalar.sin_arg hyaw, ← hC]
    field_simp

/-- With the nose straight up or down the first row determines the rest. -/
theorem vertical_eq (hx : m.r3.x * m.r3.x = 1) :
    m = ⟨⟨0, m.r1.y, m.r1.z⟩, ⟨0, -m.r3.x * m.r1.z, m.r3.x * m.r1.y⟩, ⟨m.r3.x, 0, 0⟩⟩ ∧
      m.r1.z * m.r1.z + m.r1.y * m.r1.y = 1 := by
  have h33 := h.dot_r3_r3
  have h11 := h.dot_r1_r1
  have hcolumn := h.first_column
  simp only [Vec3.dot] at h33 h11
  have hy : m.r3.y = 0 := by nlinarith [mul_self_nonneg m.r3.y, mul_self_nonneg m.r3.z]
  have hz : m.r3.z = 0 := by nlinarith [mul_self_nonneg m.r3.y, mul_self_nonneg m.r3.z]
  have ha : m.r1.x = 0 := by nlinarith [mul_self_nonneg m.r1.x, mul_self_nonneg m.r2.x]
  rw [ha] at h11
  have hr2 := h.r2_eq_cross
  refine ⟨Mat3.ext (Vec3.ext ha rfl rfl) ?_ (Vec3.ext rfl hy hz), by linarith⟩
  rw [hr2]
  ext <;> simp [hy, hz, ha]

theorem rotation_euler_of_vertical (hx : m.r3.x = -1 ∨ m.r3.x = 1) : m.euler.rotation = m := by
  obtain ⟨hm, hroll⟩ := h.vertical_eq (by rcases hx with hx | hx <;> rw [hx] <;> norm_num)
  -- Roll and yaw turn about one axis now: the yaw is read as zero and the roll has all of the turn.
  rcases hx with hx | hx
  · have heuler : m.euler =
        { roll := Complex.arg ⟨m.r1.z, m.r1.y⟩, pitch := Real.pi / 2, yaw := 0 } := by
      simp [euler, hx]
    rw [heuler, hm, hx]
    ext <;> simp [Euler.rotation, Scalar.cos_arg hroll, Scalar.sin_arg hroll]
  · have heuler : m.euler =
        { roll := -Complex.arg ⟨-m.r1.z, m.r1.y⟩, pitch := -(Real.pi / 2), yaw := 0 } := by
      have hle : ¬ (1 : ℝ) ≤ -1 := by norm_num
      simp [euler, hx, hle]
    rw [← neg_mul_neg m.r1.z] at hroll
    rw [heuler, hm, hx]
    ext <;> simp [Euler.rotation, Scalar.cos_arg hroll, Scalar.sin_arg hroll]

/-- The angles that are read off a rotation give it back, gimbal lock included. -/
theorem rotation_euler : m.euler.rotation = m := by
  by_cases hlt : |m.r3.x| < 1
  · exact h.rotation_euler_of_abs_lt hlt
  · have hrow := h.dot_r3_r3
    simp only [Vec3.dot] at hrow
    have hle : m.r3.x ^ 2 ≤ 1 := by nlinarith [mul_self_nonneg m.r3.y, mul_self_nonneg m.r3.z]
    have habs : |m.r3.x| = 1 := le_antisymm (sq_le_one_iff_abs_le_one _ |>.1 hle) (not_lt.1 hlt)
    exact h.rotation_euler_of_vertical ((abs_eq one_pos.le).1 habs).symm

end IsRotation

end Mat3

namespace Quaternion

theorem euler_eq {α : Type} [Scalar α] (q : Quaternion α) : q.euler = q.rotation.euler := rfl

end Quaternion

end Multirotor
