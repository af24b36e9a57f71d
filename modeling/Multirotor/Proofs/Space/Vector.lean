import Mathlib.Tactic.FieldSimp
import Mathlib.Tactic.LinearCombination
import Mathlib.Tactic.Positivity
import Mathlib.Tactic.Ring
import Multirotor.Proofs.Scalar.Exact
import Multirotor.Space.Vector

/-!
# Vectors componentwise

The operations on vectors and on matrices of space, read componentwise, and the laws of the inner
product, of the cross product and of the transpose over the real numbers.
-/

namespace Multirotor

namespace Vec2

attribute [ext] Vec2

variable {α : Type} [Scalar α] (v w : Vec2 α) (s : α)

@[simp] theorem sub_x : (v - w).x = v.x - w.x := rfl
@[simp] theorem sub_y : (v - w).y = v.y - w.y := rfl

@[simp] theorem scale_x : (v * s).x = v.x * s := rfl
@[simp] theorem scale_y : (v * s).y = v.y * s := rfl

theorem norm_scale (v : Vec2 ℝ) (s : ℝ) : (v * s).norm = |s| * v.norm := by
  have hsquares : v.x * s * (v.x * s) + v.y * s * (v.y * s) = s * s * (v.x * v.x + v.y * v.y) := by
    ring
  simp only [Vec2.norm, scale_x, scale_y, Scalar.sqrt_real]
  rw [hsquares, Real.sqrt_mul (mul_self_nonneg s), Real.sqrt_mul_self_eq_abs]

end Vec2

namespace Vec3

attribute [ext] Vec3

/-! ## Components -/

section Components

variable {α : Type} [Scalar α] (v w : Vec3 α) (s : α)

@[simp] theorem zero_x : (0 : Vec3 α).x = 0 := rfl
@[simp] theorem zero_y : (0 : Vec3 α).y = 0 := rfl
@[simp] theorem zero_z : (0 : Vec3 α).z = 0 := rfl

@[simp] theorem neg_x : (-v).x = -v.x := rfl
@[simp] theorem neg_y : (-v).y = -v.y := rfl
@[simp] theorem neg_z : (-v).z = -v.z := rfl

@[simp] theorem add_x : (v + w).x = v.x + w.x := rfl
@[simp] theorem add_y : (v + w).y = v.y + w.y := rfl
@[simp] theorem add_z : (v + w).z = v.z + w.z := rfl

@[simp] theorem sub_x : (v - w).x = v.x - w.x := rfl
@[simp] theorem sub_y : (v - w).y = v.y - w.y := rfl
@[simp] theorem sub_z : (v - w).z = v.z - w.z := rfl

@[simp] theorem scale_x : (v * s).x = v.x * s := rfl
@[simp] theorem scale_y : (v * s).y = v.y * s := rfl
@[simp] theorem scale_z : (v * s).z = v.z * s := rfl

@[simp] theorem div_x : (v / s).x = v.x / s := rfl
@[simp] theorem div_y : (v / s).y = v.y / s := rfl
@[simp] theorem div_z : (v / s).z = v.z / s := rfl

@[simp] theorem cross_x : (v.cross w).x = v.y * w.z - v.z * w.y := rfl
@[simp] theorem cross_y : (v.cross w).y = v.z * w.x - v.x * w.z := rfl
@[simp] theorem cross_z : (v.cross w).z = v.x * w.y - v.y * w.x := rfl

@[simp] theorem vertical_x : (vertical s).x = 0 := rfl
@[simp] theorem vertical_y : (vertical s).y = 0 := rfl
@[simp] theorem vertical_z : (vertical s).z = s := rfl

end Components

/-! ## Laws of the operations over the real numbers -/

section Laws

variable (u v w : Vec3 ℝ) (s : ℝ)

protected theorem zero_add : 0 + v = v := by ext <;> simp

protected theorem add_zero : v + 0 = v := by ext <;> simp

protected theorem add_assoc : u + v + w = u + (v + w) := by
  ext <;> simp <;> ring

theorem dot_comm : u.dot v = v.dot u := by simp only [dot]; ring

theorem add_dot : (u + v).dot w = u.dot w + v.dot w := by simp only [dot, add_x, add_y, add_z]; ring

theorem dot_add : u.dot (v + w) = u.dot v + u.dot w := by simp only [dot, add_x, add_y, add_z]; ring

theorem sub_dot : (u - v).dot w = u.dot w - v.dot w := by simp only [dot, sub_x, sub_y, sub_z]; ring

theorem dot_scale : u.dot (v * s) = s * u.dot v := by
  simp only [dot, scale_x, scale_y, scale_z]; ring

theorem scale_dot : (u * s).dot v = s * u.dot v := by
  simp only [dot, scale_x, scale_y, scale_z]; ring

theorem zero_dot : (0 : Vec3 ℝ).dot v = 0 := by simp [dot]

protected theorem neg_neg : - -v = v := by ext <;> simp

theorem dot_neg : u.dot (-v) = -u.dot v := by simp only [dot, neg_x, neg_y, neg_z]; ring

theorem neg_dot : (-u).dot v = -u.dot v := by simp only [dot, neg_x, neg_y, neg_z]; ring

theorem div_dot : (u / s).dot v = u.dot v / s := by simp only [dot, div_x, div_y, div_z]; ring

theorem scale_scale (t : ℝ) : v * s * t = v * (s * t) := by
  ext <;> simp [mul_assoc]

theorem neg_scale : -(v * s) = v * -s := by
  ext <;> simp

theorem scale_eq_zero_iff : v * s = 0 ↔ v = 0 ∨ s = 0 := by
  simp only [Vec3.ext_iff, scale_x, scale_y, scale_z, zero_x, zero_y, zero_z, mul_eq_zero]
  tauto

protected theorem add_eq_left : u + v = u ↔ v = 0 := by
  simp only [Vec3.ext_iff, add_x, add_y, add_z, zero_x, zero_y, zero_z, add_eq_left]

theorem cross_scale : u.cross (v * s) = u.cross v * s := by
  ext <;> simp <;> ring

/-- The volume spanned by three vectors does not depend on which of them comes first. -/
theorem dot_cross : u.dot (v.cross w) = v.dot (w.cross u) := by
  simp only [dot, cross_x, cross_y, cross_z]; ring

theorem dot_self_nonneg : 0 ≤ v.dot v :=
  add_nonneg (add_nonneg (mul_self_nonneg _) (mul_self_nonneg _)) (mul_self_nonneg _)

theorem norm_eq : v.norm = √(v.dot v) := rfl

theorem norm_pos {v : Vec3 ℝ} (h : v ≠ 0) : 0 < v.norm := by
  rw [norm_eq, Real.sqrt_pos]
  refine lt_of_le_of_ne v.dot_self_nonneg fun hzero => h ?_
  rw [dot] at hzero
  have hx := mul_self_nonneg v.x
  have hy := mul_self_nonneg v.y
  have hz := mul_self_nonneg v.z
  ext
  · exact mul_self_eq_zero.1 (by linarith)
  · exact mul_self_eq_zero.1 (by linarith)
  · exact mul_self_eq_zero.1 (by linarith)

theorem norm_vertical : (vertical s).norm = |s| := by
  simp [norm_eq, dot, Real.sqrt_mul_self_eq_abs]

theorem norm_scale : (v * s).norm = |s| * v.norm := by
  rw [norm_eq, norm_eq, dot_scale, scale_dot, ← mul_assoc, Real.sqrt_mul (mul_self_nonneg s),
    Real.sqrt_mul_self_eq_abs]

/-- The area that two vectors span is what their inner product lacks of the product of their
lengths. -/
theorem dot_mul_dot_add : u.dot v * u.dot v + (u.cross v).dot (u.cross v) = u.dot u * v.dot v := by
  simp only [dot, cross_x, cross_y, cross_z]; ring

theorem dot_le_norm_mul_norm : u.dot v ≤ u.norm * v.norm := by
  have hsquares : u.dot v ^ 2 ≤ u.dot u * v.dot v := by
    have harea := (u.cross v).dot_self_nonneg
    have hsum := dot_mul_dot_add u v
    rw [sq]
    linarith
  rw [norm_eq, norm_eq, ← Real.sqrt_mul u.dot_self_nonneg]
  exact (le_abs_self _).trans (Real.abs_le_sqrt hsquares)

theorem norm_mul_self : v.norm * v.norm = v.dot v := Real.mul_self_sqrt v.dot_self_nonneg

/-- The unit vector of a direction. -/
theorem dot_self_div_norm {v : Vec3 ℝ} (h : 0 < v.norm) : (v / v.norm).dot (v / v.norm) = 1 := by
  have hnorm := norm_mul_self v
  simp only [dot, div_x, div_y, div_z] at hnorm ⊢
  field_simp
  linarith

theorem normalize?_of_lt {v : Vec3 ℝ} {least : ℝ} (h : least < v.norm) :
    v.normalize? least = some (v / v.norm) := if_neg (not_le.2 h)

theorem normalize?_of_le {v : Vec3 ℝ} {least : ℝ} (h : v.norm ≤ least) :
    v.normalize? least = none := if_pos h

theorem sign_mul_self {k : ℝ} (h : k ≠ 0) : k / |k| * (k / |k|) = 1 := by
  rw [div_mul_div_comm, abs_mul_abs_self, div_self (mul_self_ne_zero.2 h)]

/-- A multiple has the same unit vector, up to its sign. -/
theorem scale_div_norm (k : ℝ) : v * k / (v * k).norm = v / v.norm * (k / |k|) := by
  rw [norm_scale]
  ext <;> simp only [div_x, div_y, div_z, scale_x, scale_y, scale_z] <;> ring

end Laws

end Vec3

/-! ## Matrices -/

namespace Mat3

attribute [ext] Mat3

/-- The volume spanned by the rows. -/
def determinant {α : Type} [Scalar α] (m : Mat3 α) : α := m.r1.dot (m.r2.cross m.r3)

variable (m n : Mat3 ℝ) (u v : Vec3 ℝ) (s : ℝ)

theorem mul_eq : m * n = ⟨n.transpose.apply m.r1, n.transpose.apply m.r2, n.transpose.apply m.r3⟩ :=
  rfl

theorem apply_add : m.apply (u + v) = m.apply u + m.apply v := by
  ext <;> simp [apply, Vec3.dot_add]

theorem apply_scale : m.apply (v * s) = m.apply v * s := by
  ext <;> simp [apply, Vec3.dot_scale, mul_comm s]

theorem apply_zero : m.apply 0 = 0 := by
  ext <;> simp [apply, Vec3.dot]

theorem apply_neg : m.apply (-v) = -m.apply v := by
  ext <;> exact Vec3.dot_neg _ _

theorem apply_sub : m.apply (u - v) = m.apply u - m.apply v := by
  ext <;> simp only [apply, Vec3.dot, Vec3.sub_x, Vec3.sub_y, Vec3.sub_z] <;> ring

theorem apply_div : m.apply (v / s) = m.apply v / s := by
  ext <;> simp only [apply, Vec3.dot, Vec3.div_x, Vec3.div_y, Vec3.div_z] <;> ring

protected theorem mul_assoc (p : Mat3 ℝ) : m * n * p = m * (n * p) := by
  ext <;> simp only [mul_eq, apply, transpose, Vec3.dot] <;> ring

theorem determinant_mul : (m * n).determinant = m.determinant * n.determinant := by
  simp only [determinant, mul_eq, apply, transpose, Vec3.dot, Vec3.cross]; ring

theorem determinant_transpose : m.transpose.determinant = m.determinant := by
  simp only [determinant, transpose, Vec3.dot, Vec3.cross]; ring

theorem apply_mul : (m * n).apply v = m.apply (n.apply v) := by
  ext <;> simp only [mul_eq, apply, transpose, Vec3.dot] <;> ring

theorem transpose_mul : (m * n).transpose = n.transpose * m.transpose := by
  ext <;> simp only [mul_eq, apply, transpose, Vec3.dot] <;> ring

theorem transpose_transpose : m.transpose.transpose = m := rfl

/-- A matrix moves to the other side of an inner product as its transpose. -/
theorem dot_apply : u.dot (m.apply v) = (m.transpose.apply u).dot v := by
  simp only [apply, transpose, Vec3.dot]; ring

theorem diagonal_one_mul : diagonal (.all 1) * m = m := by
  ext <;> simp [mul_eq, apply, diagonal, transpose, Vec3.dot, Vec3.all]

theorem mul_diagonal_one : m * diagonal (.all 1) = m := by
  ext <;> simp [mul_eq, apply, diagonal, transpose, Vec3.dot, Vec3.all]

theorem apply_diagonal : (diagonal u).apply v = u.mul v := by
  ext <;> simp [apply, diagonal, Vec3.dot, Vec3.mul, Vec3.zipWith]

end Mat3

end Multirotor
