import Mathlib.LinearAlgebra.Matrix.NonsingularInverse
import Mathlib.LinearAlgebra.Matrix.Notation
import Mathlib.Tactic.FinCases
import Multirotor.Mixing.Mixer
import Multirotor.Proofs.Scalar.Exact

/-!
# Efforts as vectors

Over the real numbers an effort is a vector with four components (`Effort.vec`), an effort matrix a
four by four matrix (`EffortMatrix.matrix`), and a list of `n` efforts the matrix with these columns
(`columnMatrix n`).  The operations of the mixer are then those of linear algebra: `rowTimes` is the
product with a row, `gram` the product of a matrix and its transpose, `inverse?` the inverse.
-/

namespace Multirotor

open Matrix

/-! ## Efforts -/

namespace Effort

/-- The components as a vector. -/
def vec (u : Effort ℝ) : Fin 4 → ℝ := ![u.thrust, u.roll, u.pitch, u.yaw]

theorem vec_injective : Function.Injective vec := by
  intro u v h
  have h0 := congrFun h 0
  have h1 := congrFun h 1
  have h2 := congrFun h 2
  have h3 := congrFun h 3
  cases u
  cases v
  simp_all [vec]

theorem dot_eq (u v : Effort ℝ) : u.dot v = u.vec ⬝ᵥ v.vec := by
  simp [dot, vec, dotProduct, Fin.sum_univ_four]

theorem vec_map_inv (u : Effort ℝ) : (u.map (1 / ·)).vec = u.vec⁻¹ := by
  funext i
  fin_cases i <;> exact one_div _

end Effort

namespace EffortMatrix

/-- The matrix of Mathlib with the same rows. -/
def matrix (m : EffortMatrix ℝ) : Matrix (Fin 4) (Fin 4) ℝ :=
  .of ![m.r1.vec, m.r2.vec, m.r3.vec, m.r4.vec]

theorem matrix_zero : (zero : EffortMatrix ℝ).matrix = 0 := by
  ext i j
  fin_cases i <;> fin_cases j <;> rfl

theorem matrix_diagonal (u : Effort ℝ) : (diagonal u).matrix = Matrix.diagonal u.vec := by
  ext i j
  fin_cases i <;> fin_cases j <;> rfl

theorem vec_rowTimes (m : EffortMatrix ℝ) (u : Effort ℝ) :
    (m.rowTimes u).vec = u.vec ᵥ* m.matrix := by
  funext j
  fin_cases j <;>
    simp [rowTimes, transpose, Effort.dot, Effort.vec, matrix, vecMul, dotProduct,
      Fin.sum_univ_four]

theorem matrix_addSquare (m : EffortMatrix ℝ) (u : Effort ℝ) :
    (m.addSquare u).matrix = m.matrix + vecMulVec u.vec u.vec := by
  ext i j
  fin_cases i <;> fin_cases j <;> rfl

/-- The expansion by minors. -/
theorem matrix_mul_adjugate (m : EffortMatrix ℝ) :
    m.matrix * m.adjugate.matrix = m.determinant • (1 : Matrix (Fin 4) (Fin 4) ℝ) := by
  obtain ⟨⟨a1, a2, a3, a4⟩, ⟨b1, b2, b3, b4⟩, ⟨c1, c2, c3, c4⟩, ⟨d1, d2, d3, d4⟩⟩ := m
  ext i j
  fin_cases i <;> fin_cases j <;>
    simp [matrix, adjugate, determinant, transpose, cofactors, minor, Effort.map, Effort.vec,
      Effort.dot, Matrix.mul_apply, Fin.sum_univ_four] <;>
    ring

theorem matrix_mul_inverse {m n : EffortMatrix ℝ} (h : m.inverse? = some n) :
    m.matrix * n.matrix = 1 := by
  unfold inverse? at h
  dsimp only at h
  split_ifs at h with hd
  have hd : m.determinant ≠ 0 := by simpa using hd
  obtain rfl := Option.some.inj h
  have hscale : (EffortMatrix.mk (m.adjugate.r1.map (· * (1 / m.determinant)))
      (m.adjugate.r2.map (· * (1 / m.determinant))) (m.adjugate.r3.map (· * (1 / m.determinant)))
      (m.adjugate.r4.map (· * (1 / m.determinant)))).matrix =
        (1 / m.determinant) • m.adjugate.matrix := by
    ext i j
    fin_cases i <;> fin_cases j <;> exact mul_comm _ _
  rw [hscale, Matrix.mul_smul, matrix_mul_adjugate, smul_smul, one_div, inv_mul_cancel₀ hd,
    one_smul]

end EffortMatrix

/-! ## Lists of efforts -/

/-- The matrix with `n` of the efforts as columns. -/
def columnMatrix (n : ℕ) (us : List (Effort ℝ)) : Matrix (Fin 4) (Fin n) ℝ :=
  .of fun i j => (us.getD j (.all 0)).vec i

/-- The vector of `n` of the entries. -/
def listVec (n : ℕ) (xs : List ℝ) : Fin n → ℝ := fun j => xs.getD j 0

variable {n : ℕ} {us : List (Effort ℝ)} {xs : List ℝ}

theorem columnMatrix_cons_mulVec (u : Effort ℝ) (x : ℝ) :
    columnMatrix (n + 1) (u :: us) *ᵥ listVec (n + 1) (x :: xs) =
      x • u.vec + columnMatrix n us *ᵥ listVec n xs := by
  funext i
  simp [columnMatrix, listVec, mulVec, dotProduct, Fin.sum_univ_succ, mul_comm x]

theorem columnMatrix_cons_mul_transpose (u : Effort ℝ) :
    columnMatrix (n + 1) (u :: us) * (columnMatrix (n + 1) (u :: us))ᵀ =
      vecMulVec u.vec u.vec + columnMatrix n us * (columnMatrix n us)ᵀ := by
  ext i j
  simp [columnMatrix, Matrix.mul_apply, Fin.sum_univ_succ, vecMulVec_apply]

theorem matrix_gram (h : us.length = n) :
    (Mixer.gram us).matrix = columnMatrix n us * (columnMatrix n us)ᵀ := by
  have key : ∀ m : EffortMatrix ℝ, (us.foldl EffortMatrix.addSquare m).matrix =
      m.matrix + columnMatrix n us * (columnMatrix n us)ᵀ := by
    induction us generalizing n with
    | nil =>
      subst h
      intro m
      ext i j
      simp
    | cons u us ih =>
      subst h
      intro m
      rw [List.foldl_cons, ih rfl, EffortMatrix.matrix_addSquare, List.length_cons,
        columnMatrix_cons_mul_transpose, add_assoc]
  rw [Mixer.gram, key, EffortMatrix.matrix_zero, zero_add]

/-- A matrix applied to every effort acts on the columns from the left. -/
theorem columnMatrix_map {f : Effort ℝ → Effort ℝ} {A : Matrix (Fin 4) (Fin 4) ℝ}
    (hf : ∀ u ∈ us, (f u).vec = A *ᵥ u.vec) (h : us.length = n) :
    columnMatrix n (us.map f) = A * columnMatrix n us := by
  subst h
  ext i j
  have hj := congrFun (hf us[j] (List.getElem_mem j.2)) i
  simpa [columnMatrix, Matrix.mul_apply, mulVec, dotProduct] using hj

/-- The inner products with a fixed effort are the product of the transpose. -/
theorem listVec_map_dot (d : Effort ℝ) (h : us.length = n) :
    listVec n (us.map (·.dot d)) = (columnMatrix n us)ᵀ *ᵥ d.vec := by
  subst h
  funext j
  simp [listVec, columnMatrix, Effort.dot_eq, mulVec, dotProduct]

theorem forall_listVec {P : ℝ → Prop} (h : xs.length = n) :
    (∀ j, P (listVec n xs j)) ↔ ∀ x ∈ xs, P x := by
  subst h
  simp [listVec, List.forall_mem_iff_getElem, Fin.forall_iff]

theorem eq_of_listVec_eq {ys : List ℝ} (hx : xs.length = n) (hy : ys.length = n)
    (h : listVec n xs = listVec n ys) : xs = ys := by
  subst hx
  refine List.ext_getElem hy.symm fun i hi hi' => ?_
  simpa [listVec, hi, hi'] using congrFun h ⟨i, hi⟩

end Multirotor
