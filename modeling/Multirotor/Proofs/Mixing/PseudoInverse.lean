import Mathlib.LinearAlgebra.Dimension.Constructions
import Mathlib.LinearAlgebra.Matrix.DotProduct
import Multirotor.Proofs.Mixing.Build
import Multirotor.Proofs.Mixing.Columns
import Multirotor.Proofs.Space.Vector

/-!
# The allocation of a mixer

A mixer is built from the contributions of its rotors, the columns of the factor matrix `M`.  They
are divided by the scales of the axes, the products of the rows are inverted, and the scales are
taken out again.  `Mixer.allocationMatrix_eq` says what comes out: the scales cancel and the
allocation is `Mᵀ (M Mᵀ)⁻¹`, the pseudo-inverse of `M`, so that a demand is met with the least
possible squared speeds.
-/

namespace Multirotor

open Matrix

/-! ## Right inverses of a matrix with independent rows -/

section RightInverse

variable {k n : ℕ} {M : Matrix (Fin k) (Fin n) ℝ}

/-- The scales of the rows cancel. -/
theorem mul_scaled_inverse {s : Fin k → ℝ} (hs : ∀ i, s i ≠ 0) {I : Matrix (Fin k) (Fin k) ℝ}
    (h : (diagonal s⁻¹ * M) * (diagonal s⁻¹ * M)ᵀ * I = 1) :
    M * Mᵀ * (diagonal s⁻¹ * I * diagonal s⁻¹) = 1 := by
  have hunscale : diagonal s * diagonal s⁻¹ = (1 : Matrix (Fin k) (Fin k) ℝ) := by
    rw [diagonal_mul_diagonal, ← diagonal_one]
    exact congrArg diagonal (funext fun i => mul_inv_cancel₀ (hs i))
  calc M * Mᵀ * (diagonal s⁻¹ * I * diagonal s⁻¹)
      = (diagonal s * diagonal s⁻¹) * (M * Mᵀ) * (diagonal s⁻¹ * I * diagonal s⁻¹) := by
        rw [hunscale, Matrix.one_mul]
    _ = diagonal s * ((diagonal s⁻¹ * M) * (diagonal s⁻¹ * M)ᵀ * I) * diagonal s⁻¹ := by
        simp only [transpose_mul, diagonal_transpose, Matrix.mul_assoc]
    _ = 1 := by rw [h, Matrix.mul_one, hunscale]

/-- Among the solutions of a linear system the one in the span of the rows is the shortest. -/
theorem dotProduct_lt_of_mulVec_eq {y : Fin k → ℝ} {v : Fin n → ℝ}
    (h : M *ᵥ v = M *ᵥ (Mᵀ *ᵥ y)) (hne : v ≠ Mᵀ *ᵥ y) :
    (Mᵀ *ᵥ y) ⬝ᵥ (Mᵀ *ᵥ y) < v ⬝ᵥ v := by
  obtain ⟨w, rfl⟩ : ∃ w, v = Mᵀ *ᵥ y + w := ⟨v - Mᵀ *ᵥ y, by abel⟩
  have hw : w ≠ 0 := fun hw => hne (by rw [hw, add_zero])
  have hker : M *ᵥ w = 0 := by simpa [mulVec_add] using h
  have horth : (Mᵀ *ᵥ y) ⬝ᵥ w = 0 := by
    rw [mulVec_transpose, ← dotProduct_mulVec, hker, dotProduct_zero]
  have hpos : 0 < w ⬝ᵥ w :=
    lt_of_le_of_ne (Finset.sum_nonneg fun i _ => mul_self_nonneg (w i))
      fun h0 => hw (dotProduct_self_eq_zero.1 h0.symm)
  rw [add_dotProduct, dotProduct_add, dotProduct_add, dotProduct_comm w, horth]
  linarith

end RightInverse

namespace Mixer

variable {mounts : List (Mount ℝ)} {c : RotorConstants ℝ} {curve : DutyCurve ℝ} {m : Mixer ℝ}

/-! ## The factor matrix -/

/-- What each rotor contributes along each axis, per squared speed. -/
def factorMatrix (c : RotorConstants ℝ) (mounts : List (Mount ℝ)) :
    Matrix (Fin 4) (Fin mounts.length) ℝ :=
  .of fun axis rotor =>
    ![c.thrustCoefficient,
      -mounts[rotor].position.y * c.thrustCoefficient,
      mounts[rotor].position.x * c.thrustCoefficient,
      mounts[rotor].ccw * c.torqueCoefficient] axis

/-- The squared speed of each rotor per unit of demand along each axis. -/
def allocationMatrix (m : Mixer ℝ) (n : ℕ) : Matrix (Fin n) (Fin 4) ℝ :=
  (columnMatrix n m.allocation)ᵀ

theorem factorMatrix_eq_columnMatrix :
    factorMatrix c mounts = columnMatrix mounts.length (mounts.map (contribution c)) := by
  ext i j
  simp [factorMatrix, columnMatrix, contribution, Effort.vec]

/-! ## Building -/

theorem forall_mem_toList {u : Effort ℝ} : (∀ s ∈ u.toList, 0 < s) ↔ ∀ i, 0 < u.vec i := by
  simp [Effort.toList, Effort.vec, Fin.forall_fin_succ]

theorem gramInverse?_eq_some {us : List (Effort ℝ)} {inverse : EffortMatrix ℝ}
    (h : gramInverse? us = some inverse) :
    columnMatrix us.length us * (columnMatrix us.length us)ᵀ * inverse.matrix = 1 := by
  unfold gramInverse? at h
  dsimp only at h
  split_ifs at h
  rw [← matrix_gram rfl, EffortMatrix.matrix_mul_inverse h]

/-- The mixer is built when every axis has a contribution and the determinant of the normalized
products is not below the least one. -/
theorem exists_build_iff : (∃ m, build mounts c curve = .ok m) ↔
    (∀ s ∈ (scale c mounts).toList, 0 < s) ∧
      leastDeterminant ≤ |(gram (normalized c mounts)).determinant| := by
  have hinv : (∃ inverse, gramInverse? (normalized c mounts) = some inverse) ↔
      leastDeterminant ≤ |(gram (normalized c mounts)).determinant| := by
    unfold gramInverse?
    dsimp only
    split_ifs with h
    · simp only [exists_false, false_iff, not_le]
      exact h
    · have h : leastDeterminant ≤ |(gram (normalized c mounts)).determinant| := not_lt.1 h
      have hd : (gram (normalized c mounts)).determinant ≠ 0 := fun h0 => by
        rw [h0, abs_zero, leastDeterminant] at h
        norm_num at h
      simp [EffortMatrix.inverse?, hd, h]
  rw [← hinv]
  constructor
  · rintro ⟨m, hm⟩
    obtain ⟨hpos, inverse, hsome, -⟩ := build_eq_ok.1 hm
    exact ⟨hpos, inverse, hsome⟩
  · rintro ⟨hpos, inverse, hsome⟩
    exact ⟨_, build_eq_ok.2 ⟨hpos, inverse, hsome, rfl⟩⟩

/-! ## The allocation -/

theorem columnMatrix_normalized : columnMatrix mounts.length (normalized c mounts) =
    diagonal (scale c mounts).vec⁻¹ * factorMatrix c mounts := by
  rw [factorMatrix_eq_columnMatrix, normalized]
  refine columnMatrix_map (fun u _ => ?_) (by simp)
  funext i
  fin_cases i <;>
    simp [Effort.vec, Effort.zipWith, mulVec_diagonal, div_eq_inv_mul]

/-- The allocation is the transposed factor matrix times the inverse of its products of rows. -/
theorem exists_allocationMatrix_eq (h : build mounts c curve = .ok m) :
    ∃ X, factorMatrix c mounts * (factorMatrix c mounts)ᵀ * X = 1 ∧
      m.allocationMatrix mounts.length = (factorMatrix c mounts)ᵀ * X := by
  obtain ⟨hpos, inverse, hsome, rfl⟩ := build_eq_ok.1 h
  have hpos := forall_mem_toList.1 hpos
  have hgram := gramInverse?_eq_some hsome
  rw [length_normalized, columnMatrix_normalized] at hgram
  refine ⟨_, mul_scaled_inverse (fun i => (hpos i).ne') hgram, ?_⟩
  have hrow : ∀ u ∈ normalized c mounts,
      ((EffortMatrix.diagonal ((scale c mounts).map (1 / ·))).rowTimes (inverse.rowTimes u)).vec =
        (inverse.matrix * diagonal (scale c mounts).vec⁻¹)ᵀ *ᵥ u.vec := fun u _ => by
    rw [EffortMatrix.vec_rowTimes, EffortMatrix.vec_rowTimes, EffortMatrix.matrix_diagonal,
      Effort.vec_map_inv, vecMul_vecMul, mulVec_transpose]
  rw [allocationMatrix, columnMatrix_map hrow (length_normalized c mounts), columnMatrix_normalized]
  simp only [transpose_mul, transpose_transpose, diagonal_transpose, Matrix.mul_assoc]

/-- The allocation is the pseudo-inverse of the factor matrix. -/
theorem allocationMatrix_eq (h : build mounts c curve = .ok m) :
    m.allocationMatrix mounts.length =
      (factorMatrix c mounts)ᵀ * (factorMatrix c mounts * (factorMatrix c mounts)ᵀ)⁻¹ := by
  obtain ⟨X, hX, hm⟩ := exists_allocationMatrix_eq h
  rw [hm, inv_eq_right_inv hX]

theorem factorMatrix_mul_allocationMatrix (h : build mounts c curve = .ok m) :
    factorMatrix c mounts * m.allocationMatrix mounts.length = 1 := by
  obtain ⟨X, hX, hm⟩ := exists_allocationMatrix_eq h
  rw [hm, ← Matrix.mul_assoc, hX]

/-- The rows of a matrix with a right inverse are independent. -/
theorem linearIndependent_row (h : build mounts c curve = .ok m) :
    LinearIndependent ℝ (factorMatrix c mounts).row := by
  rw [← vecMul_injective_iff]
  intro u v huv
  have hright := congrArg (· ᵥ* m.allocationMatrix mounts.length) huv
  simpa only [vecMul_vecMul, factorMatrix_mul_allocationMatrix h, vecMul_one] using hright

/-- Fewer than four rotors cannot produce four axes independently. -/
theorem four_le_length (h : build mounts c curve = .ok m) : 4 ≤ mounts.length := by
  simpa using (linearIndependent_row h).fintype_card_le_finrank

theorem listVec_squaredSpeeds {n : ℕ} (h : m.rotorCount = n) (demand : Wrench ℝ) :
    listVec n (m.squaredSpeeds demand) = m.allocationMatrix n *ᵥ demand.effort.vec :=
  listVec_map_dot demand.effort h

/-- The squared speeds produce the demand. -/
theorem factorMatrix_mulVec_squaredSpeeds (h : build mounts c curve = .ok m) (demand : Wrench ℝ) :
    factorMatrix c mounts *ᵥ listVec mounts.length (m.squaredSpeeds demand) =
      demand.effort.vec := by
  rw [listVec_squaredSpeeds (rotorCount_eq h), mulVec_mulVec, factorMatrix_mul_allocationMatrix h,
    one_mulVec]

/-- Whatever else produces the demand is longer. -/
theorem squaredSpeeds_lt_of_mulVec_eq (h : build mounts c curve = .ok m) {demand : Wrench ℝ}
    {u : Fin mounts.length → ℝ} (hu : factorMatrix c mounts *ᵥ u = demand.effort.vec)
    (hne : u ≠ listVec mounts.length (m.squaredSpeeds demand)) :
    listVec mounts.length (m.squaredSpeeds demand) ⬝ᵥ
      listVec mounts.length (m.squaredSpeeds demand) < u ⬝ᵥ u := by
  obtain ⟨X, hX, hm⟩ := exists_allocationMatrix_eq h
  have hspan : listVec mounts.length (m.squaredSpeeds demand) =
      (factorMatrix c mounts)ᵀ *ᵥ (X *ᵥ demand.effort.vec) := by
    rw [listVec_squaredSpeeds (rotorCount_eq h), hm, mulVec_mulVec]
  rw [hspan] at hne ⊢
  refine dotProduct_lt_of_mulVec_eq ?_ hne
  rw [hu, ← hspan, factorMatrix_mulVec_squaredSpeeds h]

/-! ## Balanced rotors -/

/-- The arms and the spins of the rotors cancel. -/
structure Balanced (mounts : List (Mount ℝ)) : Prop where
  x : (mounts.map (·.position.x)).sum = 0
  y : (mounts.map (·.position.y)).sum = 0
  ccw : (mounts.map (·.ccw)).sum = 0

/-- Balanced rotors at one speed pull straight up. -/
theorem factorMatrix_mulVec_const (hb : Balanced mounts) (w : ℝ) :
    factorMatrix c mounts *ᵥ (fun _ => w) =
      ({ thrust := c.thrustCoefficient * mounts.length * w,
         torque := 0 } : Wrench ℝ).effort.vec := by
  have hsum (f : Mount ℝ → ℝ) : ∑ j : Fin mounts.length, f mounts[j] = (mounts.map f).sum :=
    Fin.sum_univ_fun_getElem mounts f
  have hrow (f : Mount ℝ → ℝ) (hf : (mounts.map f).sum = 0) (k : ℝ) :
      ∑ j : Fin mounts.length, f mounts[j] * k * w = 0 := by
    rw [← Finset.sum_mul, ← Finset.sum_mul, hsum, hf, zero_mul, zero_mul]
  funext i
  fin_cases i
  · simp [factorMatrix, mulVec, dotProduct, Wrench.effort, Effort.vec]
    ring
  · refine (Finset.sum_congr rfl fun j _ => ?_).trans
      (hrow (·.position.y) hb.y (-c.thrustCoefficient))
    simp [factorMatrix]
  · exact hrow (·.position.x) hb.x c.thrustCoefficient
  · exact hrow (·.ccw) hb.ccw c.torqueCoefficient

/-- Balanced rotors share a thrust without torque evenly. -/
theorem squaredSpeeds_of_balanced (h : build mounts c curve = .ok m) (hb : Balanced mounts)
    (ht : c.thrustCoefficient ≠ 0) (hn : mounts ≠ []) (thrust : ℝ) :
    m.squaredSpeeds { thrust, torque := 0 } =
      List.replicate mounts.length (thrust / (c.thrustCoefficient * mounts.length)) := by
  set w := thrust / (c.thrustCoefficient * mounts.length) with hw
  have hlen : (m.squaredSpeeds { thrust, torque := 0 }).length = mounts.length := by
    rw [length_squaredSpeeds, rotorCount_eq h]
  have hcount : (mounts.length : ℝ) ≠ 0 :=
    Nat.cast_ne_zero.2 fun h0 => hn (List.length_eq_zero_iff.1 h0)
  have hV := factorMatrix_mulVec_const (c := c) hb w
  rw [hw, mul_div_cancel₀ thrust (mul_ne_zero ht hcount), ← hw] at hV
  -- One speed for all is in the span of the rows, and a solution there is shorter than any other.
  have hspan : (fun _ => w) = (factorMatrix c mounts)ᵀ *ᵥ ![w / c.thrustCoefficient, 0, 0, 0] := by
    funext j
    simp [factorMatrix, mulVec, dotProduct, Fin.sum_univ_succ, mul_div_cancel₀ w ht]
  have hunique :
      (fun _ => w) = listVec mounts.length (m.squaredSpeeds { thrust, torque := 0 }) := by
    by_contra hne
    refine lt_asymm (squaredSpeeds_lt_of_mulVec_eq h hV hne) ?_
    rw [hspan] at hV hne ⊢
    refine dotProduct_lt_of_mulVec_eq ?_ (Ne.symm hne)
    rw [hV, factorMatrix_mulVec_squaredSpeeds h]
  refine List.eq_replicate_iff.2 ⟨hlen, (forall_listVec hlen).1 fun j => ?_⟩
  rw [← hunique]

/-! ## Rotors at the corners of a square -/

/-- Four rotors at the corners of a square, neighbours spinning in opposite directions. -/
def square (arm : ℝ) : List (Mount ℝ) :=
  [{ position := ⟨arm, arm, 0⟩, ccw := 1 },
   { position := ⟨-arm, arm, 0⟩, ccw := -1 },
   { position := ⟨-arm, -arm, 0⟩, ccw := 1 },
   { position := ⟨arm, -arm, 0⟩, ccw := -1 }]

theorem greater_real (most x : ℝ) : greater most x = max most |x| := by
  rw [greater, Scalar.abs_real]
  by_cases h : |x| ≤ most
  · rw [if_pos h, max_eq_left h]
  · rw [if_neg h, max_eq_right (le_of_not_ge h)]

section Square

variable {arm : ℝ} (ha : 0 < arm) (ht : 0 < c.thrustCoefficient) (hq : 0 < c.torqueCoefficient)

include ha ht hq

theorem scale_square : scale c (square arm) =
    ⟨c.thrustCoefficient, arm * c.thrustCoefficient, arm * c.thrustCoefficient,
      c.torqueCoefficient⟩ := by
  have hat : 0 < arm * c.thrustCoefficient := mul_pos ha ht
  simp [scale, square, greatest, contribution, Effort.zipWith, Effort.all, greater_real, abs_mul,
    abs_of_pos ha, abs_of_pos ht, abs_of_pos hq, ht.le, hq.le, hat.le]

theorem normalized_square : normalized c (square arm) =
    [⟨1, -1, 1, 1⟩, ⟨1, -1, -1, -1⟩, ⟨1, 1, -1, 1⟩, ⟨1, 1, 1, -1⟩] := by
  rw [normalized, scale_square ha ht hq]
  simp [square, contribution, Effort.zipWith, ha.ne', ht.ne', hq.ne', div_self]

theorem exists_build_square (curve : DutyCurve ℝ) : ∃ m, build (square arm) c curve = .ok m := by
  rw [exists_build_iff, scale_square ha ht hq, normalized_square ha ht hq]
  constructor
  · simp [Effort.toList, ha, ht, hq]
  · have hdet : (gram [(⟨1, -1, 1, 1⟩ : Effort ℝ), ⟨1, -1, -1, -1⟩, ⟨1, 1, -1, 1⟩,
        ⟨1, 1, 1, -1⟩]).determinant = 256 := by
      norm_num [gram, EffortMatrix.zero, EffortMatrix.addSquare, EffortMatrix.determinant,
        EffortMatrix.adjugate, EffortMatrix.cofactors, EffortMatrix.minor, EffortMatrix.transpose,
        Effort.zipWith, Effort.all, Effort.dot, Effort.map]
    rw [hdet, leastDeterminant]
    norm_num

end Square

theorem exists_build_square_standard (curve : DutyCurve ℝ) :
    ∃ m, build (square 0.1) .standard curve = .ok m := by
  apply exists_build_square <;> norm_num [RotorConstants.standard]

/-- The rotors of a square share a thrust without torque evenly. -/
theorem squaredSpeeds_square {arm : ℝ} (h : build (square arm) c curve = .ok m)
    (ht : 0 < c.thrustCoefficient) (thrust : ℝ) :
    m.squaredSpeeds { thrust, torque := 0 } =
      List.replicate 4 (thrust / (4 * c.thrustCoefficient)) := by
  have hb : Balanced (square arm) := by constructor <;> simp [square]
  rw [squaredSpeeds_of_balanced h hb ht.ne' (List.cons_ne_nil _ _), mul_comm]
  norm_num [square]

end Mixer

end Multirotor
