import Multirotor.Proofs.Mixing.PseudoInverse

/-!
# Units of the axes

Rotors whose rows of the factor matrix are dependent are refused: a mixer that is built has a right
inverse of the factor matrix.  The judgement is made on normalized contributions, and a factor on an
axis leaves of them a sign at most (`Rescaling.columnMatrix_normalized`).  So it does not depend on
the units of the forces, the moments and the two arms, however small the numbers become, and neither
do the squared speeds (`Mixer.units_immaterial`).
-/

namespace Multirotor

open Matrix

/-! ## Factors on the rows of a matrix -/

section Rows

variable {k n : ℕ} {s : Fin k → ℝ}

theorem scaled_gram (s : Fin k → ℝ) (M : Matrix (Fin k) (Fin n) ℝ) :
    (diagonal s * M) * (diagonal s * M)ᵀ = diagonal s * (M * Mᵀ) * diagonal s := by
  simp only [transpose_mul, diagonal_transpose, Matrix.mul_assoc]

/-- Signs on the rows do not show in the determinant of their products. -/
theorem det_signed_gram (hs : ∀ i, s i * s i = 1) (M : Matrix (Fin k) (Fin n) ℝ) :
    ((diagonal s * M) * (diagonal s * M)ᵀ).det = (M * Mᵀ).det := by
  have hsign : (diagonal s).det * (diagonal s).det = 1 := by
    rw [det_diagonal, ← Finset.prod_mul_distrib, Finset.prod_congr rfl fun i _ => hs i,
      Finset.prod_const_one]
  rw [scaled_gram, det_mul, det_mul, mul_right_comm, hsign, one_mul]

/-- Factors on the rows cancel in the pseudo-inverse. -/
theorem scaled_pseudoInverse_mul (hs : ∀ i, s i ≠ 0) (M : Matrix (Fin k) (Fin n) ℝ) :
    (diagonal s * M)ᵀ * ((diagonal s * M) * (diagonal s * M)ᵀ)⁻¹ * diagonal s =
      Mᵀ * (M * Mᵀ)⁻¹ := by
  have hunit : IsUnit (diagonal s).det := by
    rw [det_diagonal]
    exact (Finset.prod_ne_zero_iff.2 fun i _ => hs i).isUnit
  have htranspose : (diagonal s * M)ᵀ = Mᵀ * diagonal s := by
    rw [transpose_mul, diagonal_transpose]
  calc (diagonal s * M)ᵀ * ((diagonal s * M) * (diagonal s * M)ᵀ)⁻¹ * diagonal s
      = Mᵀ * (diagonal s * (diagonal s)⁻¹) * (M * Mᵀ)⁻¹ * ((diagonal s)⁻¹ * diagonal s) := by
        rw [scaled_gram, htranspose, Matrix.mul_inv_rev, Matrix.mul_inv_rev]
        simp only [Matrix.mul_assoc]
    _ = Mᵀ * (M * Mᵀ)⁻¹ := by
        rw [mul_nonsing_inv _ hunit, nonsing_inv_mul _ hunit, Matrix.mul_one, Matrix.mul_one]

end Rows

/-! ## Determinants -/

theorem EffortMatrix.determinant_eq (m : EffortMatrix ℝ) : m.determinant = m.matrix.det := by
  obtain ⟨⟨a1, a2, a3, a4⟩, ⟨b1, b2, b3, b4⟩, ⟨c1, c2, c3, c4⟩, ⟨d1, d2, d3, d4⟩⟩ := m
  simp [matrix, adjugate, determinant, transpose, cofactors, minor, Effort.map, Effort.vec,
    Effort.dot, det_succ_row_zero, Fin.sum_univ_succ, Fin.succAbove]
  ring

namespace Mixer

variable {mounts : List (Mount ℝ)} {c : RotorConstants ℝ} {curve : DutyCurve ℝ} {m : Mixer ℝ}

/-! ## Refusal -/

theorem build_eq_error (h : ¬ ∃ m, build mounts c curve = .ok m) :
    build mounts c curve = .error .dependentRotors := by
  rw [build_eq] at h ⊢
  split_ifs with hscale
  · rfl
  · rw [if_neg hscale] at h
    split at h
    · rfl
    · exact absurd ⟨_, rfl⟩ h

/-! ## The greatest contributions -/

theorem greater_mul (k most x : ℝ) : greater (|k| * most) (k * x) = |k| * greater most x := by
  have hk : 0 ≤ |k| := abs_nonneg k
  rw [greater_real, greater_real, abs_mul, mul_max_of_nonneg _ _ hk]

theorem greatest_map (k : Effort ℝ) (us : List (Effort ℝ)) :
    greatest (us.map fun u => k.zipWith (· * ·) u) =
      k.zipWith (fun a b => |a| * b) (greatest us) := by
  have hstep : ∀ a u : Effort ℝ,
      (k.zipWith (fun a b => |a| * b) a).zipWith greater (k.zipWith (· * ·) u) =
        k.zipWith (fun a b => |a| * b) (a.zipWith greater u) := by
    intro a u
    simp only [Effort.zipWith, greater_mul]
  have hzero : k.zipWith (fun a b => |a| * b) (.all 0) = .all 0 := by
    simp only [Effort.zipWith, Effort.all, mul_zero]
  rw [greatest, greatest, List.foldl_map]
  conv_lhs => rw [← hzero]
  exact List.foldl_hom (k.zipWith (fun a b => |a| * b)) hstep

theorem allocationMatrix_eq_columnMatrix {n : ℕ} (h : build mounts c curve = .ok m)
    (hn : mounts.length = n) :
    let M := columnMatrix n (mounts.map (contribution c))
    m.allocationMatrix n = Mᵀ * (M * Mᵀ)⁻¹ := by
  subst hn
  rw [← factorMatrix_eq_columnMatrix]
  exact allocationMatrix_eq h

end Mixer

/-! ## Other units -/

/-- Factors for the forces, for the moment of a spinning rotor and for the two arms.  A negative one
also turns its axis round. -/
structure Rescaling where
  thrust : ℝ
  torque : ℝ
  x : ℝ
  y : ℝ
  thrust_ne_zero : thrust ≠ 0
  torque_ne_zero : torque ≠ 0
  x_ne_zero : x ≠ 0
  y_ne_zero : y ≠ 0

namespace Rescaling

open Mixer

variable (f : Rescaling)

/-- The mount with other arms. -/
def mount (m : Mount ℝ) : Mount ℝ :=
  { m with position := ⟨f.x * m.position.x, f.y * m.position.y, m.position.z⟩ }

/-- The constants with other coefficients. -/
def constants (c : RotorConstants ℝ) : RotorConstants ℝ :=
  { c with
    torqueCoefficient := f.torque * c.torqueCoefficient
    thrustCoefficient := f.thrust * c.thrustCoefficient }

/-- The factor of each controlled axis. -/
def factors : Effort ℝ := ⟨f.thrust, f.y * f.thrust, f.x * f.thrust, f.torque⟩

/-- The wrench in the other units. -/
def wrench (w : Wrench ℝ) : Wrench ℝ :=
  { thrust := f.thrust * w.thrust
    torque := ⟨f.y * f.thrust * w.torque.x, f.x * f.thrust * w.torque.y, f.torque * w.torque.z⟩ }

theorem factors_ne_zero (i : Fin 4) : f.factors.vec i ≠ 0 := by
  fin_cases i
  · exact f.thrust_ne_zero
  · exact mul_ne_zero f.y_ne_zero f.thrust_ne_zero
  · exact mul_ne_zero f.x_ne_zero f.thrust_ne_zero
  · exact f.torque_ne_zero

theorem vec_wrench (w : Wrench ℝ) :
    (f.wrench w).effort.vec = diagonal f.factors.vec *ᵥ w.effort.vec := by
  funext i
  fin_cases i <;> simp [wrench, Wrench.effort, Effort.vec, factors, mulVec_diagonal]

theorem map_contribution (c : RotorConstants ℝ) (mounts : List (Mount ℝ)) :
    (mounts.map f.mount).map (contribution (f.constants c)) =
      (mounts.map (contribution c)).map fun u => f.factors.zipWith (· * ·) u := by
  rw [List.map_map, List.map_map]
  refine List.map_congr_left fun m _ => ?_
  simp only [Function.comp_apply, contribution, mount, constants, factors, Effort.zipWith,
    Effort.mk.injEq, true_and]
  refine ⟨?_, ?_, ?_⟩ <;> ring

variable {mounts : List (Mount ℝ)} {c : RotorConstants ℝ}

theorem columnMatrix_contribution :
    columnMatrix mounts.length ((mounts.map f.mount).map (contribution (f.constants c))) =
      diagonal f.factors.vec * factorMatrix c mounts := by
  rw [map_contribution, factorMatrix_eq_columnMatrix]
  refine columnMatrix_map (fun u _ => ?_) (List.length_map _)
  funext i
  fin_cases i <;> simp [Effort.vec, Effort.zipWith, mulVec_diagonal]

theorem vec_scale (i : Fin 4) : (scale (f.constants c) (mounts.map f.mount)).vec i =
    |f.factors.vec i| * (scale c mounts).vec i := by
  rw [scale, map_contribution, greatest_map]
  fin_cases i <;> rfl

/-- What a factor leaves of a normalized contribution is its sign. -/
theorem columnMatrix_normalized :
    columnMatrix mounts.length (normalized (f.constants c) (mounts.map f.mount)) =
      diagonal (fun i => f.factors.vec i / |f.factors.vec i|) *
        columnMatrix mounts.length (normalized c mounts) := by
  have hlen : (mounts.map f.mount).length = mounts.length := List.length_map _
  -- The factor matrices of the two lists have types of different widths, the columns have not.
  have hleft := @Mixer.columnMatrix_normalized (mounts.map f.mount) (f.constants c)
  rw [factorMatrix_eq_columnMatrix, hlen, columnMatrix_contribution] at hleft
  rw [hleft, Mixer.columnMatrix_normalized, ← Matrix.mul_assoc, ← Matrix.mul_assoc,
    diagonal_mul_diagonal, diagonal_mul_diagonal]
  congr 2
  funext i
  rw [Pi.inv_apply, Pi.inv_apply, vec_scale, mul_inv]
  ring

theorem determinant_gram :
    (gram (normalized (f.constants c) (mounts.map f.mount))).determinant =
      (gram (normalized c mounts)).determinant := by
  have hlen : (normalized (f.constants c) (mounts.map f.mount)).length = mounts.length := by
    rw [length_normalized, List.length_map]
  rw [EffortMatrix.determinant_eq, EffortMatrix.determinant_eq, matrix_gram hlen,
    matrix_gram (length_normalized c mounts), f.columnMatrix_normalized,
    det_signed_gram fun i => Vec3.sign_mul_self (f.factors_ne_zero i)]

theorem exists_build_iff (curve curve' : DutyCurve ℝ) :
    (∃ m', build (mounts.map f.mount) (f.constants c) curve' = .ok m') ↔
      ∃ m, build mounts c curve = .ok m := by
  rw [Mixer.exists_build_iff, Mixer.exists_build_iff, forall_mem_toList, forall_mem_toList,
    f.determinant_gram]
  simp only [vec_scale, mul_pos_iff_of_pos_left (abs_pos.2 (f.factors_ne_zero _))]

variable {curve curve' : DutyCurve ℝ} {m m' : Mixer ℝ}

theorem allocationMatrix_mul (h : build mounts c curve = .ok m)
    (h' : build (mounts.map f.mount) (f.constants c) curve' = .ok m') :
    m'.allocationMatrix mounts.length * diagonal f.factors.vec =
      m.allocationMatrix mounts.length := by
  rw [allocationMatrix_eq_columnMatrix h' (List.length_map _), columnMatrix_contribution,
    allocationMatrix_eq h, scaled_pseudoInverse_mul f.factors_ne_zero]

theorem squaredSpeeds_wrench (h : build mounts c curve = .ok m)
    (h' : build (mounts.map f.mount) (f.constants c) curve' = .ok m') (demand : Wrench ℝ) :
    m'.squaredSpeeds (f.wrench demand) = m.squaredSpeeds demand := by
  have hcount : m.rotorCount = mounts.length := rotorCount_eq h
  have hcount' : m'.rotorCount = mounts.length :=
    (rotorCount_eq h').trans (List.length_map _)
  refine eq_of_listVec_eq ((length_squaredSpeeds m' _).trans hcount')
    ((length_squaredSpeeds m _).trans hcount) ?_
  rw [listVec_squaredSpeeds hcount', listVec_squaredSpeeds hcount, vec_wrench, mulVec_mulVec,
    f.allocationMatrix_mul h h']

end Rescaling

/-! ## The judgement -/

/-- Rotors that do not produce the four axes independently are refused, as are fewer than four.
Other units of the forces, the moments and the arms do not change whether a mixer is built, nor the
squared speeds for a demand in these units. -/
theorem Mixer.units_immaterial (mounts : List (Mount ℝ)) (c : RotorConstants ℝ)
    (curve : DutyCurve ℝ) :
    (¬ LinearIndependent ℝ (factorMatrix c mounts).row →
      build mounts c curve = .error .dependentRotors) ∧
    (mounts.length < 4 → build mounts c curve = .error .dependentRotors) ∧
    ∀ (f : Rescaling) (curve' : DutyCurve ℝ),
      let rescaled := build (mounts.map f.mount) (f.constants c) curve'
      ((∃ m', rescaled = .ok m') ↔ ∃ m, build mounts c curve = .ok m) ∧
        ∀ m m', build mounts c curve = .ok m → rescaled = .ok m' → ∀ demand : Wrench ℝ,
          m'.squaredSpeeds (f.wrench demand) = m.squaredSpeeds demand := by
  refine ⟨fun hdependent => build_eq_error ?_, fun hfew => build_eq_error ?_,
    fun f curve' => ⟨f.exists_build_iff curve curve', fun m m' h h' demand => ?_⟩⟩
  · rintro ⟨m, h⟩
    exact hdependent (linearIndependent_row h)
  · rintro ⟨m, h⟩
    exact absurd (four_le_length h) (not_le.2 hfew)
  · exact f.squaredSpeeds_wrench h h' demand

/-- A square in units in which its coefficients and arms are tiny numbers and the yaw points the
other way, rotors on a line, and three of the square. -/
theorem Mixer.units_immaterial_tiny :
    let f : Rescaling :=
      ⟨1e-6, -1e-3, 1e-4, 1e-5, by norm_num, by norm_num, by norm_num, by norm_num⟩
    let curve : DutyCurve ℝ := .proportional 1000
    let line : List (Mount ℝ) := [0.1, -0.1, 0.2, -0.2].map fun x => ⟨⟨x, x, 0⟩, 1⟩
    let demand : Wrench ℝ := ⟨8, ⟨0.1, 0.2, 0.3⟩⟩
    (∃ m m', build (square 0.1) .standard curve = .ok m ∧
      build ((square 0.1).map f.mount) (f.constants .standard) curve = .ok m' ∧
        m'.squaredSpeeds (f.wrench demand) = m.squaredSpeeds demand) ∧
      build line .standard curve = .error .dependentRotors ∧
      build ((square 0.1).take 3) .standard curve = .error .dependentRotors := by
  intro f curve line demand
  obtain ⟨-, -, hunits⟩ := units_immaterial (square 0.1) .standard curve
  obtain ⟨hdependent, -, -⟩ := units_immaterial line .standard curve
  obtain ⟨-, hfew, -⟩ := units_immaterial ((square 0.1).take 3) .standard curve
  obtain ⟨hexists, hspeeds⟩ := hunits f curve
  obtain ⟨m, hm⟩ := exists_build_square_standard curve
  obtain ⟨m', hm'⟩ := hexists.2 ⟨m, hm⟩
  refine ⟨⟨m, m', hm, hm', hspeeds m m' hm hm' demand⟩, hdependent ?_, hfew (by decide)⟩
  -- The arms of the roll and of the pitch are opposite.
  refine Fintype.not_linearIndependent_iff.2 ⟨![0, 1, 1, 0], ?_, 1, one_ne_zero⟩
  funext j
  fin_cases j <;> simp [factorMatrix, line, Fin.sum_univ_four]

end Multirotor
