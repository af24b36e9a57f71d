import Mathlib.Data.Fintype.Basic
import Mathlib.Data.List.OfFn
import Mathlib.GroupTheory.Perm.Basic
import Multirotor.Pilot.Autopilot
import Multirotor.Proofs.Mixing.PseudoInverse

/-!
# The order of the rotors

The mounts, the rows of the mixer, the duties and the rotors are lists with one entry for each
rotor.  `reorder σ` brings such a list into another order.  What is computed rotor by rotor is
reordered with the list, and what is summed or maximized over the rotors does not change over the
real numbers: the scales and the products of the rows in `Mixer.build`, the wrench in
`Propulsion.run`.  So a mixer for reordered mounts is the reordered mixer (`Mixer.build_reorder`).
-/

namespace Multirotor

/-! ## Lists in another order -/

section Lists

variable {β γ : Type} {n : Nat} (σ : Equiv.Perm (Fin n)) {xs : List β} {ys : List γ}

/-- The list of length `n` whose entry `i` is the entry `σ i` of `xs`.  A list of another length is
left as it is. -/
def reorder (σ : Equiv.Perm (Fin n)) (xs : List β) : List β :=
  if h : xs.length = n then List.ofFn fun i => xs[(σ i).cast h.symm] else xs

theorem reorder_of_length (h : xs.length = n) :
    reorder σ xs = List.ofFn fun i => xs[(σ i).cast h.symm] :=
  dif_pos h

theorem reorder_of_length_ne (h : xs.length ≠ n) : reorder σ xs = xs := dif_neg h

theorem reorder_perm : (reorder σ xs).Perm xs := by
  by_cases h : xs.length = n
  · subst h
    rw [reorder_of_length σ rfl]
    refine (σ.ofFn_comp_perm fun i : Fin xs.length => xs[i]).trans ?_
    exact .of_eq List.ofFn_getElem
  · rw [reorder_of_length_ne σ h]

@[simp] theorem length_reorder : (reorder σ xs).length = xs.length := (reorder_perm σ).length_eq

theorem reorder_map (f : β → γ) : reorder σ (xs.map f) = (reorder σ xs).map f := by
  by_cases h : xs.length = n
  · rw [reorder_of_length σ h, reorder_of_length σ ((List.length_map f).trans h), List.map_ofFn]
    congr 1
    funext i
    simp
  · rw [reorder_of_length_ne σ h,
      reorder_of_length_ne σ fun hmap => h ((List.length_map f).symm.trans hmap)]

/-- Entries that belong to one rotor stay together. -/
theorem reorder_zip (h : xs.length = ys.length) :
    (reorder σ xs).zip (reorder σ ys) = reorder σ (xs.zip ys) := by
  have hzip : (xs.zip ys).length = xs.length := by rw [List.length_zip, h, min_self]
  by_cases hn : xs.length = n
  · rw [reorder_of_length σ hn, reorder_of_length σ (h.symm.trans hn),
      reorder_of_length σ (hzip.trans hn)]
    exact List.ext_getElem (by simp) fun i _ _ => by simp
  · rw [reorder_of_length_ne σ hn, reorder_of_length_ne σ (h ▸ hn),
      reorder_of_length_ne σ fun hxs => hn (hzip.symm.trans hxs)]

theorem reorder_replicate (k : Nat) (b : β) :
    reorder σ (List.replicate k b) = List.replicate k b :=
  List.perm_replicate.1 (reorder_perm σ)

theorem reorder_eq_self (h : ∀ x ∈ xs, ∀ y ∈ xs, x = y) : reorder σ xs = xs := by
  cases xs with
  | nil => exact List.perm_nil.1 (reorder_perm σ)
  | cons b xs =>
    rw [List.eq_replicate_of_mem fun x hx => h x hx b List.mem_cons_self]
    exact reorder_replicate σ _ b

end Lists

variable {n : Nat} (σ : Equiv.Perm (Fin n))

/-! ## The mixer -/

namespace Mixer

variable {α : Type} [Scalar α]

/-- The mixer of the rotors in another order. -/
def reordered (m : Mixer α) : Mixer α := { m with allocation := reorder σ m.allocation }

theorem squaredSpeeds_reordered (m : Mixer α) (demand : Wrench α) :
    (m.reordered σ).squaredSpeeds demand = reorder σ (m.squaredSpeeds demand) :=
  (reorder_map σ _).symm

theorem wantedDuties_reordered (m : Mixer α) (demand : Wrench α) :
    (m.reordered σ).wantedDuties demand = reorder σ (m.wantedDuties demand) := by
  simp only [wantedDuties, speeds, squaredSpeeds_reordered, reorder_map]
  rfl

theorem duties_reordered (m : Mixer α) (demand : Wrench α) :
    (m.reordered σ).duties demand = reorder σ (m.duties demand) := by
  simp only [duties, wantedDuties_reordered, reorder_map]

theorem saturation_reordered (m : Mixer α) (demand : Wrench α) :
    (m.reordered σ).saturation demand = m.saturation demand := by
  simp only [saturation, squaredSpeeds_reordered, wantedDuties_reordered,
    (reorder_perm σ).any_eq]

theorem greatest_perm {us vs : List (Effort ℝ)} (h : us.Perm vs) : greatest us = greatest vs := by
  refine h.foldl_eq' (fun u _ v _ most => ?_) _
  simp only [Effort.zipWith, greater_real, max_right_comm]

theorem gram_perm {us vs : List (Effort ℝ)} (h : us.Perm vs) : gram us = gram vs := by
  refine h.foldl_eq' (fun u _ v _ products => ?_) _
  simp only [EffortMatrix.addSquare, Effort.zipWith, add_right_comm]

variable (mounts : List (Mount ℝ)) (c : RotorConstants ℝ) (curve : DutyCurve ℝ)

theorem scale_reorder : scale c (reorder σ mounts) = scale c mounts :=
  greatest_perm ((reorder_perm σ).map _)

theorem normalized_reorder : normalized c (reorder σ mounts) = reorder σ (normalized c mounts) := by
  simp only [normalized, scale_reorder, reorder_map]

/-- Mounts in another order are refused alike, and else have the mixer in that order. -/
theorem build_reorder :
    build (reorder σ mounts) c curve = (build mounts c curve).map (reordered σ) := by
  have hgram : gramInverse? (normalized c (reorder σ mounts)) =
      gramInverse? (normalized c mounts) := by
    simp only [gramInverse?, gram_perm (normalized_reorder σ mounts c ▸ reorder_perm σ)]
  rw [build_eq, build_eq, scale_reorder, hgram]
  split_ifs
  · rfl
  · cases gramInverse? (normalized c mounts) with
    | none => rfl
    | some inverse => simp only [Except.map, reordered, normalized_reorder, reorder_map]

end Mixer

/-! ## The wrench -/

theorem totalThrust_perm {xs ys : List ℝ} (h : xs.Perm ys) : totalThrust xs = totalThrust ys :=
  h.foldl_eq _

theorem totalTorque_perm {xs ys : List (Mount ℝ × ℝ × ℝ)} (h : xs.Perm ys) :
    totalTorque xs = totalTorque ys := by
  refine h.foldl_eq' (fun x _ y _ torque => ?_) _
  ext <;> simp only [Vec3.add_x, Vec3.add_y, Vec3.add_z] <;> ring

namespace Propulsion

/-- The rotors in another order. -/
def reordered {α : Type} (p : Propulsion α) : Propulsion α :=
  { p with mounts := reorder σ p.mounts }

theorem run_reordered {p : Propulsion ℝ} {spins : List (Spin ℝ)}
    (h : p.mounts.length = spins.length) (atm : ℝ) :
    (p.reordered σ).run (reorder σ spins) atm = (p.run spins atm).reordered σ := by
  have hthrust : bodyThrust p.constants.thrustCoefficient ((reorder σ spins).map (·.speed)) atm =
      bodyThrust p.constants.thrustCoefficient (spins.map (·.speed)) atm :=
    totalThrust_perm (((reorder_perm σ).map _).map _)
  have htorque : bodyTorque p.constants (reorder σ p.mounts) (reorder σ spins) atm =
      bodyTorque p.constants p.mounts spins atm := by
    rw [bodyTorque, reorder_zip σ h]
    exact totalTorque_perm ((reorder_perm σ).map _)
  simp only [run, reordered, wrenchOf, hthrust, htorque]

end Propulsion

end Multirotor
