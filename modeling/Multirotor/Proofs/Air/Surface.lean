import Multirotor.Air
import Multirotor.Proofs.Space.Vector

/-!
# Descriptions of a surface

A plane is given by any of its points and by a normal of any length and either orientation.
`GroundEffect.orient` turns the normal to the side of the body, so that away from the plane the
force depends on the plane only.  On the plane there is no such side and the normal keeps the
orientation in which it is given: reversing it lets the force come or go, unless there is none
either way (`GroundEffect.force_redescribed_iff`).
-/

namespace Multirotor

open Scalar

namespace Surface

variable {s : Surface ℝ} {point position : Vec3 ℝ} {k : ℝ}

/-- The point is on the plane. -/
def Contains (s : Surface ℝ) (point : Vec3 ℝ) : Prop := (point - s.point).dot s.normal = 0

/-- Another description: a point, and a multiple of the normal. -/
noncomputable def redescribed (s : Surface ℝ) (point : Vec3 ℝ) (k : ℝ) : Surface ℝ :=
  { point, normal := s.normal * k }

/-- The unit normal. -/
noncomputable def unit (s : Surface ℝ) : Vec3 ℝ := s.normal / s.normal.norm

/-- The distance of a point on the side of the normal, negative on the other side. -/
noncomputable def height (s : Surface ℝ) (position : Vec3 ℝ) : ℝ :=
  (position - s.point).dot s.unit

theorem unit_redescribed_of_pos (point : Vec3 ℝ) (hk : 0 < k) :
    (s.redescribed point k).unit = s.unit := by
  rw [unit, redescribed, Vec3.scale_div_norm, abs_of_pos hk, div_self hk.ne', unit]
  ext <;> exact mul_one _

theorem unit_redescribed_of_neg (point : Vec3 ℝ) (hk : k < 0) :
    (s.redescribed point k).unit = -s.unit := by
  rw [unit, redescribed, Vec3.scale_div_norm, abs_of_neg hk, div_neg, div_self hk.ne, unit]
  ext <;> exact mul_neg_one _

theorem dot_unit (v : Vec3 ℝ) : v.dot s.unit = v.dot s.normal / s.normal.norm := by
  simp only [unit, Vec3.dot, Vec3.div_x, Vec3.div_y, Vec3.div_z]
  ring

theorem height_eq_zero_iff (hn : 0 < s.normal.norm) :
    s.height position = 0 ↔ s.Contains position := by
  rw [height, dot_unit, div_eq_zero_iff, or_iff_left hn.ne', Contains]

/-- The distance is measured from any point of the plane. -/
theorem sub_dot_unit (h : s.Contains point) (position : Vec3 ℝ) :
    (position - point).dot s.unit = s.height position := by
  have hpoint : (point - s.point).dot s.unit = 0 := by
    rw [dot_unit, h, zero_div]
  rw [Vec3.sub_dot] at hpoint
  rw [height, Vec3.sub_dot, Vec3.sub_dot]
  linarith

theorem height_redescribed_of_pos (h : s.Contains point) (hk : 0 < k) (position : Vec3 ℝ) :
    (s.redescribed point k).height position = s.height position := by
  rw [height, unit_redescribed_of_pos point hk]
  exact sub_dot_unit h position

theorem height_redescribed_of_neg (h : s.Contains point) (hk : k < 0) (position : Vec3 ℝ) :
    (s.redescribed point k).height position = -s.height position := by
  rw [height, unit_redescribed_of_neg point hk, Vec3.dot_neg]
  exact congrArg Neg.neg (sub_dot_unit h position)

end Surface

namespace GroundEffect

/-! ## The side of the body -/

section Side

variable {s : Surface ℝ} {point position : Vec3 ℝ} {k : ℝ}

theorem orient_eq (s : Surface ℝ) (position : Vec3 ℝ) : orient s.unit s position =
    if s.height position < 0 then (-s.unit, -s.height position)
    else (s.unit, s.height position) := rfl

theorem orient_redescribed_of_pos (h : s.Contains point) (hk : 0 < k) :
    orient (s.redescribed point k).unit (s.redescribed point k) position =
      orient s.unit s position := by
  rw [orient_eq, orient_eq, Surface.unit_redescribed_of_pos point hk,
    Surface.height_redescribed_of_pos h hk]

/-- A reversed normal is turned back to the side of the body. -/
theorem orient_redescribed_of_neg (h : s.Contains point) (hk : k < 0)
    (hoff : s.height position ≠ 0) :
    orient (s.redescribed point k).unit (s.redescribed point k) position =
      orient s.unit s position := by
  rw [orient_eq, orient_eq, Surface.unit_redescribed_of_neg point hk,
    Surface.height_redescribed_of_neg h hk]
  by_cases hlow : s.height position < 0
  · rw [if_pos hlow, if_neg (by linarith)]
  · have hhigh : 0 < s.height position := lt_of_le_of_ne (not_lt.1 hlow) hoff.symm
    rw [if_neg hlow, if_pos (by linarith), Vec3.neg_neg, neg_neg]

theorem orient_of_contains (h : s.height position = 0) :
    orient s.unit s position = (s.unit, 0) := by
  rw [orient_eq, h, if_neg (lt_irrefl 0)]

end Side

/-! ## The flow that comes back -/

/-- The force of the flow that a plane at `distance` sends back. -/
def returned {α : Type} [Scalar α] (g : GroundEffect α) (flow normal : Vec3 α)
    (distance thrust rotorRadius : α) : Vec3 α :=
  if reach * rotorRadius < distance then 0
  else
    let incidence := flow.dot normal
    if 0 ≤ incidence then 0
    else
      let reflected := flow - normal * ((2.0 : α) * incidence)
      let falloff := Scalar.pow (rotorRadius / Scalar.larger distance rotorRadius) g.exponent
      reflected * (g.power * thrust * falloff)

variable {g : GroundEffect ℝ} {s : Surface ℝ} {position downwash : Vec3 ℝ} {thrust rotorRadius : ℝ}

theorem force_eq (hn : leastLength < s.normal.norm) (hd : leastLength < downwash.norm) :
    g.force s position downwash thrust rotorRadius =
      g.returned (downwash / downwash.norm) (orient s.unit s position).1
        (orient s.unit s position).2 thrust rotorRadius := by
  rw [force, Vec3.normalize?_of_lt hn, Vec3.normalize?_of_lt hd]
  rfl

theorem force_of_still (hn : leastLength < s.normal.norm) (hd : downwash.norm ≤ leastLength) :
    g.force s position downwash thrust rotorRadius = 0 := by
  rw [force, Vec3.normalize?_of_lt hn, Vec3.normalize?_of_le hd]

section Touching

variable {flow n : Vec3 ℝ} (hr : 0 < rotorRadius)

include hr

/-- On the plane the flow comes back in full. -/
theorem returned_touching (flow n : Vec3 ℝ) : g.returned flow n 0 thrust rotorRadius =
    if 0 ≤ flow.dot n then 0 else (flow - n * (2 * flow.dot n)) * (g.power * thrust) := by
  have hreach : ¬ reach * rotorRadius < 0 := by
    have hpos : (0 : ℝ) < reach := by norm_num [reach]
    exact not_lt.2 (mul_pos hpos hr).le
  have hfade : Scalar.pow (rotorRadius / Scalar.larger 0 rotorRadius) g.exponent = (1 : ℝ) := by
    rw [larger_real, max_eq_right hr.le, div_self hr.ne']
    exact Real.one_rpow _
  rw [returned, if_neg hreach, hfade]
  dsimp only
  rw [mul_one, two_real]

theorem returned_touching_eq_zero_iff (hn : n.dot n = 1) (hi : flow.dot n < 0) :
    g.returned flow n 0 thrust rotorRadius = 0 ↔ g.power * thrust = 0 := by
  rw [returned_touching hr, if_neg (not_le.2 hi)]
  constructor
  · intro h
    have hdot := congrArg (Vec3.dot · n) h
    simp only [Vec3.scale_dot, Vec3.sub_dot, hn, Vec3.zero_dot] at hdot
    have hne : flow.dot n - 2 * flow.dot n * 1 ≠ 0 := by linarith
    exact (mul_eq_zero.1 hdot).resolve_right hne
  · intro h
    rw [h]
    ext <;> exact mul_zero _

theorem returned_touching_of_nonneg (hi : 0 ≤ flow.dot n) :
    g.returned flow n 0 thrust rotorRadius = 0 := by
  rw [returned_touching hr, if_pos hi]

/-- Only one of the two sides of a plane sends a flow back that comes from the plane itself. -/
theorem returned_neg_touching_iff (hn : n.dot n = 1) :
    g.returned flow (-n) 0 thrust rotorRadius = g.returned flow n 0 thrust rotorRadius ↔
      g.power * thrust = 0 ∨ flow.dot n = 0 := by
  have hneg : flow.dot (-n) = -flow.dot n := Vec3.dot_neg _ _
  have hnn : (-n).dot (-n) = 1 := by rw [Vec3.neg_dot, Vec3.dot_neg, neg_neg, hn]
  rcases lt_trichotomy (flow.dot n) 0 with hi | hi | hi
  · rw [returned_touching_of_nonneg hr (n := -n) (by linarith), eq_comm,
      returned_touching_eq_zero_iff hr hn hi, or_iff_left hi.ne]
  · rw [returned_touching_of_nonneg hr (n := -n) (by linarith),
      returned_touching_of_nonneg hr hi.ge]
    exact iff_of_true rfl (.inr hi)
  · rw [returned_touching_of_nonneg hr hi.le, returned_touching_eq_zero_iff hr hnn (by linarith),
      or_iff_left hi.ne']

end Touching

/-! ## Either description -/

/-- Another description of the plane gives the same force, unless the normal is reversed, the body
is on the plane and its rotors blow through it. -/
theorem force_redescribed_iff (g : GroundEffect ℝ) {s : Surface ℝ} {point : Vec3 ℝ} {k : ℝ}
    (position downwash : Vec3 ℝ) (thrust : ℝ) {rotorRadius : ℝ}
    (hn : leastLength < s.normal.norm) (hlong : leastLength < (s.normal * k).norm)
    (hpoint : s.Contains point) (hr : 0 < rotorRadius) :
    g.force (s.redescribed point k) position downwash thrust rotorRadius =
        g.force s position downwash thrust rotorRadius ↔
      0 < k ∨ ¬ s.Contains position ∨ g.power * thrust = 0 ∨ downwash.norm ≤ leastLength ∨
        downwash.dot s.normal = 0 := by
  have hleast : (0 : ℝ) < leastLength := by norm_num [leastLength]
  have hnorm : 0 < s.normal.norm := hleast.trans hn
  have hk : k ≠ 0 := by
    rintro rfl
    rw [Vec3.norm_scale, abs_zero, zero_mul] at hlong
    exact absurd hlong hleast.not_gt
  by_cases hd : downwash.norm ≤ leastLength
  · rw [force_of_still hn hd, force_of_still (s := s.redescribed point k) hlong hd]
    exact iff_of_true rfl (.inr (.inr (.inr (.inl hd))))
  have hflow : leastLength < downwash.norm := not_le.1 hd
  rw [force_eq hn hflow, force_eq (s := s.redescribed point k) hlong hflow]
  by_cases hpos : 0 < k
  · rw [orient_redescribed_of_pos hpoint hpos]
    exact iff_of_true rfl (.inl hpos)
  have hneg : k < 0 := lt_of_le_of_ne (not_lt.1 hpos) hk
  by_cases hon : s.Contains position
  · -- Both normals are taken as they are given, and they are opposite.
    have hheight := (Surface.height_eq_zero_iff hnorm).2 hon
    have hheight' : (s.redescribed point k).height position = 0 := by
      rw [Surface.height_redescribed_of_neg hpoint hneg, hheight, neg_zero]
    have hunit : s.unit.dot s.unit = 1 := Vec3.dot_self_div_norm hnorm
    have hflat : (downwash / downwash.norm).dot s.unit = 0 ↔ downwash.dot s.normal = 0 := by
      have hdown : downwash.norm ≠ 0 := (hleast.trans hflow).ne'
      rw [Surface.dot_unit, Vec3.div_dot, div_eq_zero_iff, div_eq_zero_iff, or_iff_left hnorm.ne',
        or_iff_left hdown]
    rw [orient_of_contains hheight, orient_of_contains hheight',
      Surface.unit_redescribed_of_neg point hneg, returned_neg_touching_iff hr hunit, hflat]
    simp only [hpos, hon, hd, not_true_eq_false, false_or]
  · have hheight : s.height position ≠ 0 := mt (Surface.height_eq_zero_iff hnorm).1 hon
    rw [orient_redescribed_of_neg hpoint hneg hheight]
    exact iff_of_true rfl (.inr (.inl hon))

/-! ### A floor -/

/-- The ground, with its normal pointing down. -/
noncomputable def floor : Surface ℝ := { point := 0, normal := .vertical 1 }

/-- A body above the floor, whose normal is turned up and whose point is taken elsewhere. -/
theorem force_redescribed_floor :
    let position : Vec3 ℝ := ⟨0, 0, -(1 / 5)⟩
    leastLength < floor.normal.norm ∧ leastLength < (floor.normal * (-2 : ℝ)).norm ∧
      floor.Contains ⟨5, 7, 0⟩ ∧ ¬ floor.Contains position ∧
      standard.force (floor.redescribed ⟨5, 7, 0⟩ (-2)) position (.vertical 1) 10 (1 / 10) =
        standard.force floor position (.vertical 1) 10 (1 / 10) := by
  intro position
  have hn : leastLength < floor.normal.norm := by
    rw [floor, Vec3.norm_vertical]
    norm_num [leastLength]
  have hlong : leastLength < (floor.normal * (-2 : ℝ)).norm := by
    rw [Vec3.norm_scale, floor, Vec3.norm_vertical]
    norm_num [leastLength]
  have hpoint : floor.Contains ⟨5, 7, 0⟩ := by
    simp [Surface.Contains, floor, Vec3.dot]
  have hoff : ¬ floor.Contains position := by
    simp [Surface.Contains, floor, position, Vec3.dot]
  refine ⟨hn, hlong, hpoint, hoff, ?_⟩
  exact (force_redescribed_iff standard position (.vertical 1) 10 hn hlong hpoint
    (by norm_num)).2 (.inr (.inl hoff))

/-- Under a body on the floor the ground effect is there with one orientation of the normal and not
with the other. -/
theorem force_on_floor_reversed :
    leastLength < floor.normal.norm ∧ leastLength < (floor.normal * (-1 : ℝ)).norm ∧
      floor.Contains 0 ∧
      standard.force floor 0 (.vertical 1) 10 (1 / 10) = 0 ∧
      standard.force (floor.redescribed 0 (-1)) 0 (.vertical 1) 10 (1 / 10) = ⟨0, 0, -10⟩ := by
  have hleast : (leastLength : ℝ) < 1 := by norm_num [leastLength]
  have hnorm : floor.normal.norm = 1 := by rw [floor, Vec3.norm_vertical, abs_one]
  have hnorm' : (floor.normal * (-1 : ℝ)).norm = 1 := by
    rw [Vec3.norm_scale, hnorm, abs_neg, abs_one, one_mul]
  have hdown : (Vec3.vertical (1 : ℝ)).norm = 1 := by rw [Vec3.norm_vertical, abs_one]
  have hon : floor.Contains 0 := by
    simp [Surface.Contains, floor, Vec3.dot]
  have hheight : floor.height 0 = 0 := (Surface.height_eq_zero_iff (by rw [hnorm]; norm_num)).2 hon
  have hheight' : (floor.redescribed 0 (-1)).height 0 = 0 := by
    rw [Surface.height_redescribed_of_neg hon (by norm_num), hheight, neg_zero]
  refine ⟨by rw [hnorm]; exact hleast, by rw [hnorm']; exact hleast, hon, ?_, ?_⟩
  · rw [force_eq (by rw [hnorm]; exact hleast) (by rw [hdown]; exact hleast),
      orient_of_contains hheight, returned_touching (by norm_num), if_pos]
    rw [hdown, Surface.unit, hnorm]
    simp [floor, Vec3.dot]
  · have hunit : (floor.redescribed 0 (-1)).unit = .vertical (-1) := by
      rw [Surface.unit_redescribed_of_neg 0 (by norm_num), Surface.unit, hnorm]
      ext <;> simp [floor]
    rw [force_eq (s := floor.redescribed 0 (-1)) (lt_of_lt_of_eq hleast hnorm'.symm)
      (by rw [hdown]; exact hleast), orient_of_contains hheight', returned_touching (by norm_num),
      hdown, hunit, if_neg]
    · ext <;> norm_num [Vec3.dot, standard]
    · norm_num [Vec3.dot]

end GroundEffect

end Multirotor
