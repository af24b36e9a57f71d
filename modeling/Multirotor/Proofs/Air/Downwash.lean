import Multirotor.Proofs.Air.Surface
import Multirotor.Proofs.Body.Reflection

/-!
# Reflected downwash

A body off a plane is on one of its two sides: `Surface.facing` is the unit normal that points there
and `Surface.distance` is how far the body is.  A flow that the plane catches (`Surface.Catches`)
comes back as its mirror image (`Vec3.reflect`), with a `GroundEffect.strength` that depends on the
distance only.  This gives the force in size and direction on either side, and how it changes along
the normal (`GroundEffect.force_mirrors`).
-/

namespace Multirotor

open Scalar

namespace Vec3

variable (v n : Vec3 ℝ) (k : ℝ)

theorem tangent_scale : (v * k).tangent n = v.tangent n * k := by
  rw [tangent, scale_dot]
  ext <;> simp [tangent] <;> ring

theorem tangent_div : (v / k).tangent n = v.tangent n / k := by
  rw [tangent, div_dot]
  ext <;> simp [tangent] <;> ring

end Vec3

/-! ## The side and the distance of a body -/

namespace Surface

/-- The unit normal that points to the side of `position`. -/
noncomputable def facing (s : Surface ℝ) (position : Vec3 ℝ) : Vec3 ℝ :=
  if s.height position < 0 then -s.unit else s.unit

/-- The distance from the plane. -/
noncomputable def distance (s : Surface ℝ) (position : Vec3 ℝ) : ℝ := |s.height position|

/-- The plane is within reach of the rotors, and the flow goes toward it. -/
structure Catches (s : Surface ℝ) (position flow : Vec3 ℝ) (rotorRadius : ℝ) : Prop where
  near : s.distance position ≤ 5 * rotorRadius
  toward : flow.dot (s.facing position) < 0

variable {s : Surface ℝ} {position : Vec3 ℝ}

theorem orient_eq_facing (s : Surface ℝ) (position : Vec3 ℝ) :
    GroundEffect.orient s.unit s position = (s.facing position, s.distance position) := by
  rw [GroundEffect.orient_eq, facing, distance]
  split_ifs with hlow
  · rw [abs_of_neg hlow]
  · rw [abs_of_nonneg (not_lt.1 hlow)]

section Normal

variable (hn : 0 < s.normal.norm)

include hn

theorem unit_dot_self : s.unit.dot s.unit = 1 := Vec3.dot_self_div_norm hn

theorem facing_dot_self (position : Vec3 ℝ) :
    (s.facing position).dot (s.facing position) = 1 := by
  rw [facing]
  split_ifs
  · rw [Vec3.neg_dot, Vec3.dot_neg, neg_neg, unit_dot_self hn]
  · exact unit_dot_self hn

theorem distance_pos (hoff : ¬ s.Contains position) : 0 < s.distance position :=
  abs_pos.2 (mt (height_eq_zero_iff hn).1 hoff)

/-- The height of a body that moves away from its plane. -/
theorem height_add (position : Vec3 ℝ) (k : ℝ) :
    s.height (position + s.facing position * k) =
      if s.height position < 0 then -(s.distance position + k) else s.distance position + k := by
  have hheight : s.height (position + s.facing position * k) =
      s.height position + k * (s.facing position).dot s.unit := by
    have hsum : position + s.facing position * k - s.point =
        (position - s.point) + s.facing position * k := by
      ext <;> simp <;> ring
    rw [height, hsum, Vec3.add_dot, Vec3.scale_dot, height]
  rw [hheight, facing, distance]
  split_ifs with hlow
  · rw [abs_of_neg hlow, Vec3.neg_dot, unit_dot_self hn]
    ring
  · rw [abs_of_nonneg (not_lt.1 hlow), unit_dot_self hn, mul_one]

/-- The foot of the perpendicular is on the plane. -/
theorem contains_foot (position : Vec3 ℝ) :
    s.Contains (position - s.facing position * s.distance position) := by
  have hfoot : position - s.facing position * s.distance position =
      position + s.facing position * -s.distance position := by
    ext <;> simp <;> ring
  rw [← height_eq_zero_iff hn, hfoot, height_add hn]
  split_ifs <;> ring

variable {k : ℝ} (hside : 0 < s.distance position + k)

include hside

theorem facing_add : s.facing (position + s.facing position * k) = s.facing position := by
  rw [facing, height_add hn, facing]
  by_cases hlow : s.height position < 0
  · rw [if_pos hlow, if_pos hlow, if_pos (neg_lt_zero.2 hside)]
  · rw [if_neg hlow, if_neg hlow, if_neg hside.not_gt]

theorem distance_add :
    s.distance (position + s.facing position * k) = s.distance position + k := by
  rw [distance, height_add hn]
  split_ifs
  · rw [abs_neg, abs_of_pos hside]
  · exact abs_of_pos hside

end Normal

end Surface

namespace GroundEffect

/-! ## The strength of the flow that comes back -/

/-- The size of the force of a flow that comes back from a plane at `distance`. -/
noncomputable def strength (g : GroundEffect ℝ) (distance thrust rotorRadius : ℝ) : ℝ :=
  g.power * thrust * (rotorRadius / max distance rotorRadius) ^ g.exponent

section Strength

variable {g : GroundEffect ℝ} {distance thrust rotorRadius : ℝ} (hr : 0 < rotorRadius)

include hr

/-- Within one radius the flow comes back in full. -/
theorem strength_of_le (h : distance ≤ rotorRadius) :
    g.strength distance thrust rotorRadius = g.power * thrust := by
  rw [strength, max_eq_right h, div_self hr.ne', Real.one_rpow, mul_one]

theorem falloff_pos (distance : ℝ) : 0 < rotorRadius / max distance rotorRadius :=
  div_pos hr (lt_max_of_lt_right hr)

theorem strength_pos (hpower : 0 < g.power * thrust) (distance : ℝ) :
    0 < g.strength distance thrust rotorRadius :=
  mul_pos hpower (Real.rpow_pos_of_pos (falloff_pos hr distance) _)

variable (hpower : 0 ≤ g.power * thrust)

include hpower

theorem strength_nonneg (distance : ℝ) : 0 ≤ g.strength distance thrust rotorRadius :=
  mul_nonneg hpower (Real.rpow_nonneg (falloff_pos hr distance).le _)

variable (hexponent : 0 ≤ g.exponent)

include hexponent

theorem strength_antitone : Antitone fun distance => g.strength distance thrust rotorRadius := by
  intro near far hfar
  have hfalloff : rotorRadius / max far rotorRadius ≤ rotorRadius / max near rotorRadius :=
    div_le_div_of_nonneg_left hr.le (lt_max_of_lt_right hr) (max_le_max_right _ hfar)
  exact mul_le_mul_of_nonneg_left
    (Real.rpow_le_rpow (falloff_pos hr far).le hfalloff hexponent) hpower

theorem strength_le (distance : ℝ) :
    g.strength distance thrust rotorRadius ≤ g.power * thrust :=
  calc g.strength distance thrust rotorRadius
      ≤ g.strength (min distance rotorRadius) thrust rotorRadius :=
        strength_antitone hr hpower hexponent (min_le_left _ _)
    _ = g.power * thrust := strength_of_le hr (min_le_right _ _)

end Strength

/-! ## The force -/

section Force

variable {g : GroundEffect ℝ} {s : Surface ℝ} {position downwash : Vec3 ℝ}
  {thrust rotorRadius : ℝ}

theorem force_of_short_normal (hn : s.normal.norm ≤ leastLength) :
    g.force s position downwash thrust rotorRadius = 0 := by
  rw [force, Vec3.normalize?_of_le hn]

theorem leastLength_pos : (0 : ℝ) < leastLength := by
  norm_num [leastLength]

theorem reach_eq : (reach : ℝ) = 5 := by
  norm_num [reach]

variable (hn : leastLength < s.normal.norm) (hd : leastLength < downwash.norm)

include hn hd

theorem force_of_not_catches (h : ¬ s.Catches position downwash rotorRadius) :
    g.force s position downwash thrust rotorRadius = 0 := by
  rw [force_eq hn hd, Surface.orient_eq_facing, returned, reach_eq]
  dsimp only
  by_cases hfar : 5 * rotorRadius < s.distance position
  · rw [if_pos hfar]
  · have haway : 0 ≤ downwash.dot (s.facing position) :=
      not_lt.1 fun htoward => h ⟨not_lt.1 hfar, htoward⟩
    have haway' : 0 ≤ (downwash / downwash.norm).dot (s.facing position) := by
      rw [Vec3.div_dot]
      exact div_nonneg haway (leastLength_pos.trans hd).le
    rw [if_neg hfar, if_pos haway']

theorem force_of_catches (h : s.Catches position downwash rotorRadius) :
    g.force s position downwash thrust rotorRadius =
      (downwash / downwash.norm).reflect (s.facing position) 1 *
        g.strength (s.distance position) thrust rotorRadius := by
  have htoward : (downwash / downwash.norm).dot (s.facing position) < 0 := by
    rw [Vec3.div_dot]
    exact div_neg_of_neg_of_pos h.toward (leastLength_pos.trans hd)
  have htwo : (2.0 : ℝ) = 1 + 1 := by norm_num
  rw [force_eq hn hd, Surface.orient_eq_facing, returned, reach_eq, htwo]
  dsimp only
  rw [if_neg (not_lt.2 h.near), if_neg (not_le.2 htoward), larger_real]
  rfl

/-- The flow comes back to the side that it came from. -/
theorem dot_force_of_catches (h : s.Catches position downwash rotorRadius) :
    (g.force s position downwash thrust rotorRadius).dot (s.facing position) =
      -downwash.dot (s.facing position) / downwash.norm *
        g.strength (s.distance position) thrust rotorRadius := by
  have hunit := Surface.facing_dot_self (leastLength_pos.trans hn) position
  rw [force_of_catches hn hd h, Vec3.scale_dot, Vec3.dot_reflect _ _ hunit, Vec3.div_dot]
  ring

/-- Along the plane the flow goes on as it came. -/
theorem tangent_force_of_catches (h : s.Catches position downwash rotorRadius) :
    (g.force s position downwash thrust rotorRadius).tangent (s.facing position) =
      downwash.tangent (s.facing position) *
        (g.strength (s.distance position) thrust rotorRadius / downwash.norm) := by
  have hunit := Surface.facing_dot_self (leastLength_pos.trans hn) position
  rw [force_of_catches hn hd h, Vec3.tangent_scale, Vec3.tangent_reflect _ _ hunit,
    Vec3.tangent_div]
  ext <;> simp <;> ring

variable (hr : 0 < rotorRadius) (hpower : 0 ≤ g.power * thrust)

include hr hpower

theorem norm_force_of_catches (h : s.Catches position downwash rotorRadius) :
    (g.force s position downwash thrust rotorRadius).norm =
      g.strength (s.distance position) thrust rotorRadius := by
  have hunit := Surface.facing_dot_self (leastLength_pos.trans hn) position
  have hflow : (downwash / downwash.norm).norm = 1 := by
    rw [Vec3.norm_eq, Vec3.dot_self_div_norm (leastLength_pos.trans hd), Real.sqrt_one]
  rw [force_of_catches hn hd h, Vec3.norm_scale, Vec3.norm_reflect_one _ hunit, hflow, mul_one,
    abs_of_nonneg (strength_nonneg hr hpower _)]

end Force

/-! ## Moving along the normal -/

section Moving

variable {g : GroundEffect ℝ} {s : Surface ℝ} {position downwash : Vec3 ℝ}
  {thrust rotorRadius k : ℝ} (hn : leastLength < s.normal.norm)
  (hside : 0 < s.distance position + k)

include hn hside

theorem catches_add_iff :
    s.Catches (position + s.facing position * k) downwash rotorRadius ↔
      s.distance position + k ≤ 5 * rotorRadius ∧ downwash.dot (s.facing position) < 0 := by
  have hnormal : 0 < s.normal.norm := leastLength_pos.trans hn
  have hfacing := Surface.facing_add hnormal hside
  have hdistance := Surface.distance_add hnormal hside
  constructor
  · intro h
    exact ⟨hdistance ▸ h.near, hfacing ▸ h.toward⟩
  · rintro ⟨hnear, htoward⟩
    exact ⟨hdistance.symm ▸ hnear, hfacing.symm ▸ htoward⟩

variable (hd : leastLength < downwash.norm) (hr : 0 < rotorRadius)

include hd hr

/-- The force gets no larger on the way out. -/
theorem norm_force_add_le (hpower : 0 ≤ g.power * thrust) (hexponent : 0 ≤ g.exponent)
    (hk : 0 ≤ k) :
    (g.force s (position + s.facing position * k) downwash thrust rotorRadius).norm ≤
      (g.force s position downwash thrust rotorRadius).norm := by
  by_cases hmoved : s.Catches (position + s.facing position * k) downwash rotorRadius
  · obtain ⟨hnear, htoward⟩ := (catches_add_iff hn hside).1 hmoved
    have hfirst : s.Catches position downwash rotorRadius := ⟨by linarith, htoward⟩
    rw [norm_force_of_catches hn hd hr hpower hmoved, norm_force_of_catches hn hd hr hpower hfirst,
      Surface.distance_add (leastLength_pos.trans hn) hside]
    exact strength_antitone hr hpower hexponent (le_add_of_nonneg_right hk)
  · rw [force_of_not_catches hn hd hmoved, Vec3.norm_eq, Vec3.zero_dot, Real.sqrt_zero]
    exact Real.sqrt_nonneg _

/-- Within one radius the force is the same everywhere. -/
theorem force_add_of_close (hclose : s.distance position ≤ rotorRadius)
    (hclose' : s.distance position + k ≤ rotorRadius) :
    g.force s (position + s.facing position * k) downwash thrust rotorRadius =
      g.force s position downwash thrust rotorRadius := by
  have hnormal : 0 < s.normal.norm := leastLength_pos.trans hn
  by_cases hfirst : s.Catches position downwash rotorRadius
  · have hmoved : s.Catches (position + s.facing position * k) downwash rotorRadius :=
      (catches_add_iff hn hside).2 ⟨by linarith, hfirst.toward⟩
    rw [force_of_catches hn hd hmoved, force_of_catches hn hd hfirst,
      Surface.facing_add hnormal hside, Surface.distance_add hnormal hside,
      strength_of_le hr hclose', strength_of_le hr hclose]
  · have hmoved : ¬ s.Catches (position + s.facing position * k) downwash rotorRadius := by
      intro h
      exact hfirst ⟨by linarith, ((catches_add_iff hn hside).1 h).2⟩
    rw [force_of_not_catches hn hd hmoved, force_of_not_catches hn hd hfirst]

end Moving

/-! ## Size and direction -/

/-- The downwash comes back from a plane as its mirror image: within reach of the rotors, and if it
goes toward the plane, with a size that is full within one radius and fades with the distance, to
the side of the body.  The force is the same all along the way up to one radius and gets no larger
on the way out.  A normal too short to give a direction gives no force. -/
theorem force_mirrors (g : GroundEffect ℝ) {s : Surface ℝ} {position downwash : Vec3 ℝ}
    {thrust rotorRadius : ℝ} (hoff : ¬ s.Contains position) (hd : leastLength < downwash.norm)
    (hpower : 0 ≤ g.power * thrust) (hexponent : 0 ≤ g.exponent) (hr : 0 < rotorRadius) :
    let n := s.facing position
    let h := s.distance position
    let flow := downwash / downwash.norm
    let strength := g.power * thrust * (rotorRadius / max h rotorRadius) ^ g.exponent
    let force := g.force s position downwash thrust rotorRadius
    (n.dot n = 1 ∧ 0 < h ∧ s.Contains (position - n * h)) ∧
    (s.normal.norm ≤ leastLength → force = 0) ∧
    (leastLength < s.normal.norm →
      (5 * rotorRadius < h ∨ 0 ≤ downwash.dot n → force = 0) ∧
      (h ≤ 5 * rotorRadius → downwash.dot n < 0 →
        force = (flow - n * (2 * flow.dot n)) * strength ∧
        force.norm = strength ∧ strength ≤ g.power * thrust ∧
        0 ≤ force.dot n ∧ (0 < g.power * thrust → 0 < force.dot n) ∧
        force - n * force.dot n =
          (downwash - n * downwash.dot n) * (strength / downwash.norm)) ∧
      ∀ k, 0 < h + k →
        let moved := position + n * k
        let force' := g.force s moved downwash thrust rotorRadius
        s.facing moved = n ∧ s.distance moved = h + k ∧ (0 ≤ k → force'.norm ≤ force.norm) ∧
          (h ≤ rotorRadius → h + k ≤ rotorRadius → force' = force)) := by
  intro n h flow strength force
  have hnormal : 0 < s.normal.norm := by
    refine Vec3.norm_pos fun hzero => hoff ?_
    rw [Surface.Contains, hzero, Vec3.dot_comm, Vec3.zero_dot]
  have hdown : 0 < downwash.norm := leastLength_pos.trans hd
  refine ⟨⟨Surface.facing_dot_self hnormal position, Surface.distance_pos hnormal hoff,
    Surface.contains_foot hnormal position⟩, force_of_short_normal, fun hn => ⟨?_, ?_, ?_⟩⟩
  · intro hnone
    refine force_of_not_catches hn hd fun hcatches => ?_
    rcases hnone with hfar | haway
    · exact hcatches.near.not_gt hfar
    · exact hcatches.toward.not_ge haway
  · intro hnear htoward
    have hcatches : s.Catches position downwash rotorRadius := ⟨hnear, htoward⟩
    have hdot : force.dot n = -downwash.dot n / downwash.norm * strength :=
      dot_force_of_catches hn hd hcatches
    have hback : 0 < -downwash.dot n / downwash.norm := div_pos (neg_pos.2 htoward) hdown
    refine ⟨?_, norm_force_of_catches hn hd hr hpower hcatches,
      strength_le hr hpower hexponent h, ?_, fun hpos => ?_,
      tangent_force_of_catches hn hd hcatches⟩
    · have htwo : (2 : ℝ) = 1 + 1 := by norm_num
      rw [htwo]
      exact force_of_catches hn hd hcatches
    · rw [hdot]
      exact mul_nonneg hback.le (strength_nonneg hr hpower h)
    · rw [hdot]
      exact mul_pos hback (strength_pos hr hpos h)
  · intro k hside moved force'
    exact ⟨Surface.facing_add hnormal hside, Surface.distance_add hnormal hside,
      norm_force_add_le hn hside hd hr hpower hexponent, force_add_of_close hn hside hd hr⟩

/-- A body that leans away from a wall, four rotor radii before it, is pushed off the wall, whose
normal is turned away from the body. -/
theorem force_mirrors_wall :
    let wall : Surface ℝ := { point := ⟨1, 0, 0⟩, normal := ⟨2, 0, 0⟩ }
    let position : Vec3 ℝ := ⟨3 / 5, 0, -2⟩
    let downwash : Vec3 ℝ := ⟨3, 0, 4⟩
    leastLength < wall.normal.norm ∧ ¬ wall.Contains position ∧ leastLength < downwash.norm ∧
      wall.facing position = ⟨-1, 0, 0⟩ ∧ wall.distance position = 2 / 5 ∧
      standard.force wall position downwash 10 (1 / 10) = ⟨-(3 / 4), 0, 1⟩ := by
  intro wall position downwash
  have hnorm : wall.normal.norm = 2 := by
    rw [Vec3.norm_eq, Real.sqrt_eq_iff_mul_self_eq] <;> norm_num [wall, Vec3.dot]
  have hdown : downwash.norm = 5 := by
    rw [Vec3.norm_eq, Real.sqrt_eq_iff_mul_self_eq] <;> norm_num [downwash, Vec3.dot]
  have hn : leastLength < wall.normal.norm := by
    rw [hnorm]
    norm_num [leastLength]
  have hd : leastLength < downwash.norm := by
    rw [hdown]
    norm_num [leastLength]
  have hoff : ¬ wall.Contains position := by
    norm_num [Surface.Contains, wall, position, Vec3.dot]
  have hunit : wall.unit = ⟨1, 0, 0⟩ := by
    rw [Surface.unit, hnorm]
    ext <;> norm_num [wall]
  have hheight : wall.height position = -(2 / 5) := by
    rw [Surface.height, hunit]
    norm_num [wall, position, Vec3.dot]
  have hfacing : wall.facing position = ⟨-1, 0, 0⟩ := by
    rw [Surface.facing, hheight, if_pos (by norm_num), hunit]
    ext <;> simp
  have hdistance : wall.distance position = 2 / 5 := by
    rw [Surface.distance, hheight, abs_neg, abs_of_pos (by norm_num)]
  have hstrength : (standard : GroundEffect ℝ).power * 10 *
      (1 / 10 / max (2 / 5) (1 / 10) : ℝ) ^ (standard : GroundEffect ℝ).exponent = 5 / 4 := by
    have hratio : (1 / 10 / max (2 / 5) (1 / 10) : ℝ) = (1 / 2) ^ (2 : ℝ) := by norm_num
    rw [hratio, ← Real.rpow_mul (by norm_num)]
    norm_num [standard]
  obtain ⟨-, -, hforce⟩ := @force_mirrors standard wall position downwash 10 (1 / 10) hoff hd
    (by norm_num [standard]) (by norm_num [standard]) (by norm_num)
  obtain ⟨-, hreturned, -⟩ := hforce hn
  rw [hfacing, hdistance, hstrength, hdown] at hreturned
  obtain ⟨hvalue, -⟩ := hreturned (by norm_num) (by norm_num [downwash, Vec3.dot])
  refine ⟨hn, hoff, hd, hfacing, hdistance, ?_⟩
  rw [hvalue]
  ext <;> norm_num [downwash, Vec3.dot]

/-- A floor whose normal is too short gives no force, though the body is close and blows at it. -/
theorem force_of_short_normal_floor :
    let surface : Surface ℝ := { point := 0, normal := .vertical (1 / 10 ^ 10) }
    let position : Vec3 ℝ := ⟨0, 0, -(1 / 5)⟩
    let downwash : Vec3 ℝ := .vertical 1
    ¬ surface.Contains position ∧ leastLength < downwash.norm ∧
      surface.distance position ≤ 5 * (1 / 10) ∧ downwash.dot (surface.facing position) < 0 ∧
      standard.force surface position downwash 10 (1 / 10) = 0 ∧
      0 < standard.strength (surface.distance position) 10 (1 / 10) := by
  intro surface position downwash
  have hnorm : surface.normal.norm = 1 / 10 ^ 10 := by
    rw [Vec3.norm_vertical, abs_of_pos (by norm_num)]
  have hunit : surface.unit = .vertical 1 := by
    rw [Surface.unit, hnorm]
    ext <;> norm_num [surface]
  have hheight : surface.height position = -(1 / 5) := by
    rw [Surface.height, hunit]
    norm_num [surface, position, Vec3.dot]
  have hdistance : surface.distance position = 1 / 5 := by
    rw [Surface.distance, hheight, abs_neg, abs_of_pos (by norm_num)]
  refine ⟨?_, ?_, ?_, ?_, force_of_short_normal ?_, ?_⟩
  · norm_num [Surface.Contains, surface, position, Vec3.dot]
  · rw [Vec3.norm_vertical]
    norm_num [leastLength]
  · rw [hdistance]
    norm_num
  · rw [Surface.facing, hheight, if_pos (by norm_num), hunit]
    norm_num [downwash, Vec3.dot]
  · rw [hnorm]
    norm_num [leastLength]
  · exact strength_pos (by norm_num) (by norm_num [standard]) _

end GroundEffect

end Multirotor
