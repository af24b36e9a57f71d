import Multirotor.Proofs.Body.Frames
import Multirotor.Proofs.Pilot.Envelope

/-!
# Climbing at a tilt

The loop of the climb rate answers with an acceleration, and the thrust for it is divided by the
cosine of the tilt.  The law of motion multiplies the thrust by this cosine again
(`Forces.groundAcceleration_z`), so unless the thrust is held back the body accelerates upward by
the answer of the loop, however it is turned.

Whether the thrust was held back decides how the loop integrates in the next tick.  Each tick says
so anew (`ClimbControl.isLimited_run`) and the rotors can only add to it
(`ClimbControl.foldl_addLimit`); `ClimbControl.climbs_as_asked` follows the flag from a tick to the
next, for the stage by itself and within the autopilot.
-/

namespace Multirotor

open Scalar

/-- Without drag and other forces, the vertical part of the law in the ground frame. -/
theorem Forces.groundAcceleration_z {f : Forces ℝ} (hdrag : f.drag = 0) (hexternal : f.external = 0)
    (e : Euler ℝ) (v : Vec3 ℝ) : (f.groundAcceleration e v).z =
      (f.mass * f.gravity - f.thrust * (Real.cos e.roll * Real.cos e.pitch)) / f.mass := by
  have hthrust : (e.toGround (.vertical (-f.thrust))).z =
      -f.thrust * (Real.cos e.roll * Real.cos e.pitch) := by
    simp [Euler.toGround, Euler.rotation, Mat3.apply, Vec3.dot]
    ring
  rw [groundAcceleration, hdrag, Drag.zero_force, hexternal]
  rw [Vec3.div_z, Vec3.add_z, Vec3.add_z, Vec3.add_z, hthrust, Vec3.vertical_z, Vec3.zero_z]
  ring

namespace ClimbControl

variable (c : ClimbControl ℝ) (target altitude climbRate : ℝ) (e : Euler ℝ)

/-- The acceleration that the loop of the climb rate answers with in a tick, and the loop after
it. -/
noncomputable def steer (limited : Bool) : ℝ × Pid ℝ :=
  c.loop.update (c.climbTarget target altitude) climbRate limited

/-- The thrust that a tick asks for, before it is held within what the rotors deliver. -/
noncomputable def wantedThrust : ℝ :=
  c.thrustFor (c.steer target altitude climbRate c.isLimited).1 e

/-- The rotors deliver the thrust that a tick asks for. -/
def CanDeliver : Prop :=
  0 ≤ c.wantedThrust target altitude climbRate e ∧
    c.wantedThrust target altitude climbRate e ≤ c.maxThrust

/-- The outcome of a tick in which the loop of the climb rate is updated with the given flag. -/
structure RunsWith (limited : Bool) (ran : ℝ × ClimbControl ℝ) : Prop where
  loop : ran.2.loop = (c.steer target altitude climbRate limited).2
  thrust : ran.1 = clamp (c.thrustFor (c.steer target altitude climbRate limited).1 e) 0 c.maxThrust

/-! ## The thrust -/

variable {c target altitude climbRate e}

theorem run_fst_eq_iff : (c.run target altitude climbRate e).1 =
    c.wantedThrust target altitude climbRate e ↔ c.CanDeliver target altitude climbRate e :=
  clamp_eq_self_iff _

/-- The thrust for an acceleration, turned to the vertical. -/
theorem thrustFor_mul_tilt (htilt : 0.2 ≤ Real.cos e.roll * Real.cos e.pitch) (acceleration : ℝ) :
    c.thrustFor acceleration e * (Real.cos e.roll * Real.cos e.pitch) =
      c.mass * (c.gravity + acceleration) := by
  have hleast : (leastTilt : ℝ) ≤ Real.cos e.roll * Real.cos e.pitch := by
    norm_num [leastTilt] at htilt ⊢
    exact htilt
  have hpos : 0 < Real.cos e.roll * Real.cos e.pitch := by linarith
  rw [thrustFor, larger_real, cos_real, cos_real, max_eq_left hleast, div_mul_cancel₀ _ hpos.ne']

/-- Thrust that is not held back accelerates a body upward as asked for. -/
theorem groundAcceleration_run (hmass : 0 < c.mass)
    (htilt : 0.2 ≤ Real.cos e.roll * Real.cos e.pitch)
    (h : c.CanDeliver target altitude climbRate e) (wind v : Vec3 ℝ) :
    (Forces.groundAcceleration
      { thrust := (c.run target altitude climbRate e).1, mass := c.mass, gravity := c.gravity, wind
        drag := 0, external := 0 } e v).z = -(c.steer target altitude climbRate c.isLimited).1 := by
  rw [Forces.groundAcceleration_z rfl rfl, run_fst_eq_iff.2 h, wantedThrust,
    thrustFor_mul_tilt htilt]
  dsimp only
  rw [← mul_sub, sub_add_cancel_left, mul_div_cancel_left₀ _ hmass.ne']

/-! ## The flag -/

theorem runsWith_run : c.RunsWith target altitude climbRate e c.isLimited
    (c.run target altitude climbRate e) := ⟨rfl, rfl⟩

theorem isLimited_run : (c.run target altitude climbRate e).2.isLimited = true ↔
    ¬ c.CanDeliver target altitude climbRate e := by
  rw [← run_fst_eq_iff]
  exact bne_iff_ne

theorem foldl_addLimit (limits : List Bool) :
    limits.foldl addLimit c = { c with isLimited := c.isLimited || limits.any id } := by
  induction limits generalizing c with
  | nil => rw [List.foldl_nil, List.any_nil, Bool.or_false]
  | cons limited limits ih =>
    rw [List.foldl_cons, ih, List.any_cons, ← Bool.or_assoc]
    rfl

theorem isLimited_foldl_addLimit_run (limits : List Bool) :
    (limits.foldl addLimit (c.run target altitude climbRate e).2).isLimited = true ↔
      ¬ c.CanDeliver target altitude climbRate e ∨ true ∈ limits := by
  rw [foldl_addLimit, ← isLimited_run]
  simp

end ClimbControl

/-! ## Within the autopilot -/

namespace Autopilot

variable (a : Autopilot ℝ) (o : Observation ℝ) (target : Option (Target ℝ))

theorem thrust_run : (a.run o target).1.demand.thrust =
    (a.climb.run (a.guide o target).1.altitude (-o.position.z) (-o.groundVelocity.z)
      o.angles).1 := by
  rw [← guide_climb a o target]
  rfl

theorem climb_run : (a.run o target).2.climb =
    (a.climb.run (a.guide o target).1.altitude (-o.position.z) (-o.groundVelocity.z)
      o.angles).2.addLimit ((a.mixer.saturation (a.run o target).1.demand).lower ||
        (a.mixer.saturation (a.run o target).1.demand).upper) := by
  have hmixer : (a.guide o target).2.mixer = a.mixer := congrArg (·.mixer) (reset_guide a o target)
  rw [← hmixer, ← guide_climb a o target]
  rfl

end Autopilot

/-- A tick that can deliver its thrust accelerates the body upward by the answer of the loop, at any
tilt that is made up for.  The next tick updates the loop with the flag exactly if the thrust was
held back or the rotors were reported to be saturated in between; in the autopilot the report is
that of the mixer. -/
theorem ClimbControl.climbs_as_asked (c : ClimbControl ℝ) (target altitude climbRate : ℝ)
    (e : Euler ℝ) :
    let ran := c.run target altitude climbRate e
    c.RunsWith target altitude climbRate e c.isLimited ran ∧
    (0 < c.mass → 0.2 ≤ Real.cos e.roll * Real.cos e.pitch →
      c.CanDeliver target altitude climbRate e → ∀ wind v : Vec3 ℝ,
        (Forces.groundAcceleration
          { thrust := ran.1, mass := c.mass, gravity := c.gravity, wind, drag := 0, external := 0 }
          e v).z = -(c.steer target altitude climbRate c.isLimited).1) ∧
    (∀ (limits : List Bool) target' altitude' climbRate' e', ∃ limited : Bool,
      (limited = true ↔ ¬ c.CanDeliver target altitude climbRate e ∨ true ∈ limits) ∧
        ran.2.RunsWith target' altitude' climbRate' e' limited
          ((limits.foldl addLimit ran.2).run target' altitude' climbRate' e')) ∧
    ∀ (a : Autopilot ℝ) o goal o' goal',
      let first := a.run o goal
      let next := first.2.run o' goal'
      ∃ limited : Bool,
        (limited = true ↔ ¬ a.climb.CanDeliver (a.guide o goal).1.altitude (-o.position.z)
            (-o.groundVelocity.z) o.angles ∨
          (a.mixer.saturation first.1.demand).lower = true ∨
          (a.mixer.saturation first.1.demand).upper = true) ∧
        first.2.climb.RunsWith (first.2.guide o' goal').1.altitude (-o'.position.z)
          (-o'.groundVelocity.z) o'.angles limited (next.1.demand.thrust, next.2.climb) := by
  intro ran
  refine ⟨runsWith_run, groundAcceleration_run, ?_, ?_⟩
  · intro limits target' altitude' climbRate' e'
    refine ⟨_, isLimited_foldl_addLimit_run limits, ?_⟩
    rw [foldl_addLimit]
    exact ⟨rfl, rfl⟩
  · intro a o goal o' goal' first next
    refine ⟨first.2.climb.isLimited, ?_, ?_⟩
    · have hflag : first.2.climb = [(a.mixer.saturation first.1.demand).lower ||
          (a.mixer.saturation first.1.demand).upper].foldl addLimit (a.climb.run _ _ _ _).2 :=
        a.climb_run o goal
      rw [hflag, isLimited_foldl_addLimit_run, List.mem_singleton, eq_comm, Bool.or_eq_true]
    · rw [first.2.thrust_run, first.2.climb_run]
      exact ⟨rfl, rfl⟩

/-- A body that leans to the side by a third of half a turn and is a meter below its target. -/
theorem ClimbControl.climbs_as_asked_leaning :
    let c : ClimbControl ℝ := .start .standard 2 9.81 100 0.001
    let e : Euler ℝ := ⟨Real.pi / 3, 0, 1⟩
    0 < c.mass ∧ 0.2 ≤ Real.cos e.roll * Real.cos e.pitch ∧ c.CanDeliver 11 10 0 e ∧
      (Forces.groundAcceleration
        { thrust := (c.run 11 10 0 e).1, mass := c.mass, gravity := c.gravity, wind := 0, drag := 0
          external := 0 } e 0).z = -3.0005 := by
  intro c e
  have hmass : 0 < c.mass := two_pos
  have hcos : Real.cos e.roll * Real.cos e.pitch = 1 / 2 := by
    change Real.cos (Real.pi / 3) * Real.cos 0 = 1 / 2
    rw [Real.cos_pi_div_three, Real.cos_zero, mul_one]
  have htilt : 0.2 ≤ Real.cos e.roll * Real.cos e.pitch := by
    rw [hcos]
    norm_num
  have hclimb : c.climbTarget 11 10 = 1 := by
    rw [climbTarget, clamp_of_mem] <;> norm_num [c, start, PilotParameters.standard]
  have hanswer : (c.steer 11 10 0 c.isLimited).1 = 3.0005 := by
    rw [steer, hclimb]
    norm_num [c, start, PilotParameters.standard, Pid.start, Pid.update, Pid.observe,
      Pid.integrate, Pid.nextIntegrator, Pid.mayIntegrate]
  have hwanted : c.wantedThrust 11 10 0 e = 51.242 := by
    have hleaning := thrustFor_mul_tilt (c := c) htilt (c.steer 11 10 0 c.isLimited).1
    have hweight : c.mass * (c.gravity + 3.0005) = 25.621 := by norm_num [c, start]
    rw [hcos, hanswer, hweight] at hleaning
    rw [wantedThrust, hanswer]
    linarith
  have hdeliver : c.CanDeliver 11 10 0 e := by
    rw [CanDeliver, hwanted]
    norm_num [c, start]
  obtain ⟨-, haccelerates, -⟩ := climbs_as_asked c 11 10 0 e
  exact ⟨hmass, htilt, hdeliver, (haccelerates hmass htilt hdeliver 0 0).trans (by rw [hanswer])⟩

end Multirotor
