import Multirotor.Proofs.Body.Ground
import Multirotor.Proofs.Body.Poised
import Multirotor.Proofs.Instrument.Constant
import Multirotor.Proofs.Space.Standstill

/-!
# Rest on the ground

A body that lies on the ground under no more than its weight (`RigidBody.Rests`) is set in motion by
the integration in every tick: gravity accelerates it downward, and one of the two schemes moves it
below the ground at once.  The ground undoes all of that (`RigidBody.held_of_pressed`), so that a
tick changes nothing but the recorded acceleration and the names of the angles.  Only a pose that an
operator gives can move the body, and as long as none does, an accelerometer shows the ground
pushing upward (`RigidBody.stays_at_rest_iff`).
-/

namespace Multirotor

/-! ## Attitudes under no turn -/

namespace Attitude

variable {a : Attitude ℝ}

theorem IsProper.rotation_advance_zero (h : a.IsProper) (dt : ℝ) :
    (a.advance 0 dt).rotation = a.rotation := by
  cases a with
  | euler e =>
    rw [advance_euler]
    exact e.rotation_step_zero dt
  | quaternion q => exact congrArg Quaternion.rotation (q.advance_zero h dt)

end Attitude

/-- Level, the vertical axes of the body and of the ground are one. -/
theorem Euler.transpose_apply_vertical {e : Euler ℝ} (hroll : e.roll = 0) (hpitch : e.pitch = 0)
    (t : ℝ) : e.rotation.transpose.apply (.vertical t) = .vertical t := by
  ext <;> simp [rotation, hroll, hpitch, Mat3.transpose, Mat3.apply, Vec3.dot]

/-! ## Forces -/

theorem Vec3.vertical_scale (s t : ℝ) : vertical s * t = vertical (s * t) := by
  ext <;> simp

/-- In still air the thrust and the weight alone accelerate a body that does not move. -/
theorem Forces.bodyAcceleration_still {f : Forces ℝ} (hwind : f.wind = 0)
    (hexternal : f.external = 0) (e : Euler ℝ) : f.bodyAcceleration e 0 0 =
      (.vertical (-f.thrust) + e.rotation.transpose.apply (.vertical (f.mass * f.gravity))) /
        f.mass := by
  have hdrag : f.drag.force 0 = 0 := by
    ext <;> simp [Drag.force, Vec3.map]
  have hair : (0 : Vec3 ℝ) - 0 = 0 := by ext <;> simp
  rw [bodyAcceleration, hwind, hexternal, Mat3.apply_zero, hair, hdrag]
  ext <;> simp

namespace RigidBody

/-- In one tick nothing but the weight and the thrust acts on the body, and the thrust is zero, or
the body is level and is not lifted. -/
structure LeftAlone (b : RigidBody ℝ) (input : BodyInput ℝ) : Prop where
  torque : input.wrench.torque = 0
  wind : (input.weather.getD .standard).wind = 0
  surface : (input.weather.getD .standard).surface = none
  thrust : input.wrench.thrust = 0 ∨
    (∀ t, b.attitude.rotation.transpose.apply (.vertical t) = .vertical t) ∧
      0 ≤ input.wrench.thrust ∧ input.wrench.thrust ≤ b.airframe.mass * b.airframe.gravity

/-- The body lies on the ground, within its bounds. -/
structure Rests (b : RigidBody ℝ) : Prop where
  mass : 0 < b.airframe.mass
  gravity : 0 ≤ b.airframe.gravity
  dt : 0 < b.dt
  ground : b.options.groundContact = true
  height : b.position.z = 0
  velocity : b.velocity = 0
  angularVelocity : b.angularVelocity = 0
  attitude : b.attitude.IsProper
  bounds : ∀ bounds ∈ b.options.bounds, bounds.isDiverged b.motion = false
  pending : b.pending = none

variable {b : RigidBody ℝ} {input : BodyInput ℝ}

/-- How much of gravity the thrust leaves. -/
noncomputable def residue (b : RigidBody ℝ) (input : BodyInput ℝ) : ℝ :=
  b.airframe.gravity - input.wrench.thrust / b.airframe.mass

/-- The body after a tick that it lies through: the acceleration is recorded, and Euler angles are
brought back. -/
noncomputable def rested (b : RigidBody ℝ) (input : BodyInput ℝ) : RigidBody ℝ :=
  { b with
    acceleration := b.attitude.rotation.transpose.apply (.vertical (b.residue input))
    attitude := b.attitude.advance 0 b.dt }

namespace LeftAlone

theorem residue_nonneg (h : b.LeftAlone input) (hmass : 0 < b.airframe.mass)
    (hgravity : 0 ≤ b.airframe.gravity) : 0 ≤ b.residue input := by
  rw [residue, sub_nonneg, div_le_iff₀ hmass, mul_comm]
  rcases h.thrust with hzero | ⟨-, -, hle⟩
  · rw [hzero]
    exact mul_nonneg hmass.le hgravity
  · exact hle

/-- The thrust is vertical in both frames, since it is zero or the body is level. -/
theorem transpose_apply_thrust (h : b.LeftAlone input) :
    b.attitude.rotation.transpose.apply (.vertical (-input.wrench.thrust)) =
      .vertical (-input.wrench.thrust) := by
  rcases h.thrust with hzero | ⟨hlevel, -⟩
  · have hvertical : Vec3.vertical (-input.wrench.thrust) = 0 := by
      rw [hzero]
      ext <;> simp
    rw [hvertical, Mat3.apply_zero]
  · exact hlevel _

end LeftAlone

/-! ## One tick -/

/-- The ground takes back what a tick adds to the height and to the velocity of a body on it. -/
theorem held_of_pressed {p : Vec3 ℝ} {v k : ℝ} (hground : b.options.groundContact = true)
    (hattitude : b.attitude.IsProper) (hp : p.z = 0) (hposition : b.position = p + .vertical k)
    (hvelocity : b.velocity = b.attitude.rotation.transpose.apply (.vertical v))
    (hspin : b.angularVelocity = 0) (hk : 0 ≤ k) (hv : 0 ≤ v) (hstill : v = 0 → k = 0) :
    b.held = { b with position := p, velocity := 0 } := by
  have hvertical : b.groundVelocity = .vertical v := by
    rw [groundVelocity, hvelocity, hattitude.isRotation.apply_transpose_apply]
  have hz : b.position.z = k := by
    rw [hposition, Vec3.add_z, hp, Vec3.vertical_z, zero_add]
  rw [held, if_pos hground]
  rcases hv.eq_or_lt with hv | hv
  · have hk := hstill hv.symm
    have hrests : ¬ b.Sinks := not_sinks_iff.2 (.inr ⟨hz.trans hk, by rw [hvertical, ← hv]; rfl⟩)
    have hzero : Vec3.vertical (0 : ℝ) = 0 := rfl
    rw [hk, hzero, Vec3.add_zero] at hposition
    rw [← hv, hzero, Mat3.apply_zero] at hvelocity
    rw [holdAboveGround_of_not_sinks hrests, ← hposition, ← hvelocity]
  · have hsinks : b.Sinks := by
      rw [Sinks, hz, hvertical]
      exact hk.lt_or_eq.imp id fun hk => ⟨hk.symm, hv⟩
    have hplace : { b.position with z := 0 } = p := by
      rw [hposition]
      ext <;> simp [hp]
    have hstop : { b.groundVelocity with z := min b.groundVelocity.z 0 } = (0 : Vec3 ℝ) := by
      rw [hvertical]
      ext <;> simp [hv.le]
    rw [holdAboveGround_of_sinks hsinks, landed, hplace, hstop]
    simp only [setPosition, setGroundVelocity, setAngularVelocity, Mat3.apply_zero, hspin]

namespace Rests

/-- Gravity, less what the thrust carries, accelerates the body straight down. -/
theorem bodyAcceleration (h : b.Rests) (hinput : b.LeftAlone input) :
    (b.forces (input.weather.getD .standard) input.wrench.thrust).bodyAcceleration b.angles
        b.velocity b.angularVelocity =
      b.attitude.rotation.transpose.apply (.vertical (b.residue input)) := by
  have hexternal : b.surfaceForce (input.weather.getD .standard) input.wrench.thrust = 0 := by
    unfold surfaceForce
    rw [hinput.surface]
    cases b.options.groundEffect <;> rfl
  have hsum : (Vec3.vertical (-input.wrench.thrust) +
      Vec3.vertical (b.airframe.mass * b.airframe.gravity)) / b.airframe.mass =
        Vec3.vertical (b.residue input) := by
    have hmass := h.mass.ne'
    ext
    · simp
    · simp
    · simp only [residue, Vec3.div_z, Vec3.add_z, Vec3.vertical_z]
      field_simp
      ring
  rw [h.velocity, h.angularVelocity, Forces.bodyAcceleration_still hinput.wind hexternal, angles,
    h.attitude.rotation_angles, ← hsum, Mat3.apply_div, Mat3.apply_add,
    hinput.transpose_apply_thrust]
  rfl

/-- The integration sets the body in motion, and in one of the schemes it moves it as well. -/
theorem integrate (h : b.Rests) (hinput : b.LeftAlone input) : ∃ k : ℝ,
    0 ≤ k ∧ (b.residue input = 0 → k = 0) ∧
    b.integrate input =
      { b.rested input with
        velocity := b.attitude.rotation.transpose.apply (.vertical (b.residue input * b.dt))
        position := b.position + .vertical k } := by
  have hresidue := hinput.residue_nonneg h.mass h.gravity
  have hturning :
      angularAcceleration b.angularVelocity input.wrench.torque b.airframe.inertia = 0 := by
    rw [h.angularVelocity, hinput.torque]
    exact angularAcceleration_zero _
  have hstay (v : Vec3 ℝ) : v + (0 : Vec3 ℝ) * b.dt = v := by ext <;> simp
  have hvelocity : b.velocity +
      b.attitude.rotation.transpose.apply (.vertical (b.residue input)) * b.dt =
        b.attitude.rotation.transpose.apply (.vertical (b.residue input * b.dt)) := by
    rw [h.velocity, Vec3.zero_add, ← Mat3.apply_scale, Vec3.vertical_scale]
  unfold RigidBody.integrate
  dsimp only
  rw [h.bodyAcceleration hinput, hturning, hstay, hvelocity]
  cases b.options.integration with
  | explicitEuler =>
    refine ⟨0, le_rfl, fun _ => rfl, ?_⟩
    have hplace : b.position + .vertical 0 = b.position := Vec3.add_zero _
    simp only [h.velocity, h.angularVelocity, Mat3.apply_zero, hstay, hplace, rested]
  | semiImplicitEuler =>
    refine ⟨b.residue input * b.dt * b.dt,
      mul_nonneg (mul_nonneg hresidue h.dt.le) h.dt.le, fun hzero => by simp [hzero], ?_⟩
    simp only [h.angularVelocity, h.attitude.isRotation.apply_transpose_apply, Vec3.vertical_scale,
      rested]

theorem held (h : b.Rests) (hinput : b.LeftAlone input) :
    (b.integrate input).held = b.rested input := by
  obtain ⟨k, hk, hstill, hintegrate⟩ := h.integrate hinput
  have hfall := mul_nonneg (hinput.residue_nonneg h.mass h.gravity) h.dt.le
  have hheld : (b.integrate input).held =
      { b.integrate input with position := b.position, velocity := 0 } := by
    refine held_of_pressed ?_ ?_ h.height (k := k) (v := b.residue input * b.dt) ?_ ?_ ?_ hk hfall
      fun hzero => hstill ((mul_eq_zero.1 hzero).resolve_right h.dt.ne') <;> rw [hintegrate]
    · exact h.ground
    · exact h.attitude.advance 0 b.dt
    · rw [rested, h.attitude.rotation_advance_zero]
    · exact h.angularVelocity
  rw [hheld, hintegrate]
  simp only [rested, h.velocity]

theorem motion_rested (h : b.Rests) (input : BodyInput ℝ) : (b.rested input).motion = b.motion := by
  simp only [motion, groundVelocity, rested, h.attitude.rotation_advance_zero]

theorem run_of_free (h : b.Rests) (hinput : b.LeftAlone input) (hfree : b.placement input = none) :
    (b.run input).1 = b.rested input := by
  have hreleased : b.released = b := by rw [released, ← h.pending]
  rw [RigidBody.run_of_free hfree, hreleased, h.held hinput, h.pending]
  exact confined_of_within fun bounds hb => h.motion_rested input ▸ h.bounds bounds hb

end Rests

/-! ## Any number of ticks -/

/-- The body lies where another one lies, at the same rotation, and is built alike. -/
structure LiesAs (b first : RigidBody ℝ) : Prop where
  airframe : b.airframe = first.airframe
  options : b.options = first.options
  dt : b.dt = first.dt
  position : b.position = first.position
  velocity : b.velocity = first.velocity
  angularVelocity : b.angularVelocity = first.angularVelocity
  rotation : b.attitude.rotation = first.attitude.rotation
  attitude : b.attitude.IsProper
  pending : b.pending = none

/-- A pose that an operator gives in the tick is the one that the body has. -/
def Unmoved (b : RigidBody ℝ) (input : BodyInput ℝ) : Prop :=
  ∀ pose ∈ b.placement input,
    pose.position = b.position ∧ pose.angles.rotation = b.attitude.rotation

namespace LiesAs

variable {first b' : RigidBody ℝ}

theorem trans (h' : b'.LiesAs b) (h : b.LiesAs first) : b'.LiesAs first where
  airframe := h'.airframe.trans h.airframe
  options := h'.options.trans h.options
  dt := h'.dt.trans h.dt
  position := h'.position.trans h.position
  velocity := h'.velocity.trans h.velocity
  angularVelocity := h'.angularVelocity.trans h.angularVelocity
  rotation := h'.rotation.trans h.rotation
  attitude := h'.attitude
  pending := h'.pending

theorem motion (h : b.LiesAs first) : b.motion = first.motion := by
  simp only [RigidBody.motion, groundVelocity, h.position, h.velocity, h.angularVelocity,
    h.rotation]

theorem rests (h : b.LiesAs first) (hfirst : first.Rests) : b.Rests where
  mass := h.airframe ▸ hfirst.mass
  gravity := h.airframe ▸ hfirst.gravity
  dt := h.dt ▸ hfirst.dt
  ground := h.options ▸ hfirst.ground
  height := h.position ▸ hfirst.height
  velocity := h.velocity.trans hfirst.velocity
  angularVelocity := h.angularVelocity.trans hfirst.angularVelocity
  attitude := h.attitude
  bounds := by
    rw [h.options, h.motion]
    exact hfirst.bounds
  pending := h.pending

theorem leftAlone (h : b.LiesAs first) (hinput : first.LeftAlone input) : b.LeftAlone input where
  torque := hinput.torque
  wind := hinput.wind
  surface := hinput.surface
  thrust := by
    rw [h.rotation, h.airframe]
    exact hinput.thrust

theorem unmoved_iff (h : b.LiesAs first) : b.Unmoved input ↔ first.Unmoved input := by
  rw [Unmoved, Unmoved, placement, placement, h.options, h.position, h.rotation]

end LiesAs

namespace Rests

theorem liesAs_self (h : b.Rests) : b.LiesAs b :=
  ⟨rfl, rfl, rfl, rfl, rfl, rfl, rfl, h.attitude, h.pending⟩

/-- A tick leaves the body where it lies, unless an operator moves it. -/
theorem run (h : b.Rests) (hinput : b.LeftAlone input) (hpose : b.Unmoved input) :
    (b.run input).1.LiesAs b := by
  cases hplacement : b.placement input with
  | none =>
    rw [h.run_of_free hinput hplacement]
    exact
      { h.liesAs_self with
        rotation := h.attitude.rotation_advance_zero b.dt
        attitude := h.attitude.advance 0 b.dt }
  | some pose =>
    obtain ⟨hposition, hrotation⟩ := hpose pose hplacement
    rw [run_of_placement hplacement]
    exact
      { h.liesAs_self with
        position := hposition
        rotation := (b.attitude.rotation_setAngles _).trans hrotation
        attitude := Attitude.isProper_ofAngles _ _
        pending := rfl }

end Rests

section Sensed

variable {α : Type} [Scalar α]

/-- What an accelerometer senses of the body. -/
def inertialMotion (b : RigidBody α) : InertialMotion α :=
  { velocity := b.velocity, angularVelocity := b.angularVelocity, angles := b.angles }

/-- The body and an accelerometer on it after ticks with the given inputs. -/
def sensed (b : RigidBody α) (a : Accelerometer α) (inputs : List (BodyInput α)) :
    RigidBody α × Accelerometer α :=
  inputs.foldl
    (fun s input =>
      let b := (s.1.run input).1
      (b, s.2.run b.inertialMotion))
    (b, a)

theorem sensed_concat (b : RigidBody α) (a : Accelerometer α) (past : List (BodyInput α))
    (input : BodyInput α) :
    let s := b.sensed a past
    let now := (s.1.run input).1
    b.sensed a (past ++ [input]) = (now, s.2.run now.inertialMotion) := by
  intro s now
  rw [sensed, List.foldl_append]
  rfl

theorem reset_sensed (b : RigidBody α) (a : Accelerometer α) (inputs : List (BodyInput α)) :
    (b.sensed a inputs).1.reset = b.reset := by
  induction inputs using List.reverseRecOn with
  | nil => rfl
  | append_singleton past input ih => rw [sensed_concat, reset_run, ih]

end Sensed

namespace Rests

theorem sensed (h : b.Rests) {a : Accelerometer ℝ} (hsilent : a.triad.noise.generator = none)
    {inputs : List (BodyInput ℝ)} (hinputs : ∀ input ∈ inputs, b.LeftAlone input)
    (hposes : ∀ input ∈ inputs, b.Unmoved input) :
    let force := -b.attitude.rotation.transpose.apply (.vertical a.gravity)
    let s := b.sensed a.reset inputs
    s.1.LiesAs b ∧ s.2.Steady 0 force ∧ s.2.gravity = a.gravity ∧
      (inputs ≠ [] → s.2.value = force) := by
  intro force
  induction inputs using List.reverseRecOn with
  | nil =>
    exact ⟨h.liesAs_self, Accelerometer.steady_reset hsilent _ _, rfl, fun hne => absurd rfl hne⟩
  | append_singleton past input ih =>
    obtain ⟨hlies, hsteady, hgravity, -⟩ :=
      ih (fun i hi => hinputs i (List.mem_append_left _ hi))
        fun i hi => hposes i (List.mem_append_left _ hi)
    have hlast : input ∈ past ++ [input] := List.mem_append_right _ (List.mem_singleton_self _)
    have hnow : ((b.sensed a.reset past).1.run input).1.LiesAs b :=
      ((hlies.rests h).run (hlies.leftAlone (hinputs input hlast))
        (hlies.unmoved_iff.2 (hposes input hlast))).trans hlies
    set now := ((b.sensed a.reset past).1.run input).1
    have hvelocity : now.inertialMotion.velocity = 0 := hnow.velocity.trans h.velocity
    have hforce : now.inertialMotion.angularVelocity.cross now.inertialMotion.velocity -
        now.inertialMotion.angles.toBody (.vertical (b.sensed a.reset past).2.gravity) = force := by
      have hrotation : now.angles.rotation = b.attitude.rotation :=
        hnow.attitude.rotation_angles.trans hnow.rotation
      have hstill (w f : Vec3 ℝ) : w.cross 0 - f = -f := by ext <;> simp
      rw [hvelocity, hgravity, hstill, Euler.toBody, inertialMotion, hrotation]
    rw [← hvelocity] at hsteady
    rw [sensed_concat]
    refine ⟨hnow, ?_, hgravity, fun _ => hsteady.value_run hforce⟩
    have hrun := hsteady.run hforce
    rw [hvelocity] at hrun
    exact hrun

end Rests

/-- A body that lies on the ground, tilted in any way, under no thrust or level under at most its
weight, stays there tick after tick with its rotation, and an accelerometer without noise shows the
ground carrying it, whatever the length of its windows; unless an operator gives a pose, and it is
another one. -/
theorem stays_at_rest_iff (h : b.Rests) {a : Accelerometer ℝ}
    (hsilent : a.triad.noise.generator = none) {inputs : List (BodyInput ℝ)}
    (hcalm : ∀ input ∈ inputs, input.wrench.torque = 0 ∧
      (input.weather.getD .standard).wind = 0 ∧ (input.weather.getD .standard).surface = none)
    (hthrust : ∀ input ∈ inputs, input.wrench.thrust = 0 ∨
      (b.angles.roll = 0 ∧ b.angles.pitch = 0) ∧ 0 ≤ input.wrench.thrust ∧
        input.wrench.thrust ≤ b.airframe.mass * b.airframe.gravity) :
    let R := b.attitude.rotation
    (∀ past, past <+: inputs →
      let s := b.sensed a.reset past
      s.1.position = b.position ∧ s.1.velocity = 0 ∧ s.1.angularVelocity = 0 ∧
        s.1.attitude.rotation = R ∧
        (past ≠ [] → s.2.value = -R.transpose.apply (.vertical a.gravity))) ↔
      ∀ input ∈ inputs, ∀ pose ∈ b.placement input,
        pose.position = b.position ∧ pose.angles.rotation = R := by
  intro R
  have hlevel (hangles : b.angles.roll = 0 ∧ b.angles.pitch = 0) (t : ℝ) :
      R.transpose.apply (.vertical t) = .vertical t := by
    have hrotation : b.angles.rotation = R := h.attitude.rotation_angles
    rw [← hrotation]
    exact Euler.transpose_apply_vertical hangles.1 hangles.2 t
  have hinputs : ∀ input ∈ inputs, b.LeftAlone input := fun input hi =>
    { torque := (hcalm input hi).1
      wind := (hcalm input hi).2.1
      surface := (hcalm input hi).2.2
      thrust := (hthrust input hi).imp id fun hle => ⟨hlevel hle.1, hle.2⟩ }
  constructor
  · intro hstays input hi pose hpose
    obtain ⟨past, rest, rfl⟩ := List.append_of_mem hi
    have hprefix : past ++ [input] <+: past ++ input :: rest :=
      ⟨rest, by rw [List.append_assoc, List.singleton_append]⟩
    obtain ⟨hposition, -, -, hrotation, -⟩ := hstays _ hprefix
    have hoptions : (b.sensed a.reset past).1.options = b.options :=
      options_eq_of_reset (reset_sensed b _ past)
    have hplacement : (b.sensed a.reset past).1.placement input = some pose := by
      rw [placement, hoptions]
      exact hpose
    rw [sensed_concat, run_of_placement hplacement] at hposition hrotation
    exact ⟨hposition, (Attitude.rotation_setAngles _ _).symm.trans hrotation⟩
  · intro hposes past hpast
    obtain ⟨hlies, -, -, hvalue⟩ := h.sensed hsilent (fun i hi => hinputs i (hpast.subset hi))
      fun i hi => hposes i (hpast.subset hi)
    exact ⟨hlies.position, hlies.velocity.trans h.velocity,
      hlies.angularVelocity.trans h.angularVelocity, hlies.rotation, hvalue⟩

/-- A body that leans on the ground with its nose raised, and is put there once more by an
operator. -/
theorem stays_at_rest_iff_leaning :
    let q : Quaternion ℝ := ⟨0, 3 / 5, 0, 4 / 5⟩
    let b : RigidBody ℝ :=
      { airframe :=
          { mass := 1.5, inertia := ⟨1, 2, 3⟩, gravity := 9.81
            drag := { linear := 0.05, quadratic := 0.01 }, rotorRadius := 0.05 }
        options :=
          { BodyOptions.none with
            manualControl := true, groundContact := true, integration := .semiImplicitEuler
            bounds := some .standard }
        dt := 0.01
        position := ⟨1, 2, 0⟩
        velocity := 0
        angularVelocity := 0
        acceleration := 0
        attitude := .quaternion q
        start := 0
        startAngles := 0
        pending := none }
    let still : BodyInput ℝ :=
      { wrench := { thrust := 0, torque := 0 }, manual := none, weather := none }
    let again : BodyInput ℝ :=
      { still with manual := some { position := ⟨1, 2, 0⟩, angles := q.euler } }
    let a : Accelerometer ℝ :=
      { triad := { windows := .all (.empty 2), noise := .off }
        dt := 0.01, gravity := 9.81, previous := none, value := 0 }
    let s := b.sensed a.reset [still, again, still]
    s.1.position = ⟨1, 2, 0⟩ ∧ s.1.velocity = 0 ∧ s.1.attitude.rotation = q.rotation ∧
      s.2.value = ⟨9.4176, 0, -2.7468⟩ := by
  intro q b still again a s
  have hq : q.normSq = 1 := by norm_num [q, Quaternion.normSq]
  have hmotion : b.motion = { position := ⟨1, 2, 0⟩, velocity := 0, angularVelocity := 0 } := by
    rw [motion, groundVelocity, Mat3.apply_zero]
  have hrests : b.Rests :=
    { mass := by norm_num [b]
      gravity := by norm_num [b]
      dt := by norm_num [b]
      ground := rfl
      height := rfl
      velocity := rfl
      angularVelocity := rfl
      attitude := hq
      bounds := by
        rintro bounds ⟨⟩
        rw [hmotion]
        norm_num [Bounds.isDiverged, Bounds.exceeds, Bounds.standard, Vec3.toList]
      pending := rfl }
  have hposes : ∀ input ∈ [still, again, still], ∀ pose ∈ b.placement input,
      pose.position = b.position ∧ pose.angles.rotation = b.attitude.rotation := by
    have hstill : ∀ pose ∈ b.placement still,
        pose.position = b.position ∧ pose.angles.rotation = b.attitude.rotation := by
      rintro pose ⟨⟩
    have hagain : ∀ pose ∈ b.placement again,
        pose.position = b.position ∧ pose.angles.rotation = b.attitude.rotation := by
      rintro pose ⟨⟩
      exact ⟨rfl, Quaternion.rotation_euler hq⟩
    simpa using ⟨hstill, hagain, hstill⟩
  have hcalm : ∀ input ∈ [still, again, still], input.wrench.torque = 0 ∧
      (input.weather.getD .standard).wind = 0 ∧ (input.weather.getD .standard).surface = none := by
    simp [still, again, Weather.standard]
  have hthrust : ∀ input ∈ [still, again, still], input.wrench.thrust = 0 ∨
      (b.angles.roll = 0 ∧ b.angles.pitch = 0) ∧ 0 ≤ input.wrench.thrust ∧
        input.wrench.thrust ≤ b.airframe.mass * b.airframe.gravity := by
    simp [still, again]
  obtain ⟨hposition, hvelocity, -, hrotation, hvalue⟩ :=
    (stays_at_rest_iff hrests (a := a) rfl hcalm hthrust).2 hposes _ (List.prefix_refl _)
  refine ⟨hposition, hvelocity, hrotation, (hvalue (List.cons_ne_nil _ _)).trans ?_⟩
  ext <;> norm_num [b, q, a, Attitude.rotation, Quaternion.rotation, Mat3.transpose, Mat3.apply,
    Vec3.dot]

/-- A pose that an operator gives does move a body at rest. -/
theorem moves_at_rest_placed :
    let b : RigidBody ℝ :=
      { airframe :=
          { mass := 1, inertia := ⟨1, 1, 1⟩, gravity := 9.81, drag := 0, rotorRadius := 0.1 }
        options := { BodyOptions.none with manualControl := true, groundContact := true }
        dt := 0.001
        position := 0
        velocity := 0
        angularVelocity := 0
        acceleration := 0
        attitude := .euler 0
        start := 0
        startAngles := 0
        pending := none }
    let input : BodyInput ℝ :=
      { wrench := { thrust := 0, torque := 0 }
        manual := some { position := ⟨1, 0, 0⟩, angles := 0 }
        weather := none }
    b.Rests ∧ input.wrench.torque = 0 ∧ input.weather = none ∧ input.wrench.thrust = 0 ∧
      (b.run input).1.position ≠ b.position := by
  intro b input
  have hrests : b.Rests :=
    { mass := one_pos
      gravity := by norm_num [b]
      dt := by norm_num [b]
      ground := rfl
      height := rfl
      velocity := rfl
      angularVelocity := rfl
      attitude := trivial
      bounds := by rintro bounds ⟨⟩
      pending := rfl }
  refine ⟨hrests, rfl, rfl, rfl, fun hstays => ?_⟩
  have hplacement : b.placement input = some { position := ⟨1, 0, 0⟩, angles := 0 } := rfl
  rw [run_of_placement hplacement] at hstays
  exact one_ne_zero (congrArg Vec3.x hstays)

end RigidBody

end Multirotor
