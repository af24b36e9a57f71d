import Multirotor.Proofs.Body.Flight
import Multirotor.Proofs.Body.Impulse

/-!
# Tumbling

The energy of the rotation under the integration.  Within a tick a torque does work at the angular
velocity from the start of the tick, and the change of the angular velocity adds an energy of its
own, which no exact motion has and which is never negative (`RigidBody.spinEnergy_run_of_free`).
Without torque this is all that happens to the energy: it grows in every tick, unless the body spins
about a principal axis, where the gyroscopic torque vanishes and the spin stays as it is
(`RigidBody.spinEnergy_flown`).  A tick in which an operator places the body does not touch the
rotation.
-/

namespace Multirotor

/-! ## Principal moments of inertia -/

namespace Vec3

variable {J : Vec3 ℝ}

theorem dot_cross_self (u v : Vec3 ℝ) : u.dot (u.cross v) = 0 := by
  simp only [dot, cross_x, cross_y, cross_z]
  ring

theorem mul_div_cancel (hJ : J.IsPositive) (v : Vec3 ℝ) : J.mul (v.div J) = v := by
  obtain ⟨hx, hy, hz⟩ := hJ
  ext
  · exact mul_div_cancel₀ v.x hx.ne'
  · exact mul_div_cancel₀ v.y hy.ne'
  · exact mul_div_cancel₀ v.z hz.ne'

theorem div_eq_zero_iff (hJ : J.IsPositive) {v : Vec3 ℝ} : v.div J = 0 ↔ v = 0 := by
  constructor
  · intro h
    rw [← mul_div_cancel hJ v, h]
    ext <;> exact mul_zero _
  · rintro rfl
    ext <;> exact zero_div _

theorem dot_mul_self_pos (hJ : J.IsPositive) {v : Vec3 ℝ} (hv : v ≠ 0) : 0 < v.dot (J.mul v) := by
  rw [← Mat3.apply_diagonal]
  exact (Mat3.isInertia_diagonal hJ).positive v hv

theorem dot_mul_self_nonneg (hJ : J.IsPositive) (v : Vec3 ℝ) : 0 ≤ v.dot (J.mul v) := by
  rw [← Mat3.apply_diagonal]
  exact (Mat3.isInertia_diagonal hJ).nonneg v

/-- The energy after a change of the angular velocity. -/
theorem dot_mul_self_add (J w v : Vec3 ℝ) (dt : ℝ) :
    (w + v * dt).dot (J.mul (w + v * dt)) / 2 =
      w.dot (J.mul w) / 2 + dt * w.dot (J.mul v) + dt ^ 2 / 2 * v.dot (J.mul v) := by
  simp only [dot, mul, zipWith, add_x, add_y, add_z, scale_x, scale_y, scale_z]
  ring

end Vec3

/-- The gyroscopic torque does no work. -/
theorem dot_mul_angularAcceleration {J : Vec3 ℝ} (hJ : J.IsPositive) (w torque : Vec3 ℝ) :
    w.dot (J.mul (angularAcceleration w torque J)) = w.dot torque := by
  rw [angularAcceleration, Vec3.mul_div_cancel hJ, Vec3.dot_comm, Vec3.sub_dot, Vec3.dot_comm,
    Vec3.dot_comm (w.cross _), Vec3.dot_cross_self, sub_zero]

theorem angularAcceleration_eq_zero_iff {J : Vec3 ℝ} (hJ : J.IsPositive) (w : Vec3 ℝ) :
    angularAcceleration w 0 J = 0 ↔ w.cross (J.mul w) = 0 := by
  have hneg (v : Vec3 ℝ) : 0 - v = 0 ↔ v = 0 := by
    simp only [Vec3.ext_iff, Vec3.sub_x, Vec3.sub_y, Vec3.sub_z, Vec3.zero_x, Vec3.zero_y,
      Vec3.zero_z, zero_sub, neg_eq_zero]
  rw [angularAcceleration, Vec3.div_eq_zero_iff hJ, hneg]

namespace RigidBody

/-- The energy of the rotation. -/
def spinEnergy {α : Type} [Scalar α] (b : RigidBody α) : α :=
  b.angularVelocity.dot (b.airframe.inertia.mul b.angularVelocity) / (2.0 : α)

/-- The torque by which the spin turns its own momentum.  There is none about a principal axis. -/
def gyroscopicTorque {α : Type} [Scalar α] (b : RigidBody α) : Vec3 α :=
  b.angularVelocity.cross (b.airframe.inertia.mul b.angularVelocity)

theorem spinEnergy_eq (b : RigidBody ℝ) : b.spinEnergy =
    b.angularVelocity.dot (b.airframe.inertia.mul b.angularVelocity) / 2 := by
  rw [spinEnergy, Scalar.two_real]

variable {b : RigidBody ℝ} {input : BodyInput ℝ}

/-! ## One tick -/

theorem airframe_run (b : RigidBody ℝ) (input : BodyInput ℝ) :
    (b.run input).1.airframe = b.airframe := airframe_flown b [input]

theorem spinEnergy_run_of_spin (h : (b.run input).1.angularVelocity = b.angularVelocity) :
    (b.run input).1.spinEnergy = b.spinEnergy := by
  rw [spinEnergy, h, airframe_run, spinEnergy]

/-- An operator who places the body leaves its rotation alone. -/
theorem angularVelocity_run_of_placed (hplaced : (b.placement input).isSome) :
    (b.run input).1.angularVelocity = b.angularVelocity := by
  obtain ⟨pose, hpose⟩ := Option.isSome_iff_exists.1 hplaced
  rw [run_of_placement hpose]
  rfl

section Tick

variable (h : b.Unhindered)

include h

theorem angularVelocity_run_of_free (hfree : b.placement input = none) :
    (b.run input).1.angularVelocity = b.angularVelocity +
      angularAcceleration b.angularVelocity input.wrench.torque b.airframe.inertia * b.dt := by
  rw [h.run_of_free hfree]
  rfl

/-- The torque does its work, and the tick adds the energy of the change. -/
theorem spinEnergy_run_of_free (hJ : b.airframe.inertia.IsPositive)
    (hfree : b.placement input = none) :
    let change := angularAcceleration b.angularVelocity input.wrench.torque b.airframe.inertia
    (b.run input).1.spinEnergy = b.spinEnergy + b.dt * b.angularVelocity.dot input.wrench.torque +
      b.dt ^ 2 / 2 * change.dot (b.airframe.inertia.mul change) := by
  intro change
  rw [spinEnergy_eq, airframe_run, angularVelocity_run_of_free h hfree, Vec3.dot_mul_self_add,
    dot_mul_angularAcceleration hJ, spinEnergy_eq]

variable (htorque : input.wrench.torque = 0)

include htorque

theorem angularVelocity_run_of_principal (hJ : b.airframe.inertia.IsPositive)
    (hprincipal : b.gyroscopicTorque = 0) :
    (b.run input).1.angularVelocity = b.angularVelocity := by
  cases hplacement : b.placement input with
  | some pose => exact angularVelocity_run_of_placed (by rw [hplacement]; rfl)
  | none =>
    rw [angularVelocity_run_of_free h hplacement, htorque,
      (angularAcceleration_eq_zero_iff hJ b.angularVelocity).2 hprincipal]
    ext <;> simp

theorem spinEnergy_le_run (hJ : b.airframe.inertia.IsPositive) :
    b.spinEnergy ≤ (b.run input).1.spinEnergy := by
  cases hplacement : b.placement input with
  | some pose =>
    rw [spinEnergy_run_of_spin (angularVelocity_run_of_placed (by rw [hplacement]; rfl))]
  | none =>
    have hdot : b.angularVelocity.dot 0 = 0 := by rw [Vec3.dot_comm, Vec3.zero_dot]
    rw [spinEnergy_run_of_free h hJ hplacement, htorque, hdot, mul_zero, add_zero]
    have hchange := Vec3.dot_mul_self_nonneg hJ (angularAcceleration b.angularVelocity 0
      b.airframe.inertia)
    exact le_add_of_nonneg_right (mul_nonneg (by positivity) hchange)

theorem spinEnergy_lt_run (hJ : b.airframe.inertia.IsPositive) (hdt : 0 < b.dt)
    (hfree : b.placement input = none) (htumbles : b.gyroscopicTorque ≠ 0) :
    b.spinEnergy < (b.run input).1.spinEnergy := by
  have hdot : b.angularVelocity.dot 0 = 0 := by rw [Vec3.dot_comm, Vec3.zero_dot]
  rw [spinEnergy_run_of_free h hJ hfree, htorque, hdot, mul_zero, add_zero]
  have hchange := Vec3.dot_mul_self_pos hJ
    (mt (angularAcceleration_eq_zero_iff hJ b.angularVelocity).1 htumbles)
  exact lt_add_of_pos_right _ (mul_pos (by positivity) hchange)

end Tick

/-! ## Any number of ticks -/

/-- The ticks do not change the spin: it is about a principal axis, or an operator takes over every
one of them. -/
def KeepsSpin (b : RigidBody ℝ) (inputs : List (BodyInput ℝ)) : Prop :=
  b.gyroscopicTorque = 0 ∨ ∀ input ∈ inputs, (b.placement input).isSome

theorem placement_run (b : RigidBody ℝ) (input later : BodyInput ℝ) :
    (b.run input).1.placement later = b.placement later := placement_flown b [input] later

/-- The spin after a tick that left it alone is kept by the ticks that would have kept it before. -/
theorem keepsSpin_run_iff (h : (b.run input).1.angularVelocity = b.angularVelocity)
    (inputs : List (BodyInput ℝ)) :
    (b.run input).1.KeepsSpin inputs ↔ b.KeepsSpin inputs := by
  simp only [KeepsSpin, gyroscopicTorque, h, airframe_run, placement_run]

section Run

variable {inputs : List (BodyInput ℝ)} (h : b.Unhindered) (hJ : b.airframe.inertia.IsPositive)
  (htorque : ∀ input ∈ inputs, input.wrench.torque = 0)

include h hJ htorque

theorem spinEnergy_le_flown : b.spinEnergy ≤ (b.flown inputs).spinEnergy := by
  induction inputs generalizing b with
  | nil => exact le_rfl
  | cons input inputs ih =>
    have hfirst := spinEnergy_le_run h (htorque input List.mem_cons_self) hJ
    rw [flown_cons]
    refine hfirst.trans (ih (h.run input) ?_ fun i hi => htorque i (List.mem_cons_of_mem _ hi))
    rwa [airframe_run]

theorem angularVelocity_flown_of_keepsSpin (hkeeps : b.KeepsSpin inputs) :
    (b.flown inputs).angularVelocity = b.angularVelocity := by
  induction inputs generalizing b with
  | nil => rfl
  | cons input inputs ih =>
    have hfirst : (b.run input).1.angularVelocity = b.angularVelocity := by
      rcases hkeeps with hprincipal | hplaced
      · exact angularVelocity_run_of_principal h (htorque input List.mem_cons_self) hJ hprincipal
      · exact angularVelocity_run_of_placed (hplaced input List.mem_cons_self)
    have hrest : b.KeepsSpin inputs :=
      hkeeps.imp id fun hplaced i hi => hplaced i (List.mem_cons_of_mem _ hi)
    rw [flown_cons, ← hfirst]
    refine ih (h.run input) ?_ (fun i hi => htorque i (List.mem_cons_of_mem _ hi))
      ((keepsSpin_run_iff hfirst inputs).2 hrest)
    rwa [airframe_run]

theorem spinEnergy_lt_flown (hdt : 0 < b.dt) (htumbles : ¬ b.KeepsSpin inputs) :
    b.spinEnergy < (b.flown inputs).spinEnergy := by
  induction inputs generalizing b with
  | nil => exact absurd (.inr fun _ hi => absurd hi List.not_mem_nil) htumbles
  | cons input inputs ih =>
    have hrest : ∀ i ∈ inputs, i.wrench.torque = 0 :=
      fun i hi => htorque i (List.mem_cons_of_mem _ hi)
    rw [flown_cons]
    have hJ' : (b.run input).1.airframe.inertia.IsPositive := by rwa [airframe_run]
    cases hplacement : b.placement input with
    | some pose =>
      -- The tick left the spin alone, so one of the later ticks does not.
      have hspin : (b.run input).1.angularVelocity = b.angularVelocity :=
        angularVelocity_run_of_placed (by rw [hplacement]; rfl)
      have hlater : ¬ b.KeepsSpin inputs := by
        refine fun hkeeps => htumbles (hkeeps.imp id fun hplaced i hi => ?_)
        rcases List.mem_cons.1 hi with rfl | hi
        · rw [hplacement]
          rfl
        · exact hplaced i hi
      have hdt' : 0 < (b.run input).1.dt := hdt.trans_eq (dt_flown b [input]).symm
      have hgrows := ih (h.run input) hJ' hrest hdt' (mt (keepsSpin_run_iff hspin inputs).1 hlater)
      rwa [spinEnergy_run_of_spin hspin] at hgrows
    | none =>
      have hfirst := spinEnergy_lt_run h (htorque input List.mem_cons_self) hJ hdt hplacement
        fun hprincipal => htumbles (.inl hprincipal)
      exact hfirst.trans_le (spinEnergy_le_flown (h.run input) hJ' hrest)

end Run

/-- A tick of the integration changes the energy of the rotation by the work of the torque and by
the energy of the change, and a tick in which an operator places the body leaves the spin as it is.
Hence no run without torque loses energy.  It keeps all of it exactly if the spin is about a
principal axis or the operator takes over every tick, and then the spin itself never changes. -/
theorem spinEnergy_flown (h : b.Unhindered) (hJ : b.airframe.inertia.IsPositive)
    (hdt : 0 < b.dt) :
    let J := b.airframe.inertia
    let w := b.angularVelocity
    (∀ input, b.placement input = none →
      let torque := input.wrench.torque
      let change := (torque - w.cross (J.mul w)).div J
      (b.run input).1.spinEnergy =
        b.spinEnergy + b.dt * w.dot torque + b.dt ^ 2 / 2 * change.dot (J.mul change)) ∧
    (∀ input, (b.placement input).isSome → (b.run input).1.angularVelocity = w) ∧
    ∀ inputs : List (BodyInput ℝ), (∀ input ∈ inputs, input.wrench.torque = 0) →
      let keeps := w.cross (J.mul w) = 0 ∨ ∀ input ∈ inputs, (b.placement input).isSome
      (∀ past now, past <+: now → now <+: inputs →
        (b.flown past).spinEnergy ≤ (b.flown now).spinEnergy) ∧
      ((∀ past, past <+: inputs → (b.flown past).spinEnergy = b.spinEnergy) ↔ keeps) ∧
      (keeps → ∀ past, past <+: inputs → (b.flown past).angularVelocity = w) := by
  intro J w
  refine ⟨fun input hfree => spinEnergy_run_of_free h hJ hfree,
    fun input => angularVelocity_run_of_placed, ?_⟩
  intro inputs htorque keeps
  have hpast {past : List (BodyInput ℝ)} (hearlier : past <+: inputs) :
      ∀ input ∈ past, input.wrench.torque = 0 := fun input hi => htorque input (hearlier.subset hi)
  have hspin : keeps → ∀ past, past <+: inputs → (b.flown past).angularVelocity = w :=
    fun hkeeps past hearlier => angularVelocity_flown_of_keepsSpin h hJ (hpast hearlier)
      (hkeeps.imp id fun hplaced i hi => hplaced i (hearlier.subset hi))
  refine ⟨?_, ⟨?_, ?_⟩, hspin⟩
  · rintro past now ⟨rest, rfl⟩ hnow
    rw [flown_append]
    refine spinEnergy_le_flown (h.flown past) ?_ fun i hi => hpast hnow i (List.mem_append_right _ hi)
    rwa [airframe_flown]
  · intro hconstant
    by_contra htumbles
    exact (spinEnergy_lt_flown h hJ htorque hdt htumbles).ne' (hconstant inputs (List.prefix_refl _))
  · intro hkeeps past hearlier
    rw [spinEnergy, hspin hkeeps past hearlier, airframe_flown, spinEnergy]

/-! ### A body that tumbles -/

/-- A body that spins at equal rates about three axes of different inertia. -/
noncomputable def tumbler : RigidBody ℝ :=
  { airframe :=
      { mass := 1, inertia := ⟨1.0, 2.0, 3.0⟩, gravity := 9.81, drag := 0, rotorRadius := 0.1 }
    options := { BodyOptions.none with manualControl := true }
    dt := 0.1
    position := 0
    velocity := 0
    angularVelocity := ⟨1, 1, 1⟩
    acceleration := 0
    attitude := .euler 0
    start := 0
    startAngles := 0
    pending := none }

/-- Nothing but a torque about the first axis. -/
noncomputable def spun (torque : ℝ) (manual : Option (Pose ℝ)) : BodyInput ℝ :=
  { wrench := { thrust := 0, torque := ⟨torque, 0, 0⟩ }, manual, weather := none }

/-- A torque does its work on the tumbler, and left alone the tumbler does not keep its energy. -/
theorem spinEnergy_flown_tumbler :
    tumbler.Unhindered ∧ tumbler.airframe.inertia.IsPositive ∧ 0 < tumbler.dt ∧
      tumbler.spinEnergy = 3 ∧
      (tumbler.run (spun 1 none)).1.spinEnergy = 3 + 1 / 10 + 7 / 600 ∧
      ¬ ∀ past, past <+: [spun 0 none, spun 0 none] →
        (tumbler.flown past).spinEnergy = tumbler.spinEnergy := by
  have hfree : tumbler.Unhindered := ⟨rfl, .inl rfl, rfl⟩
  have hJ : tumbler.airframe.inertia.IsPositive := by norm_num [tumbler, Vec3.IsPositive]
  have hdt : 0 < tumbler.dt := by norm_num [tumbler]
  have hthree : tumbler.spinEnergy = 3 := by
    norm_num [spinEnergy_eq, tumbler, Vec3.dot, Vec3.mul, Vec3.zipWith]
  obtain ⟨htick, -, hrun⟩ := spinEnergy_flown hfree hJ hdt
  refine ⟨hfree, hJ, hdt, hthree, (htick (spun 1 none) rfl).trans ?_, fun hconstant => ?_⟩
  · rw [hthree]
    norm_num [tumbler, spun, Vec3.dot, Vec3.mul, Vec3.div, Vec3.zipWith]
  · have htorque : ∀ input ∈ [spun 0 none, spun 0 none], input.wrench.torque = 0 := by
      have hzero : (spun 0 none).wrench.torque = 0 := rfl
      simpa using hzero
    rcases (hrun _ htorque).2.1.1 hconstant with hprincipal | hplaced
    · have hx := congrArg Vec3.x hprincipal
      norm_num [tumbler, Vec3.mul, Vec3.zipWith] at hx
    · cases hplaced (spun 0 none) List.mem_cons_self

/-- A torque does nothing to the tumbler in a tick in which an operator places it. -/
theorem spinEnergy_run_placed :
    let J := tumbler.airframe.inertia
    let w := tumbler.angularVelocity
    let input := spun 1 (some { position := 0, angles := 0 })
    let change := (input.wrench.torque - w.cross (J.mul w)).div J
    tumbler.Unhindered ∧ J.IsPositive ∧ 0 < tumbler.dt ∧
      (tumbler.run input).1.spinEnergy ≠ tumbler.spinEnergy +
        tumbler.dt * w.dot input.wrench.torque +
        tumbler.dt ^ 2 / 2 * change.dot (J.mul change) := by
  intro J w input change
  refine ⟨⟨rfl, .inl rfl, rfl⟩, by norm_num [J, tumbler, Vec3.IsPositive],
    by norm_num [tumbler], fun hwork => ?_⟩
  rw [spinEnergy_run_of_spin (angularVelocity_run_of_placed rfl), add_assoc, left_eq_add] at hwork
  norm_num [change, input, w, J, tumbler, spun, Vec3.dot, Vec3.mul, Vec3.div, Vec3.zipWith] at hwork

end RigidBody

end Multirotor
