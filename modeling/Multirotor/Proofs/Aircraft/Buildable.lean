import Multirotor.Proofs.Aircraft.Assembly
import Multirotor.Proofs.Mixing.PseudoInverse

/-!
# Which configurations build

In exact arithmetic every square root is finite, so that no noise is refused, and what remains to be
asked of a configuration is `exists_build`: that its check passes, that the rotors without a battery
have a positive time constant and that the mounts determine a mixer.  The standard configuration
builds with any instruments.
-/

namespace Multirotor

/-! ## Sequences of steps none of which is refused -/

theorem exists_bind_ok {ε β γ : Type} {x : Except ε β} {f : β → Except ε γ}
    (hx : ∃ b, x = .ok b) (hf : ∀ b, ∃ c, f b = .ok c) : ∃ c, (x >>= f) = .ok c := by
  obtain ⟨b, rfl⟩ := hx
  exact hf b

theorem exists_mapM_const_ok {ε β : Type} {x : Except ε β} (hx : ∃ b, x = .ok b) (n : Nat) :
    ∃ bs, ((List.replicate n ()).mapM fun _ => x) = .ok bs := by
  obtain ⟨b, rfl⟩ := hx
  induction n with
  | zero => exact ⟨[], rfl⟩
  | succ n ih =>
    obtain ⟨bs, h⟩ := ih
    exact ⟨b :: bs, by rw [List.replicate_succ, List.mapM_cons, h]; rfl⟩

/-! ## The parts -/

theorem Noise.exists_build (variance : ℝ) (seed : Option UInt64) (r : Randomness ℝ) :
    ∃ n, Noise.build variance seed r = .ok n := by
  refine exists_bind_ok ?_ fun _ => ⟨_, rfl⟩
  unfold Noise.deviation?
  split_ifs
  · exact ⟨_, if_pos rfl⟩
  · exact ⟨_, rfl⟩

theorem Triad.exists_build (s : InstrumentSettings ℝ) (seed : Option UInt64) (r : Randomness ℝ) :
    ∃ t, Triad.build s seed r = .ok t :=
  exists_bind_ok (Noise.exists_build _ seed r) fun _ => ⟨_, rfl⟩

theorem Gps.exists_build (s : InstrumentSettings ℝ) (reference : GeoReference ℝ)
    (seed : Option UInt64) (r : Randomness ℝ) : ∃ m, Gps.build s reference seed r = .ok m :=
  exists_bind_ok (Triad.exists_build s seed r) fun _ =>
    exists_bind_ok (Triad.exists_build s _ _) fun _ => ⟨_, rfl⟩

/-- Windows that hold a sample are all that the instruments need. -/
theorem Panel.exists_build {s : PanelSettings ℝ} (h : s.check = .ok ()) (reference : GeoReference ℝ)
    (field : MagneticField ℝ) (dt gravity : ℝ) (seed : Option UInt64) (r : Randomness ℝ) :
    ∃ p, Panel.build s reference field dt gravity seed r = .ok p := by
  unfold Panel.build
  refine exists_bind_ok ⟨(), h⟩ fun _ => ?_
  refine exists_bind_ok (exists_bind_ok (Triad.exists_build _ _ _) fun _ => ⟨_, rfl⟩) fun _ => ?_
  refine exists_bind_ok (exists_bind_ok (Triad.exists_build _ _ _) fun _ => ⟨_, rfl⟩) fun _ => ?_
  refine exists_bind_ok (Gps.exists_build _ reference _ _) fun _ => ?_
  refine exists_bind_ok (exists_bind_ok (Noise.exists_build _ _ _) fun _ => ⟨_, rfl⟩) fun _ => ?_
  exact exists_bind_ok (exists_bind_ok (Triad.exists_build _ _ _) fun _ => ⟨_, rfl⟩) fun _ => ⟨_, rfl⟩

theorem RigidBody.exists_atRest {airframe : Airframe ℝ} {dt : ℝ} (h : airframe.check = .ok ())
    (hdt : 0 < dt) (options : BodyOptions ℝ) (kind : AttitudeKind) (position : Vec3 ℝ)
    (angles : Euler ℝ) : ∃ b, atRest airframe options kind position angles dt = .ok b :=
  exists_bind_ok ⟨(), h⟩ fun _ => ⟨_, if_neg (not_not_intro hdt)⟩

theorem Aircraft.exists_buildRotor {c : Configuration ℝ} (h : c.rotor.check = .ok ())
    (hlag : c.battery = none → 0 < c.rotorTimeConstant) : ∃ r, buildRotor c = .ok r := by
  unfold buildRotor
  split
  · exact exists_bind_ok ⟨(), h⟩ fun _ => ⟨_, rfl⟩
  · next hb => exact exists_bind_ok ⟨(), h⟩ fun _ => ⟨_, if_neg (not_le.2 (hlag hb))⟩

/-! ## The whole -/

namespace Configuration

/-- What the check of a configuration makes sure of. -/
theorem check_eq_ok {α : Type} [Scalar α] {c : Configuration α} :
    c.check = .ok () ↔ c.checkTimeStep = .ok () ∧ c.airframe.check = .ok () ∧
      c.rotor.check = .ok () ∧ c.checkDrive = .ok () ∧ c.checkRotorCount = .ok () ∧
      c.instruments.check = .ok () := by
  unfold check
  simp only [bind_eq_ok]
  constructor
  · rintro ⟨⟨⟩, h1, ⟨⟩, h2, ⟨⟩, h3, ⟨⟩, h4, ⟨⟩, h5, h6⟩
    exact ⟨h1, h2, h3, h4, h5, h6⟩
  · rintro ⟨h1, h2, h3, h4, h5, h6⟩
    exact ⟨(), h1, (), h2, (), h3, (), h4, (), h5, h6⟩

theorem timeStep_pos {α : Type} [Scalar α] {c : Configuration α} (h : c.checkTimeStep = .ok ()) :
    0 < c.timeStep := by
  unfold checkTimeStep at h
  split_ifs at h with hpos
  · exact hpos

end Configuration

/-- Besides its check, a configuration needs rotors that respond and independent axes. -/
theorem Aircraft.exists_build {c : Configuration ℝ} (h : c.check = .ok ())
    (hlag : c.battery = none → 0 < c.rotorTimeConstant)
    (hmixer : ∃ m, Mixer.build c.mounts c.rotor c.dutyCurve = .ok m) (r : Randomness ℝ) :
    ∃ built, build c r = .ok built := by
  obtain ⟨htime, hframe, hrotor, -, -, hpanel⟩ := Configuration.check_eq_ok.1 h
  unfold build
  refine exists_bind_ok ⟨(), h⟩ fun _ => ?_
  refine exists_bind_ok (exists_mapM_const_ok (exists_buildRotor hrotor hlag) _) fun _ => ?_
  refine exists_bind_ok (RigidBody.exists_atRest hframe (Configuration.timeStep_pos htime) _ _ _ _)
    fun _ => ?_
  refine exists_bind_ok (Panel.exists_build hpanel _ _ _ _ _ _) fun _ => ?_
  exact exists_bind_ok hmixer fun _ => ⟨_, rfl⟩

/-! ## The standard configuration -/

section Standard

open Multirotor.Configuration

theorem Configuration.checkTimeStep_standard :
    (standard : Configuration ℝ).checkTimeStep = .ok () := by
  norm_num [checkTimeStep, standard, Scalar.round]

theorem Configuration.check_standard {p : PanelSettings ℝ} (h : p.check = .ok ())
    (seed : Option UInt64) :
    ({ standard with instruments := p, noiseSeed := seed } : Configuration ℝ).check = .ok () := by
  refine check_eq_ok.2 ⟨?_, ?_, ?_, ?_, ?_, h⟩
  · exact checkTimeStep_standard
  · norm_num [airframe, standard, Airframe.check]
  · norm_num [standard, RotorConstants.standard, RotorConstants.check]
  · norm_num [standard, standardGravity, checkDrive]
  · rfl

theorem Configuration.startAttitude_standard : (standard : Configuration ℝ).startAttitude = 0 := by
  have hzero : Scalar.radians (0 : ℝ) = 0 := zero_mul _
  change (⟨Scalar.radians 0, Scalar.radians 0, Scalar.radians 0⟩ : Euler ℝ) = ⟨0, 0, 0⟩
  rw [hzero]

theorem RotorConstants.timeConstant_standard_pos {hover : ℝ} (h : 0 ≤ hover) :
    0 < (RotorConstants.standard : RotorConstants ℝ).timeConstant hover := by
  simp only [RotorConstants.timeConstant, RotorConstants.standard]
  positivity

/-- Standard rotors on the standard mounts respond and span the axes, whatever else is configured. -/
theorem Aircraft.exists_build_of_rotors {c : Configuration ℝ} (h : c.check = .ok ())
    (hrotor : c.rotor = .standard) (hmounts : c.mounts = (standard : Configuration ℝ).mounts)
    (r : Randomness ℝ) : ∃ built, build c r = .ok built := by
  refine exists_build h (fun _ => ?_) ?_ r
  · rw [rotorTimeConstant, hrotor]
    exact RotorConstants.timeConstant_standard_pos (Real.sqrt_nonneg _)
  · rw [hmounts, hrotor]
    exact Mixer.exists_build_square_standard _

/-- The standard configuration builds with any instruments and any seed. -/
theorem Aircraft.exists_build_standard {p : PanelSettings ℝ} (h : p.check = .ok ())
    (seed : Option UInt64) (r : Randomness ℝ) :
    ∃ built, build { (standard : Configuration ℝ) with instruments := p, noiseSeed := seed } r =
      .ok built :=
  exists_build_of_rotors (check_standard h seed) rfl rfl r

/-- The standard configuration builds in any mode, with either source of duties, and whether or not
it uses the weather. -/
theorem Aircraft.exists_build_switched (mode : ControlMode) (directDuties useWeather : Bool)
    (r : Randomness ℝ) :
    ∃ built, build { (standard : Configuration ℝ) with mode, directDuties, useWeather } r =
      .ok built := by
  obtain ⟨htime, hframe, hrotor, -, hcount, hpanel⟩ :=
    check_eq_ok.1 (check_standard (p := standard.instruments) rfl none)
  have hcheck :
      ({ standard with mode, directDuties, useWeather } : Configuration ℝ).check = .ok () := by
    refine check_eq_ok.2 ⟨htime, hframe, hrotor, ?_, hcount, hpanel⟩
    norm_num [standard, standardGravity, checkDrive]
  exact exists_build_of_rotors hcheck rfl rfl r

end Standard

end Multirotor
