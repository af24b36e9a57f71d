import Mathlib.Tactic.FieldSimp
import Multirotor.Proofs.Mixing.PseudoInverse

/-!
# The mixer and the rotors

The duties of a mixer are meant to produce the demanded wrench.  `Rotor.run_steady`: a rotor that
turns at the speed for which its duty was found keeps that speed.  `Propulsion.effort_wrenchOf`:
rotors that keep their speeds produce the factor matrix times the squares of the speeds.  Since the
allocation inverts the factor matrix, `Mixer.inverts_propulsion` follows: a demand that runs into no
limit is produced exactly.
-/

namespace Multirotor

open Matrix

/-! ## Steady rotors -/

namespace DutyCurve

/-- The constants are those of a motor that can be driven. -/
def Valid : DutyCurve ℝ → Prop
  | proportional maxSpeed => 0 < maxSpeed
  | battery source c => 0 < source.voltage ∧ 0 < c.resistance ∧ 0 < c.motorConstant ∧
      0 < c.torqueCoefficient ∧ 0 ≤ c.friction

/-- The rotor is driven in the way that the curve supposes. -/
def Governs : DutyCurve ℝ → Rotor ℝ → Prop
  | proportional maxSpeed, r => ∃ timeConstant, 0 < timeConstant ∧
      r.drive = .lag (maxSpeed / timeConstant) timeConstant
  | battery source c, r => r.drive = .battery source ∧ r.constants = c

variable {curve : DutyCurve ℝ}

theorem duty_nonneg (h : curve.Valid) {speed : ℝ} (hs : 0 ≤ speed) : 0 ≤ curve.duty speed := by
  cases curve with
  | proportional maxSpeed => exact div_nonneg hs (le_of_lt h)
  | battery source c =>
    obtain ⟨hv, hr, hk, hq, hd⟩ := h
    simp only [duty, Battery.steadyDuty]
    positivity

/-- The duty of a speed makes up for what slows the rotor down at that speed. -/
theorem respond_duty (h : curve.Valid) {r : Rotor ℝ} (hr : curve.Governs r) (speed : ℝ) :
    (r.respond none speed (curve.duty speed)).1 = 0 := by
  cases curve with
  | proportional maxSpeed =>
    obtain ⟨timeConstant, ht, hdrive⟩ := hr
    have hm : maxSpeed ≠ 0 := ne_of_gt h
    simp only [Rotor.respond, hdrive, lagAcceleration, duty]
    field_simp
    ring
  | battery source c =>
    obtain ⟨hv, hres, hk, -, -⟩ := h
    obtain ⟨hdrive, rfl⟩ := hr
    have hdrive' : source.voltage * r.constants.motorConstant / r.constants.resistance *
        source.steadyDuty r.constants speed =
          r.constants.motorConstant * r.constants.motorConstant * speed / r.constants.resistance +
            r.constants.torqueCoefficient * speed * speed + r.constants.friction * speed := by
      rw [Battery.steadyDuty]
      field_simp
    simp only [Rotor.respond, hdrive, RotorConstants.acceleration, duty, Option.getD_none, hdrive']
    rw [div_eq_zero_iff]
    left
    ring

end DutyCurve

/-- A rotor keeps the speed for which its duty was found. -/
theorem Rotor.run_steady {curve : DutyCurve ℝ} (h : curve.Valid) {r : Rotor ℝ}
    (hr : curve.Governs r) (hs : 0 ≤ r.spin.speed) (hd : curve.duty r.spin.speed ≤ 1) :
    (r.run (Scalar.clamp (curve.duty r.spin.speed) 0 1)).spin.speed = r.spin.speed ∧
      (r.run (Scalar.clamp (curve.duty r.spin.speed) 0 1)).spin.acceleration = 0 := by
  have hclamp := Scalar.clamp_of_mem _ (DutyCurve.duty_nonneg h hs) hd
  have hacc := DutyCurve.respond_duty h hr r.spin.speed
  have hnext : max (r.spin.speed + 0 * r.dt) 0 = r.spin.speed := by
    rw [zero_mul, add_zero, max_eq_left hs]
  simp only [run, step, hclamp, hacc, Scalar.larger_real, hnext, sub_self, zero_div, and_self]

/-! ## The wrench of steady rotors -/

theorem totalThrust_cons (t : ℝ) (ts : List ℝ) : totalThrust (t :: ts) = t + totalThrust ts := by
  -- The sum runs from the left, so the induction needs it from any start.
  have key : ∀ (ts : List ℝ) (s : ℝ), ts.foldl (· + ·) s = s + totalThrust ts := by
    intro ts
    induction ts with
    | nil => intro s; simp [totalThrust]
    | cons t ts ih =>
      intro s
      rw [totalThrust, List.foldl_cons, List.foldl_cons, ih, ih (-0 + t)]
      ring
  rw [totalThrust, List.foldl_cons, key, neg_zero, zero_add]

/-- The thrust of a mounted rotor pulls upward at the hub, the reaction turns about down. -/
theorem totalTorque_cons (mount : Mount ℝ) (thrust reaction : ℝ) (cs : List (Mount ℝ × ℝ × ℝ)) :
    totalTorque ((mount, thrust, reaction) :: cs) =
      ⟨-mount.position.y * thrust, mount.position.x * thrust, reaction⟩ + totalTorque cs := by
  have key : ∀ (cs : List (Mount ℝ × ℝ × ℝ)) (t : Vec3 ℝ),
      cs.foldl (fun torque (mount, thrust, reaction) =>
        torque + mount.position.cross (Vec3.vertical (-thrust)) + Vec3.vertical reaction) t =
          t + totalTorque cs := by
    intro cs
    induction cs with
    | nil => intro t; exact (Vec3.add_zero t).symm
    | cons c cs ih =>
      intro t
      rw [totalTorque, List.foldl_cons, List.foldl_cons, ih, ih (0 + _ + _), Vec3.zero_add,
        Vec3.add_assoc, Vec3.add_assoc, Vec3.add_assoc]
  rw [totalTorque, List.foldl_cons, key]
  congr 1
  ext <;> simp

namespace Propulsion

/-- Rotors that keep their speeds produce the factor matrix times the squared speeds. -/
theorem effort_wrenchOf {p : Propulsion ℝ} {spins : List (Spin ℝ)}
    (hlen : spins.length = p.mounts.length) (hsteady : ∀ s ∈ spins, s.acceleration = 0) :
    (p.wrenchOf spins 1).effort.vec = Mixer.factorMatrix p.constants p.mounts *ᵥ
      listVec p.mounts.length (spins.map fun s => s.speed * s.speed) := by
  obtain ⟨mounts, c, w⟩ := p
  rw [Mixer.factorMatrix_eq_columnMatrix]
  induction mounts generalizing spins with
  | nil =>
    obtain rfl := List.length_eq_zero_iff.1 hlen
    funext i
    fin_cases i <;>
      simp [wrenchOf, bodyThrust, bodyTorque, totalThrust, totalTorque, Wrench.effort, Effort.vec]
  | cons mount mounts ih =>
    obtain ⟨s, spins, rfl⟩ := List.exists_cons_of_length_eq_add_one hlen
    have hlen' : spins.length = mounts.length := by simpa using hlen
    have ih := ih (fun s' hs' => hsteady s' (List.mem_cons_of_mem _ hs')) hlen'
    have hs := hsteady s List.mem_cons_self
    rw [List.map_cons, List.map_cons, List.length_cons, columnMatrix_cons_mulVec, ← ih]
    funext i
    fin_cases i <;>
      simp [wrenchOf, bodyThrust, bodyTorque, totalThrust_cons, totalTorque_cons, Wrench.effort,
        Effort.vec, Mixer.contribution, bladeThrust, bladeReaction, hs] <;>
      ring

end Propulsion

/-! ## Demands within the limits -/

theorem Wrench.effort_injective : Function.Injective (effort : Wrench ℝ → Effort ℝ) := by
  rintro ⟨t, x, y, z⟩ ⟨t', x', y', z'⟩ h
  simpa [effort] using h

namespace Mixer

variable {mounts : List (Mount ℝ)} {c : RotorConstants ℝ} {curve : DutyCurve ℝ} {m : Mixer ℝ}

/-- A demand runs into no limit. -/
def Attains (m : Mixer ℝ) (demand : Wrench ℝ) : Prop :=
  m.saturation demand = { lower := false, upper := false }

theorem attains_iff {demand : Wrench ℝ} :
    m.Attains demand ↔ ∀ u ∈ m.squaredSpeeds demand, 0 ≤ u ∧ m.curve.duty √u ≤ 1 := by
  simp only [Attains, saturation, wantedDuties, speeds, Saturation.mk.injEq, List.any_eq_false,
    decide_eq_true_eq, List.mem_map, not_lt]
  simp [forall_and]

/-- Rotors that turn at the speeds of a demand keep them under its duties. -/
theorem run_duties (hcurve : m.curve.Valid) {demand : Wrench ℝ} (h : m.Attains demand)
    {rotors : List (Rotor ℝ)} (hr : ∀ r ∈ rotors, m.curve.Governs r)
    (hs : rotors.map (·.spin.speed) = (m.squaredSpeeds demand).map (√·)) :
    let driven := (rotors.zip (m.duties demand)).map fun (rotor, duty) => rotor.run duty
    driven.map (·.spin.speed) = (m.squaredSpeeds demand).map (√·) ∧
      ∀ r ∈ driven, r.spin.acceleration = 0 := by
  intro driven
  have hduties : m.duties demand =
      rotors.map fun r => Scalar.clamp (m.curve.duty r.spin.speed) 0 1 := by
    have hspeeds : m.speeds demand = rotors.map (·.spin.speed) := by
      rw [hs]
      exact List.map_congr_left fun u _ => Scalar.sqrtOrZero_real u
    simp only [duties, wantedDuties, hspeeds, List.map_map]
    rfl
  have hdriven : driven =
      rotors.map fun r => r.run (Scalar.clamp (m.curve.duty r.spin.speed) 0 1) := by
    simp only [driven, hduties, ← List.map_prod_left_eq_zip, List.map_map]
    rfl
  have hsteady : ∀ r ∈ rotors,
      (r.run (Scalar.clamp (m.curve.duty r.spin.speed) 0 1)).spin.speed = r.spin.speed ∧
        (r.run (Scalar.clamp (m.curve.duty r.spin.speed) 0 1)).spin.acceleration = 0 := by
    intro r hmem
    have hspeed : r.spin.speed ∈ (m.squaredSpeeds demand).map (√·) :=
      hs ▸ List.mem_map_of_mem hmem
    obtain ⟨u, hu, hspeed⟩ := List.mem_map.1 hspeed
    refine Rotor.run_steady hcurve (hr r hmem) ?_ ?_
    · exact hspeed ▸ Real.sqrt_nonneg u
    · exact hspeed ▸ (attains_iff.1 h u hu).2
  rw [hdriven]
  constructor
  · rw [← hs, List.map_map]
    exact List.map_congr_left fun r hmem => (hsteady r hmem).1
  · intro r hmem
    obtain ⟨r₀, hmem₀, rfl⟩ := List.mem_map.1 hmem
    exact (hsteady r₀ hmem₀).2

/-- Rotors that keep the speeds of a demand produce it. -/
theorem wrenchOf_eq_demand {p : Propulsion ℝ} (h : build p.mounts p.constants curve = .ok m)
    {demand : Wrench ℝ} (hattains : m.Attains demand) {spins : List (Spin ℝ)}
    (hs : spins.map (·.speed) = (m.squaredSpeeds demand).map (√·))
    (hacc : ∀ s ∈ spins, s.acceleration = 0) : p.wrenchOf spins 1 = demand := by
  have hlen : spins.length = p.mounts.length := by
    rw [← rotorCount_eq h, ← length_squaredSpeeds m demand, ← List.length_map (f := (√·)), ← hs,
      List.length_map]
  have hsquares : spins.map (fun s => s.speed * s.speed) = m.squaredSpeeds demand := by
    calc spins.map (fun s => s.speed * s.speed)
        = (spins.map (·.speed)).map fun x => x * x := by rw [List.map_map]; rfl
      _ = (m.squaredSpeeds demand).map fun u => √u * √u := by rw [hs, List.map_map]; rfl
      _ = (m.squaredSpeeds demand).map id :=
        List.map_congr_left fun u hu => Real.mul_self_sqrt (attains_iff.1 hattains u hu).1
      _ = m.squaredSpeeds demand := List.map_id _
  apply Wrench.effort_injective
  apply Effort.vec_injective
  rw [Propulsion.effort_wrenchOf hlen hacc, hsquares, factorMatrix_mulVec_squaredSpeeds h]

/-- The mixer inverts the rotors.  Its allocation is the pseudo-inverse of the factor matrix, the
squared speeds are the shortest that produce the demand, and when the demand runs into no limit,
rotors that turn at these speeds keep them under the duties of the mixer and produce the demanded
wrench. -/
theorem inverts_propulsion (h : build mounts c curve = .ok m) (hcurve : curve.Valid) :
    let M := factorMatrix c mounts
    let A := m.allocationMatrix mounts.length
    m.rotorCount = mounts.length ∧ M * A = 1 ∧ A = Mᵀ * (M * Mᵀ)⁻¹ ∧
      ∀ demand : Wrench ℝ,
        let u := m.squaredSpeeds demand
        let U := listVec mounts.length u
        M *ᵥ U = demand.effort.vec ∧
        (∀ V, M *ᵥ V = demand.effort.vec → V ≠ U → U ⬝ᵥ U < V ⬝ᵥ V) ∧
        (m.saturation demand = { lower := false, upper := false } ↔
          ∀ x ∈ u, 0 ≤ x ∧ curve.duty √x ≤ 1) ∧
        (m.saturation demand = { lower := false, upper := false } →
          ∀ (rotors : List (Rotor ℝ)) (p : Propulsion ℝ),
            (∀ r ∈ rotors, curve.Governs r) → rotors.map (·.spin.speed) = u.map (√·) →
            p.mounts = mounts → p.constants = c →
            let driven := (rotors.zip (m.duties demand)).map fun (rotor, duty) => rotor.run duty
            driven.map (·.spin.speed) = u.map (√·) ∧ (∀ r ∈ driven, r.spin.acceleration = 0) ∧
              (p.run (driven.map (·.spin)) 1).wrench = demand) := by
  intro M A
  obtain rfl := curve_eq h
  refine ⟨rotorCount_eq h, factorMatrix_mul_allocationMatrix h, allocationMatrix_eq h,
    fun demand => ⟨factorMatrix_mulVec_squaredSpeeds h demand,
      fun V hV hne => squaredSpeeds_lt_of_mulVec_eq h hV hne, attains_iff, ?_⟩⟩
  intro hattains rotors p hr hs hmounts hc driven
  obtain ⟨hspeeds, hacc⟩ : driven.map (·.spin.speed) = _ ∧ ∀ r ∈ driven, r.spin.acceleration = 0 :=
    run_duties hcurve hattains hr hs
  refine ⟨hspeeds, hacc, ?_⟩
  subst hmounts hc
  refine wrenchOf_eq_demand h hattains ?_ ?_
  · rw [List.map_map, ← hspeeds]
    rfl
  · intro s hmem
    obtain ⟨r, hdriven, rfl⟩ := List.mem_map.1 hmem
    exact hacc r hdriven

/-- A rotor with a lag, turning at the speed at which four of them carry one kilogram. -/
noncomputable def hovering : Rotor ℝ :=
  { drive := .lag (1000 / 0.1) 0.1
    constants := .standard
    maxSpeed := 1000
    dt := 0.001
    spin := { speed := √245250, acceleration := 0, duty := 0, current := none } }

theorem inverts_propulsion_hovering :
    ∃ m : Mixer ℝ, build (square 0.1) .standard (.proportional 1000) = .ok m ∧
      m.saturation { thrust := 9.81, torque := 0 } = { lower := false, upper := false } ∧
      let rotors := List.replicate 4 hovering
      let duties := m.duties { thrust := 9.81, torque := 0 }
      let driven := (rotors.zip duties).map fun (rotor, duty) => rotor.run duty
      ((Propulsion.idle (square 0.1) .standard).run (driven.map (·.spin)) 1).wrench =
        { thrust := 9.81, torque := 0 } := by
  have hcurve : (DutyCurve.proportional 1000).Valid := by norm_num [DutyCurve.Valid]
  obtain ⟨m, h⟩ := exists_build_square_standard (.proportional 1000)
  have hspeeds : m.squaredSpeeds { thrust := 9.81, torque := 0 } = List.replicate 4 245250 := by
    rw [squaredSpeeds_square h (by norm_num [RotorConstants.standard])]
    norm_num [RotorConstants.standard]
  obtain ⟨-, -, -, hdemand⟩ := inverts_propulsion h hcurve
  obtain ⟨-, -, hlimit, hdriven⟩ := hdemand { thrust := 9.81, torque := 0 }
  rw [hspeeds] at hlimit hdriven
  have hattains := hlimit.2 fun x hx => by
    obtain rfl := List.eq_of_mem_replicate hx
    have hroot : √(245250 : ℝ) ≤ 1000 := Real.sqrt_le_iff.2 (by norm_num)
    refine ⟨by norm_num, ?_⟩
    rw [DutyCurve.duty, div_le_one (by norm_num)]
    exact hroot
  refine ⟨m, h, hattains, ?_⟩
  refine (hdriven hattains (List.replicate 4 hovering) _ ?_ ?_ rfl rfl).2.2
  · intro r hr
    obtain rfl := List.eq_of_mem_replicate hr
    exact ⟨0.1, by norm_num, rfl⟩
  · simp [hovering]

end Mixer

end Multirotor
