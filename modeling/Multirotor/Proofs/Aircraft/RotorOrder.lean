import Multirotor.Proofs.Aircraft.Buildable
import Multirotor.Proofs.Aircraft.Reset
import Multirotor.Proofs.Mixing.Reorder

/-!
# Aircraft with their rotors in another order

Reordering the mounts of a configuration reorders the rotors, the rows of the mixer and the duties
of its aircraft.  `Aircraft.reordered` is that aircraft, and every operation on it is the operation
on the original, reordered (`reordered_perform`), because the rotors act on the rest only through
their wrench.  Where the duties are given with the ticks they are given in the same order.
`Aircraft.rotor_order_immaterial` states it for the builds of the two configurations.
-/

namespace Multirotor

variable {n : Nat} (σ : Equiv.Perm (Fin n))

/-! ## The same in another order -/

section Reordered

variable {α : Type}

def Configuration.reordered (c : Configuration α) : Configuration α :=
  { c with mounts := reorder σ c.mounts }

/-- The input with the duties in another order, where they are those of the rotors. -/
def AircraftInput.reordered (direct : Bool) (input : AircraftInput α) : AircraftInput α :=
  if direct then { input with duties := input.duties.map (reorder σ) } else input

def Operation.reordered (direct : Bool) : Operation α → Operation α
  | run ctx input => run ctx (input.reordered σ direct)
  | op => op

def ControlOutput.reordered (o : ControlOutput α) : ControlOutput α :=
  { o with duties := reorder σ o.duties }

def Autopilot.reordered (a : Autopilot α) : Autopilot α := { a with mixer := a.mixer.reordered σ }

/-- The aircraft with its rotors in another order. -/
def Aircraft.reordered (a : Aircraft α) : Aircraft α :=
  { a with
    config := a.config.reordered σ
    rotors := reorder σ a.rotors
    propulsion := a.propulsion.reordered σ
    autopilot := a.autopilot.reordered σ
    duties := reorder σ a.duties
    lastInput := a.lastInput.map (·.reordered σ a.config.directDuties) }

def Run.reordered (r : Run α) : Run α := { r with aircraft := r.aircraft.reordered σ }

end Reordered

/-! ## The autopilot -/

namespace Autopilot

variable {α : Type} [Scalar α]

theorem guide_reordered (a : Autopilot α) (o : Observation α) (target : Option (Target α)) :
    (a.reordered σ).guide o target = ((a.guide o target).1, (a.guide o target).2.reordered σ) := by
  have hmode : (a.reordered σ).mode = a.mode := rfl
  unfold guide
  rw [hmode]
  cases a.mode with
  | scripted => rfl
  | radio angleDirect => rfl

theorem run_reordered (a : Autopilot α) (o : Observation α) (target : Option (Target α)) :
    (a.reordered σ).run o target =
      ((a.run o target).1.reordered σ, (a.run o target).2.reordered σ) := by
  unfold run
  rw [guide_reordered]
  simp only [reordered, Mixer.saturation_reordered, Mixer.duties_reordered]
  rfl

end Autopilot

/-! ## A tick -/

namespace AircraftInput

variable {α : Type} (direct : Bool) (input : AircraftInput α)

@[simp] theorem manual_reordered : (input.reordered σ direct).manual = input.manual := by
  cases direct <;> rfl

@[simp] theorem weather_reordered : (input.reordered σ direct).weather = input.weather := by
  cases direct <;> rfl

@[simp] theorem target_reordered : (input.reordered σ direct).target = input.target := by
  cases direct <;> rfl

@[simp] theorem wrench_reordered : (input.reordered σ direct).wrench = input.wrench := by
  cases direct <;> rfl

end AircraftInput

namespace Aircraft

theorem takeDuties_reordered {α : Type} (a : Aircraft α) (input : AircraftInput α) :
    (a.reordered σ).takeDuties (input.reordered σ a.config.directDuties).duties =
      (a.takeDuties input.duties).map (·.reordered σ) := by
  cases hduties : input.duties with
  | none => cases hd : a.config.directDuties <;>
      simp [takeDuties, AircraftInput.reordered, hduties, Except.map]
  | some ds =>
    by_cases hlen : ds.length = a.rotors.length <;> cases hd : a.config.directDuties <;>
      simp [takeDuties, AircraftInput.reordered, reordered, Configuration.reordered, hduties, hlen,
        hd, Except.map]

variable {a : Aircraft ℝ} (ctx : TickContext) (input : AircraftInput ℝ)

theorem spinRotors_reordered (h : a.Aligned) (weather : Option (Weather ℝ)) :
    (a.reordered σ).spinRotors weather = (a.spinRotors weather).reordered σ := by
  have hrotors : ((reorder σ a.rotors).zip (reorder σ a.duties)).map
      (fun pair => pair.1.run pair.2) = reorder σ (a.spinRotors weather).rotors := by
    rw [reorder_zip σ h.duties.symm, ← reorder_map]
    rfl
  have hlen : a.propulsion.mounts.length =
      ((a.spinRotors weather).rotors.map (·.spin)).length := by
    rw [h.mounts, List.length_map, length_spinRotors h]
  have hwrench := Propulsion.run_reordered σ hlen (if weather.isSome then a.panel.pressureAtm else 1)
  rw [reorder_map, ← hrotors] at hwrench
  simp only [spinRotors, reordered, hrotors] at hwrench ⊢
  rw [hwrench]

theorem effectiveWeather_reordered :
    (a.reordered σ).effectiveWeather ctx (input.reordered σ a.config.directDuties) =
      a.effectiveWeather ctx input := by
  simp only [effectiveWeather, AircraftInput.weather_reordered]
  rfl

theorem bodyInput_reordered (h : a.Aligned) :
    (a.reordered σ).bodyInput ctx (input.reordered σ a.config.directDuties) =
      a.bodyInput ctx input := by
  simp only [bodyInput, effectiveWeather_reordered, spinRotors_reordered σ h,
    AircraftInput.manual_reordered, AircraftInput.wrench_reordered]
  rfl

theorem observed_reordered (h : a.Aligned) :
    (a.reordered σ).observed ctx (input.reordered σ a.config.directDuties) =
      a.observed ctx input := by
  simp only [observed, bodyInput_reordered σ ctx input h, effectiveWeather_reordered]
  rfl

theorem steered_reordered (h : a.Aligned) :
    (a.reordered σ).steered ctx (input.reordered σ a.config.directDuties) =
      ((a.steered ctx input).1.reordered σ, (a.steered ctx input).2.reordered σ) := by
  simp only [steered, observed_reordered σ ctx input h, AircraftInput.target_reordered]
  exact a.autopilot.run_reordered σ _ _

theorem fly_reordered (h : a.Aligned) :
    (a.reordered σ).fly ctx (input.reordered σ a.config.directDuties) =
      ((a.fly ctx input).1.reordered σ, (a.fly ctx input).2) := by
  have hdirect : (a.reordered σ).config.directDuties = a.config.directDuties := rfl
  refine Prod.ext ?_ ?_
  · rw [fly_fst, fly_fst, effectiveWeather_reordered, bodyInput_reordered σ ctx input h,
      observed_reordered σ ctx input h, steered_reordered σ ctx input h, spinRotors_reordered σ h,
      hdirect]
    cases hd : a.config.directDuties <;> simp only [reordered, hd] <;> rfl
  · rw [fly_snd, fly_snd, bodyInput_reordered σ ctx input h, observed_reordered σ ctx input h,
      steered_reordered σ ctx input h, hdirect]
    rfl

/-! ## Any operations -/

/-- An operation on the reordered aircraft leaves the reordered aircraft and tells the same. -/
theorem reordered_perform (h : a.Aligned) (op : Operation ℝ) :
    (a.reordered σ).perform (op.reordered σ a.config.directDuties) =
      (a.perform op).reordered σ := by
  cases op with
  | run ctx input =>
    have htake := a.takeDuties_reordered σ input
    cases ht : a.takeDuties input.duties with
    | error f =>
      rw [ht] at htake
      simp only [perform, run, Operation.reordered, ht, htake, Except.map]
      rfl
    | ok ready =>
      have hready := aligned_takeDuties h ht
      have hconfig : a.config = ready.config := by
        obtain rfl | ⟨ds, -, -, rfl⟩ := takeDuties_cases ht <;> rfl
      rw [ht, hconfig] at htake
      simp only [perform, run, Operation.reordered, ht, htake, Except.map, hconfig,
        fly_reordered σ ctx input hready]
      rfl
  | setCollision c => rfl
  | body op => rfl
  | reset =>
    simp only [Operation.reordered, perform, reset, Run.reordered, reordered, reorder_map,
      length_reorder, reorder_replicate]
    rfl

theorem reordered_after (h : a.Aligned) (ops : List (Operation ℝ)) :
    (a.reordered σ).after (ops.map (.reordered σ a.config.directDuties)) =
      (a.after ops).reordered σ := by
  induction ops generalizing a with
  | nil => rfl
  | cons op ops ih =>
    have ih := ih (aligned_perform h op)
    rw [config_perform h] at ih
    rw [List.map_cons, after_cons, reordered_perform σ h, after_cons]
    exact ih

theorem reordered_history (h : a.Aligned) (ops : List (Operation ℝ)) :
    (a.reordered σ).history (ops.map (.reordered σ a.config.directDuties)) =
      (a.history ops).map (Run.reordered σ) := by
  induction ops generalizing a with
  | nil => rfl
  | cons op ops ih =>
    have ih := ih (aligned_perform h op)
    rw [config_perform h] at ih
    rw [List.map_cons, history, reordered_perform σ h, history, List.map_cons]
    exact congrArg _ ih

/-! ## Building -/

theorem check_reordered (c : Configuration ℝ) : (c.reordered σ).check = c.check := by
  have hcount : (c.reordered σ).checkRotorCount = c.checkRotorCount := by
    simp only [Configuration.checkRotorCount, Configuration.reordered, length_reorder]
  unfold Configuration.check
  rw [hcount]
  rfl

section Assembled

variable {α : Type} [Scalar α]

/-- The aircraft with the given parts before the first tick, and what it tells. -/
def assembled (c : Configuration α) (rotors : List (Rotor α)) (body : RigidBody α)
    (panel : Panel α) (mixer : Mixer α) : Aircraft α × List (Event α) :=
  ({ config := c
     dtMicros := c.timeStepMicros
     rotors
     propulsion := .idle c.mounts c.rotor
     body, panel
     autopilot := .start c.mode c.pilot c.airframe c.maxThrust mixer c.timeStep
     duties := List.replicate rotors.length 0
     demand := 0
     time := 0
     ticks := 0
     lastInput := none },
    [.ready c.rotorCount.toNat c.hoverSpeed c.maxRotorSpeed c.rotorTimeConstant,
      .mixerReady c.mode])

/-- The building of an aircraft, with the mixer and the last step as parameters. -/
def buildWith {β : Type} (c : Configuration α) (r : Randomness α)
    (mixer : Except (Fault α) (Mixer α))
    (assemble : List (Rotor α) → RigidBody α → Panel α → Mixer α → β) : Except (Fault α) β := do
  c.check
  let rotors ← (List.replicate c.rotorCount.toNat ()).mapM fun _ => buildRotor c
  let body ← RigidBody.atRest c.airframe c.bodyOptions c.attitude c.startPosition c.startAttitude
    c.timeStep
  let panel ← Panel.build c.instruments c.reference c.magneticField c.timeStep c.gravity
    c.noiseSeed r
  let mixer ← mixer
  return assemble rotors body panel mixer

theorem build_eq_buildWith (c : Configuration α) (r : Randomness α) :
    build c r = buildWith c r (Mixer.build c.mounts c.rotor c.dutyCurve) (assembled c) := rfl

/-- What is changed in the mixer may be changed in the outcome instead, if that is so for rotors that
are all the same. -/
theorem buildWith_map {β γ : Type} {c : Configuration α} {r : Randomness α}
    (mixer : Except (Fault α) (Mixer α)) {change : Mixer α → Mixer α} {f : β → γ}
    {assemble : List (Rotor α) → RigidBody α → Panel α → Mixer α → β}
    {assemble' : List (Rotor α) → RigidBody α → Panel α → Mixer α → γ}
    (h : ∀ rotors body panel m, (∀ r ∈ rotors, buildRotor c = .ok r) →
      assemble' rotors body panel (change m) = f (assemble rotors body panel m)) :
    buildWith c r (mixer.map change) assemble' = (buildWith c r mixer assemble).map f := by
  unfold buildWith
  cases c.check with
  | error fault => rfl
  | ok _ =>
    cases hrotors : (List.replicate c.rotorCount.toNat ()).mapM fun _ => buildRotor c with
    | error fault => rfl
    | ok rotors =>
      cases RigidBody.atRest c.airframe c.bodyOptions c.attitude c.startPosition c.startAttitude
        c.timeStep with
      | error fault => rfl
      | ok body =>
        cases Panel.build c.instruments c.reference c.magneticField c.timeStep c.gravity
          c.noiseSeed r with
        | error fault => rfl
        | ok panel =>
          cases mixer with
          | error fault => rfl
          | ok m => exact congrArg Except.ok (h rotors body panel m (mapM_const_eq_ok hrotors).2)

end Assembled

theorem assembled_reordered (c : Configuration ℝ) {rotors : List (Rotor ℝ)}
    (h : reorder σ rotors = rotors) (body : RigidBody ℝ) (panel : Panel ℝ) (mixer : Mixer ℝ) :
    assembled (c.reordered σ) rotors body panel (mixer.reordered σ) =
      ((assembled c rotors body panel mixer).1.reordered σ,
        (assembled c rotors body panel mixer).2) := by
  simp only [assembled, reordered, h, reorder_replicate]
  rfl

/-- The reordered configuration is refused alike, and else builds the reordered aircraft. -/
theorem build_reordered (c : Configuration ℝ) (r : Randomness ℝ) :
    build (c.reordered σ) r = (build c r).map fun built => (built.1.reordered σ, built.2) := by
  have hbuild : build (c.reordered σ) r =
      buildWith c r ((Mixer.build c.mounts c.rotor c.dutyCurve).map (·.reordered σ))
        (assembled (c.reordered σ)) := by
    rw [← Mixer.build_reorder, build_eq_buildWith]
    unfold buildWith
    rw [check_reordered]
    rfl
  rw [hbuild, build_eq_buildWith c r]
  refine buildWith_map _ fun rotors body panel mixer hrotors => ?_
  -- The rotors that are built do not depend on where they are mounted.
  have hsame : reorder σ rotors = rotors := reorder_eq_self σ fun r hr s hs =>
    Except.ok.inj ((hrotors r hr).symm.trans (hrotors s hs))
  exact assembled_reordered σ c hsame body panel mixer

/-! ## Two histories -/

/-- The order of the rotors does not matter.  A configuration with its mounts in another order builds
exactly when the original does, and after any operations its aircraft has the body, the wrench, the
demand and the instruments of the original, and the rotors and the duties in that order. -/
theorem rotor_order_immaterial (c : Configuration ℝ) (r : Randomness ℝ)
    (σ : Equiv.Perm (Fin c.mounts.length)) :
    build (c.reordered σ) r = (build c r).map (fun built => (built.1.reordered σ, built.2)) ∧
    ∀ a events, build c r = .ok (a, events) → ∀ ops : List (Operation ℝ),
      let ops' := ops.map (.reordered σ c.directDuties)
      let x := a.after ops
      let y := (a.reordered σ).after ops'
      y.body = x.body ∧ y.propulsion.wrench = x.propulsion.wrench ∧ y.demand = x.demand ∧
      y.panel = x.panel ∧
      (x.rotors.length = c.mounts.length ∧ y.rotors = reorder σ x.rotors) ∧
      (x.duties.length = c.mounts.length ∧ y.duties = reorder σ x.duties) ∧
      y = x.reordered σ ∧
      (a.reordered σ).history ops' = (a.history ops).map (Run.reordered σ) := by
  refine ⟨build_reordered σ c r, fun a events h ops => ?_⟩
  have hasm := assembly_of_build h
  have hafter := reordered_after σ hasm.aligned ops
  have hhistory := reordered_history σ hasm.aligned ops
  have hrotors : (a.after ops).rotors.length = c.mounts.length := by
    rw [length_rotors_after hasm.aligned, hasm.rotorCount, hasm.checkRotorCount]
  have hduties := (aligned_after hasm.aligned ops).duties.trans hrotors
  rw [hasm.config] at hafter hhistory
  intro ops' x y
  have hy : y = x.reordered σ := hafter
  rw [hy]
  exact ⟨rfl, rfl, rfl, rfl, ⟨hrotors, rfl⟩, ⟨hduties, rfl⟩, rfl, hhistory⟩

/-- The standard aircraft, flown by its duties, with every rotor moved on by one place. -/
theorem rotor_order_immaterial_standard :
    let c : Configuration ℝ := { Configuration.standard with directDuties := true }
    let σ : Equiv.Perm (Fin c.mounts.length) := finRotate 4
    let tick (duties : List ℝ) : Operation ℝ :=
      .run { time := 0, useWeather := false, trace := true }
        { (.none : AircraftInput ℝ) with duties := some duties }
    let r : Randomness ℝ := .boxMuller fun _ _ => 0
    ∃ a events, build c r = .ok (a, events) ∧
      build (c.reordered σ) r = .ok (a.reordered σ, events) ∧
      ((a.reordered σ).after [tick [0.2, 0.3, 0.4, 0.1]]).body =
        (a.after [tick [0.1, 0.2, 0.3, 0.4]]).body := by
  intro c σ tick r
  obtain ⟨⟨a, events⟩, h⟩ : ∃ built, build c r = .ok built :=
    exists_build_switched .scripted true false r
  obtain ⟨hbuild, hruns⟩ := rotor_order_immaterial c r σ
  rw [h] at hbuild
  have hduties : reorder σ [0.1, 0.2, 0.3, 0.4] = ([0.2, 0.3, 0.4, 0.1] : List ℝ) := rfl
  obtain ⟨hbody, -⟩ := hruns a events h [tick [0.1, 0.2, 0.3, 0.4]]
  refine ⟨a, events, h, hbuild, ?_⟩
  rw [← hduties]
  exact hbody

end Aircraft

end Multirotor
