import Multirotor.Proofs.Storage.Members
import Multirotor.Storage.Configuration

/-!
# Stored configurations

A stored configuration is read back as it was, and what is left of it after a removal is read with
standard values for what is gone, each from the smallest structure around it that has them
(`Configuration.filled`).  The rotors, their constants, the battery and the mode have none: each of
them is removed as a whole or keeps all of its keys, or the configuration is not read
(`Configuration.Kept`).  Documents hold their numbers as they are, so none of this depends on how a
number is written.
-/

namespace Multirotor

open Document Codec

variable {α : Type} [Scalar α]

namespace Configuration

/-- The configuration that is read when keys are removed. -/
def filled (r : Removal) (c : Configuration α) : Configuration α :=
  let fallback : Configuration α := .standard
  let behind (name : String) : Removal := r.under (.key name)
  { timeStep := r.pick "time_step" fallback.timeStep c.timeStep
    mass := r.pick "mass" fallback.mass c.mass
    inertia := r.pick "inertia" fallback.inertia c.inertia
    bodySize := r.pick "body_size" fallback.bodySize c.bodySize
    drag := r.pick "drag" fallback.drag (c.drag.filled (behind "drag"))
    gravity := r.pick "gravity" fallback.gravity c.gravity
    startPosition := r.pick "initial_position" fallback.startPosition c.startPosition
    startAngles := r.pick "initial_angle_deg" fallback.startAngles c.startAngles
    attitude := r.pick "attitude" fallback.attitude c.attitude
    integration := r.pick "integration" fallback.integration c.integration
    rotorCount := r.pick "rotor_count" fallback.rotorCount c.rotorCount
    mounts := r.pick "rotors" fallback.mounts c.mounts
    rotor := r.pick "rotor" fallback.rotor c.rotor
    rotorRadius := r.pick "rotor_radius" fallback.rotorRadius c.rotorRadius
    battery := r.pick "battery" fallback.battery c.battery
    instruments := r.pick "sensors" fallback.instruments (c.instruments.filled (behind "sensors"))
    magneticField := r.pick "magnetic_field" fallback.magneticField
      (c.magneticField.filled (behind "magnetic_field"))
    reference := r.pick "reference" fallback.reference (c.reference.filled (behind "reference"))
    bounds := r.pick "out_of_bounds_reset" fallback.bounds
      (c.bounds.map (·.filled (behind "out_of_bounds_reset")))
    groundEffect := r.pick "boundary_disturbance" fallback.groundEffect
      (c.groundEffect.map (·.filled (behind "boundary_disturbance")))
    manualControl := r.pick "manual_control" fallback.manualControl c.manualControl
    collisionDetection :=
      r.pick "collision_detection" fallback.collisionDetection c.collisionDetection
    groundContact := r.pick "ground_contact" fallback.groundContact c.groundContact
    useWeather := r.pick "enable_disturbance" fallback.useWeather c.useWeather
    directDuties := r.pick "direct_rotor_control" fallback.directDuties c.directDuties
    mode := r.pick "control_mode" fallback.mode c.mode
    pilot := r.pick "control" fallback.pilot (c.pilot.filled (behind "control"))
    noiseSeed := r.pick "noise_seed" fallback.noiseSeed c.noiseSeed }

/-- The members without standard values are removed as a whole or keep all of their keys. -/
def Kept (r : Removal) (c : Configuration α) : Prop :=
  r.Keeps "rotors" (encode c.mounts : Document α) ∧ r.Keeps "rotor" (encode c.rotor : Document α) ∧
    r.Keeps "battery" (encode c.battery : Document α) ∧
    r.Keeps "control_mode" (encode c.mode : Document α)

instance (r : Removal) (c : Configuration α) : Decidable (c.Kept r) :=
  inferInstanceAs (Decidable (_ ∧ _))

theorem decode_without (r : Removal) (c : Configuration α) :
    decode ((encode c : Document α).without r) =
      if c.Kept r then some (c.filled r) else none := by
  refine bind_fields ?_
  iterate 11 refine bind_filled rfl ?_
  refine bind_strict rfl ?_
  refine bind_strict rfl ?_
  refine bind_filled rfl ?_
  refine bind_strict rfl ?_
  iterate 10 refine bind_filled rfl ?_
  refine (bind_strict (p := True) (z := c.filled r) rfl ?_).trans (by simp only [and_true])
  iterate 2 refine bind_filled rfl ?_
  rfl

theorem kept_nothing (c : Configuration α) : c.Kept .nothing :=
  ⟨.inr (Removal.spares_nothing _), .inr (Removal.spares_nothing _),
    .inr (Removal.spares_nothing _), .inr (Removal.spares_nothing _)⟩

theorem filled_nothing (c : Configuration α) : c.filled .nothing = c := by
  have hbounds : c.bounds.map (·.filled .nothing) = c.bounds :=
    Fills.filled_nothing (α := α) c.bounds
  have heffect : c.groundEffect.map (·.filled .nothing) = c.groundEffect :=
    Fills.filled_nothing (α := α) c.groundEffect
  change { c with
    bounds := c.bounds.map (·.filled .nothing)
    groundEffect := c.groundEffect.map (·.filled .nothing) } = c
  rw [hbounds, heffect]

instance : Lawful α (Configuration α) where
  decode_encode c := by
    have h := decode_without .nothing c
    rwa [without_nothing, if_pos c.kept_nothing, filled_nothing] at h

/-- Whatever is stored for an aircraft is read back as it was.  What is left of a configuration
after any removal is read as well, with standard values for the keys that are gone, unless a key is
gone from a member that has no standard values and is still there. -/
theorem read_after_removal :
    (Lawful α (Configuration α) ∧ Lawful α (Collision α) ∧ Lawful α (Target α) ∧
      Lawful α (RadioCommand α)) ∧
    (Lawful α (Drag α) ∧ Lawful α AttitudeKind ∧ Lawful α IntegrationScheme ∧ Lawful α (Mount α) ∧
      Lawful α (RotorConstants α) ∧ Lawful α (Battery α) ∧ Lawful α (PanelSettings α) ∧
      Lawful α (InstrumentSettings α) ∧ Lawful α (MagneticField α) ∧ Lawful α (GeoReference α) ∧
      Lawful α (Bounds α) ∧ Lawful α (GroundEffect α) ∧ Lawful α ControlMode ∧
      Lawful α (PilotParameters α) ∧ Lawful α (PidGains α) ∧ Lawful α (Bounce α) ∧
      Lawful α (Strike α) ∧ Lawful α (Waypoint α)) ∧
    ∀ (r : Removal) (c : Configuration α), decode ((encode c : Document α).without r) =
      if c.Kept r then some (c.filled r) else none :=
  ⟨⟨inferInstance, inferInstance, inferInstance, inferInstance⟩,
    ⟨.of_fills, inferInstance, inferInstance, .of_strict, .of_strict, .of_strict, .of_fills,
      .of_fills, .of_fills, .of_fills, .of_fills, .of_fills, .of_strict, .of_fills, .of_fills,
      inferInstance, inferInstance, inferInstance⟩,
    decode_without⟩

/-- A missing coefficient is that of `Drag`, not that of the standard configuration. -/
example (c : Configuration α) : (c.filled (· == [.key "drag", .key "linear"])).drag =
    { c.drag with linear := (0 : Drag α).linear } := rfl

end Configuration

end Multirotor
