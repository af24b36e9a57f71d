import Multirotor.Proofs.Aircraft.Buildable
import Multirotor.Proofs.Body.Views
import Multirotor.Proofs.Space.Move

/-!
# A body that is moved horizontally

Nothing in the motion of a body depends on where north is or on where the origin lies, only on what
is up.  `HorizontalMove.MovesBody` relates a body to the same body after a horizontal move, and
`MovesOperation` relates what is done to the two: points, winds, surfaces, contacts and headings are
moved along, what is given in the frame of the body stays.  Every stage of a tick preserves the
relation, so that it holds after any operations.
-/

namespace Multirotor

namespace HorizontalMove

variable (m : HorizontalMove)

/-! ## What is moved along -/

/-- A plane after the move. -/
noncomputable def surface (s : Surface ℝ) : Surface ℝ :=
  { point := m.move s.point, normal := m.turn s.normal }

/-- The surroundings of the moved body. -/
noncomputable def weather (w : Weather ℝ) : Weather ℝ :=
  { w with wind := m.turn w.wind, surface := w.surface.map m.surface }

structure MovesPose (p p' : Pose ℝ) : Prop where
  position : p'.position = m.move p.position
  angles : m.Turns p.angles p'.angles

/-- A target is seen from the body, except for its attitude. -/
inductive MovesCollision : Collision ℝ → Collision ℝ → Prop
  | bounce (c : Bounce ℝ) : MovesCollision (.bounce c) (.bounce
      { c with
        contact := m.move c.contact
        relativeVelocity := m.turn c.relativeVelocity })
  | strike {s : Strike ℝ} {e : Euler ℝ} (h : m.Turns s.targetAngles e) :
      MovesCollision (.strike s) (.strike { s with targetAngles := e })

structure MovesInput (i i' : BodyInput ℝ) : Prop where
  wrench : i'.wrench = i.wrench
  manual : Option.Rel m.MovesPose i.manual i'.manual
  weather : i'.weather = i.weather.map m.weather

inductive MovesOperation : BodyOperation ℝ → BodyOperation ℝ → Prop
  | setPosition (p : Vec3 ℝ) : MovesOperation (.setPosition p) (.setPosition (m.move p))
  | setAngles {e e' : Euler ℝ} (h : m.Turns e e') : MovesOperation (.setAngles e) (.setAngles e')
  | setGroundVelocity (v : Vec3 ℝ) :
      MovesOperation (.setGroundVelocity v) (.setGroundVelocity (m.turn v))
  | setAngularVelocity (w : Vec3 ℝ) :
      MovesOperation (.setAngularVelocity w) (.setAngularVelocity w)
  | setCollision {c c' : Collision ℝ} (h : m.MovesCollision c c') :
      MovesOperation (.setCollision c) (.setCollision c')
  | forceRestore : MovesOperation .forceRestore .forceRestore
  | run {i i' : BodyInput ℝ} (h : m.MovesInput i i') : MovesOperation (.run i) (.run i')
  | reset : MovesOperation .reset .reset

/-- Two unit quaternions for the same rotation differ in the sign, so that these are compared by
their matrices. -/
inductive MovesAttitude : Attitude ℝ → Attitude ℝ → Prop
  | euler {e e' : Euler ℝ} (h : m.Turns e e') : MovesAttitude (.euler e) (.euler e')
  | quaternion {q q' : Quaternion ℝ} (hq : q.normSq = 1) (hq' : q'.normSq = 1)
      (h : q'.rotation = m.matrix * q.rotation) : MovesAttitude (.quaternion q) (.quaternion q')

/-- A body without bounds and the moved body.  What is measured in the frame of the body is the
same. -/
structure MovesBody (b b' : RigidBody ℝ) : Prop where
  unbounded : b.options.bounds = none
  airframe : b'.airframe = b.airframe
  options : b'.options = b.options
  dt : b'.dt = b.dt
  position : b'.position = m.move b.position
  velocity : b'.velocity = b.velocity
  angularVelocity : b'.angularVelocity = b.angularVelocity
  acceleration : b'.acceleration = b.acceleration
  attitude : m.MovesAttitude b.attitude b'.attitude
  startPosition : b'.start.position = m.move b.start.position
  startAngles : m.Turns b.startAngles b'.startAngles
  pending : Option.Rel m.MovesCollision b.pending b'.pending

variable {m}

theorem MovesInput.weather_getD {i i' : BodyInput ℝ} (h : m.MovesInput i i') :
    i'.weather.getD .standard = m.weather (i.weather.getD .standard) := by
  rw [h.weather]
  cases i.weather with
  | none => simp [HorizontalMove.weather, Weather.standard]
  | some w => rfl

/-! ## Attitudes -/

namespace MovesAttitude

variable {a a' : Attitude ℝ} (h : m.MovesAttitude a a')

include h

theorem rotation : a'.rotation = m.matrix * a.rotation := by
  cases h with
  | euler h => exact h.rotation
  | quaternion hq hq' h => exact h

/-- The matrix of the angles, which the forces use. -/
theorem rotation_angles : a'.angles.rotation = m.matrix * a.angles.rotation := by
  cases h with
  | euler h => exact h.rotation
  | quaternion hq hq' h =>
    simp only [Attitude.angles, Quaternion.rotation_euler hq, Quaternion.rotation_euler hq', h]

theorem advance (w : Vec3 ℝ) (dt : ℝ) : m.MovesAttitude (a.advance w dt) (a'.advance w dt) := by
  cases h with
  | @euler e e' h =>
    simp only [Attitude.advance, h.rateOfTurn?_eq w]
    cases e.rateOfTurn? w with
    | none => exact .euler h
    | some rate => exact .euler (h.advance rate dt)
  | quaternion hq hq' h =>
    refine .quaternion (Quaternion.normSq_advance hq w dt) (Quaternion.normSq_advance hq' w dt) ?_
    rw [Quaternion.advance_eq_mul hq', Quaternion.advance_eq_mul hq, Quaternion.rotation_mul,
      Quaternion.rotation_mul, h, Mat3.mul_assoc]

theorem setAngles {e e' : Euler ℝ} (he : m.Turns e e') :
    m.MovesAttitude (a.setAngles e) (a'.setAngles e') := by
  cases h with
  | euler => exact .euler he
  | quaternion =>
    refine .quaternion (Quaternion.normSq_ofEuler e) (Quaternion.normSq_ofEuler e') ?_
    rw [Quaternion.rotation_ofEuler, Quaternion.rotation_ofEuler, he.rotation]

end MovesAttitude

/-! ## Forces -/

theorem orient_move (unit : Vec3 ℝ) (s : Surface ℝ) (position : Vec3 ℝ) :
    GroundEffect.orient (m.turn unit) (m.surface s) (m.move position) =
      (m.turn (GroundEffect.orient unit s position).1,
        (GroundEffect.orient unit s position).2) := by
  simp only [GroundEffect.orient, surface, move_sub_move, dot_turn]
  split_ifs
  · rw [turn_neg]
  · rfl

theorem force_move (g : GroundEffect ℝ) (s : Surface ℝ) (position downwash : Vec3 ℝ)
    (thrust radius : ℝ) :
    g.force (m.surface s) (m.move position) (m.turn downwash) thrust radius =
      m.turn (g.force s position downwash thrust radius) := by
  unfold GroundEffect.force
  rw [show (m.surface s).normal = m.turn s.normal from rfl, normalize?_turn, normalize?_turn]
  cases s.normal.normalize? GroundEffect.leastLength with
  | none => exact m.turn_zero.symm
  | some unit =>
    cases downwash.normalize? GroundEffect.leastLength with
    | none => exact m.turn_zero.symm
    | some flow =>
      simp only [Option.map_some, orient_move, dot_turn]
      split_ifs
      · exact m.turn_zero.symm
      · exact m.turn_zero.symm
      · rw [turn_scale, turn_sub, turn_scale]

namespace MovesBody

variable {b b' : RigidBody ℝ} (h : m.MovesBody b b')

include h

theorem surfaceForce (w : Weather ℝ) (thrust : ℝ) :
    b'.surfaceForce (m.weather w) thrust = m.turn (b.surfaceForce w thrust) := by
  have hdown : b'.attitude.rotation.apply (.vertical 1) =
      m.turn (b.attitude.rotation.apply (.vertical 1)) := by
    rw [h.attitude.rotation, Mat3.apply_mul, turn]
  simp only [RigidBody.surfaceForce, weather, h.options, h.airframe, h.position, hdown]
  cases b.options.groundEffect with
  | none => exact m.turn_zero.symm
  | some effect =>
    cases w.surface with
    | none => exact m.turn_zero.symm
    | some s => exact force_move effect s _ _ _ _

theorem bodyAcceleration (w : Weather ℝ) (thrust : ℝ) (u v : Vec3 ℝ) :
    (b'.forces (m.weather w) thrust).bodyAcceleration b'.angles u v =
      (b.forces w thrust).bodyAcceleration b.angles u v := by
  simp only [Forces.bodyAcceleration, RigidBody.forces, RigidBody.angles, h.airframe,
    h.attitude.rotation_angles, h.surfaceForce, transpose_mul_apply_vertical]
  simp only [weather, transpose_mul_apply]

/-! ## The stages of a tick -/

theorem rotation_apply (v : Vec3 ℝ) :
    b'.attitude.rotation.apply v = m.turn (b.attitude.rotation.apply v) := by
  rw [h.attitude.rotation, Mat3.apply_mul, turn]

theorem groundVelocity : b'.groundVelocity = m.turn b.groundVelocity := by
  rw [RigidBody.groundVelocity, h.rotation_apply, h.velocity, RigidBody.groundVelocity]

theorem released : m.MovesBody b.released b'.released where
  unbounded := h.unbounded
  airframe := h.airframe
  options := h.options
  dt := h.dt
  position := h.position
  velocity := h.velocity
  angularVelocity := h.angularVelocity
  acceleration := h.acceleration
  attitude := h.attitude
  startPosition := h.startPosition
  startAngles := h.startAngles
  pending := .none

theorem setPosition (p : Vec3 ℝ) : m.MovesBody (b.setPosition p) (b'.setPosition (m.move p)) :=
  { h with position := rfl }

theorem setAngles {e e' : Euler ℝ} (he : m.Turns e e') :
    m.MovesBody (b.setAngles e) (b'.setAngles e') :=
  { h with attitude := h.attitude.setAngles he }

theorem setAngularVelocity (w : Vec3 ℝ) :
    m.MovesBody (b.setAngularVelocity w) (b'.setAngularVelocity w) :=
  { h with angularVelocity := rfl }

theorem setGroundVelocity (v : Vec3 ℝ) :
    m.MovesBody (b.setGroundVelocity v) (b'.setGroundVelocity (m.turn v)) :=
  { h with
    velocity := by
      simp only [RigidBody.setGroundVelocity, h.attitude.rotation, transpose_mul_apply] }

section Integration

variable {i i' : BodyInput ℝ} (hi : m.MovesInput i i')

include hi

theorem acceleration_integrate : (b'.integrate i').acceleration = (b.integrate i).acceleration := by
  change (b'.forces (i'.weather.getD .standard) i'.wrench.thrust).bodyAcceleration b'.angles
    b'.velocity b'.angularVelocity = _
  rw [hi.weather_getD, hi.wrench, h.velocity, h.angularVelocity, h.bodyAcceleration]
  rfl

theorem velocity_integrate : (b'.integrate i').velocity = (b.integrate i).velocity := by
  change b'.velocity + (b'.integrate i').acceleration * b'.dt = _
  rw [h.acceleration_integrate hi, h.velocity, h.dt]
  rfl

theorem angularVelocity_integrate :
    (b'.integrate i').angularVelocity = (b.integrate i).angularVelocity := by
  simp only [RigidBody.integrate, h.angularVelocity, h.airframe, h.dt, hi.wrench]

theorem moving_eq : b'.moving i' = b.moving i := by
  simp only [RigidBody.moving, h.options, h.velocity, h.velocity_integrate hi]

theorem turning_eq : b'.turning i' = b.turning i := by
  simp only [RigidBody.turning, h.options, h.angularVelocity, h.angularVelocity_integrate hi]

theorem integrate : m.MovesBody (b.integrate i) (b'.integrate i') where
  unbounded := h.unbounded
  airframe := h.airframe
  options := h.options
  dt := h.dt
  position := by
    rw [b'.position_integrate, b.position_integrate, h.moving_eq hi, h.rotation_apply, h.dt,
      h.position, move_add, turn_scale]
  velocity := h.velocity_integrate hi
  angularVelocity := h.angularVelocity_integrate hi
  acceleration := h.acceleration_integrate hi
  attitude := by
    rw [b'.attitude_integrate, b.attitude_integrate, h.turning_eq hi, h.dt]
    exact h.attitude.advance _ _
  startPosition := h.startPosition
  startAngles := h.startAngles
  pending := h.pending

end Integration

theorem held : m.MovesBody b.held b'.held := by
  have hz : b'.position.z = b.position.z := by rw [h.position, move_z]
  have hv : b'.groundVelocity.z = b.groundVelocity.z := by rw [h.groundVelocity, turn_z]
  have hput (z : ℝ) : m.MovesBody
      (((b.setPosition { b.position with z := 0 }).setGroundVelocity
        { b.groundVelocity with z }).setAngularVelocity 0)
      (((b'.setPosition { b'.position with z := 0 }).setGroundVelocity
        { b'.groundVelocity with z }).setAngularVelocity 0) := by
    rw [h.position, ← move_with_z, h.groundVelocity, ← turn_with_z]
    exact ((h.setPosition _).setGroundVelocity _).setAngularVelocity 0
  unfold RigidBody.held RigidBody.holdAboveGround
  simp only [h.options, hz, hv]
  split_ifs
  · exact h
  · exact h
  · exact hput _
  · exact h

/-! ## Collisions -/

omit h in
theorem reflectAtPoint?_move (velocity center contact : Vec3 ℝ) (restitution : ℝ) :
    Collision.reflectAtPoint? (m.turn velocity) (m.move center) (m.move contact) restitution =
      (Collision.reflectAtPoint? velocity center contact restitution).map m.turn := by
  simp only [Collision.reflectAtPoint?, Collision.reflectAtWall?, move_sub_move, dot_turn,
    normalize?_turn]
  cases (contact - center).normalize? Collision.leastNormal with
  | none => split_ifs <;> rfl
  | some n =>
    split_ifs
    · rfl
    · simp only [Option.map_some, dot_turn, turn_sub, turn_scale]

theorem bounce (c : Bounce ℝ) :
    m.MovesBody (b.bounce c).1 (b'.bounce
      { c with contact := m.move c.contact, relativeVelocity := m.turn c.relativeVelocity }).1 := by
  simp only [RigidBody.bounce, h.position, reflectAtPoint?_move, h.groundVelocity]
  cases Collision.reflectAtPoint? c.relativeVelocity b.position c.contact c.restitution with
  | none => exact h
  | some reflected =>
    simp only [Option.map_some, ← turn_sub, ← turn_add]
    exact h.setGroundVelocity _

theorem strike {s : Strike ℝ} {e : Euler ℝ} (he : m.Turns s.targetAngles e) :
    m.MovesBody (b.strike s).1 (b'.strike { s with targetAngles := e }).1 := by
  have hrelative : b'.angles.rotation.transpose * e.rotation =
      b.angles.rotation.transpose * s.targetAngles.rotation := by
    rw [RigidBody.angles, h.attitude.rotation_angles, he.rotation, transpose_mul_mul,
      RigidBody.angles]
  have htarget : ({ s with targetAngles := e } : Strike ℝ).target? b'.angles =
      s.target? b.angles := by
    simp only [Strike.target?, hrelative]
  have hcollider : b'.collider s.contactVector = b.collider s.contactVector := by
    simp only [RigidBody.collider, h.velocity, h.angularVelocity, h.airframe]
  simp only [RigidBody.strike, htarget, hcollider]
  split
  · exact h
  · exact { h with
      velocity := by rw [h.velocity]
      angularVelocity := by rw [h.angularVelocity] }

theorem hit {c c' : Option (Collision ℝ)} (hc : Option.Rel m.MovesCollision c c') :
    m.MovesBody (b.hit c).1 (b'.hit c').1 := by
  cases hc with
  | none => exact h
  | some hc =>
    simp only [RigidBody.hit, h.options]
    split_ifs
    · cases hc with
      | bounce c => exact h.bounce c
      | strike he => exact h.strike he
    · exact h

/-! ## Operations -/

theorem confined : m.MovesBody b.confined.1 b'.confined.1 := by
  simp only [RigidBody.confined, h.options, h.unbounded]
  exact h

theorem placement {i i' : BodyInput ℝ} (hi : m.MovesInput i i') :
    Option.Rel m.MovesPose (b.placement i) (b'.placement i') := by
  simp only [RigidBody.placement, h.options]
  split_ifs
  · exact hi.manual
  · exact .none

theorem run {i i' : BodyInput ℝ} (hi : m.MovesInput i i') :
    m.MovesBody (b.run i).1 (b'.run i').1 := by
  have hplacement := h.placement hi
  generalize hp : b.placement i = p at hplacement
  generalize hp' : b'.placement i' = p' at hplacement
  cases hplacement with
  | none =>
    rw [RigidBody.run_of_free hp, RigidBody.run_of_free hp']
    exact ((h.released.integrate hi).held.hit h.pending).confined
  | some hpose =>
    rw [RigidBody.run_of_placement hp, RigidBody.run_of_placement hp', hpose.position]
    exact (h.released.setPosition _).setAngles hpose.angles

theorem perform {op op' : BodyOperation ℝ} (hop : m.MovesOperation op op') :
    m.MovesBody (b.perform op).1 (b'.perform op').1 := by
  cases hop with
  | setPosition p => exact h.setPosition p
  | setAngles he => exact h.setAngles he
  | setGroundVelocity v => exact h.setGroundVelocity v
  | setAngularVelocity w => exact h.setAngularVelocity w
  | setCollision hc => exact { h with pending := .some hc }
  | forceRestore =>
    simp only [RigidBody.perform, RigidBody.forceRestore, h.options, h.unbounded]
    exact h
  | run hi => exact h.run hi
  | reset =>
    exact
      { h with
        position := h.startPosition
        velocity := rfl
        angularVelocity := rfl
        acceleration := rfl
        attitude := h.attitude.setAngles h.startAngles
        pending := .none }

omit h in
theorem after {b b' : RigidBody ℝ} (h : m.MovesBody b b') {ops ops' : List (BodyOperation ℝ)}
    (hops : List.Forall₂ m.MovesOperation ops ops') : m.MovesBody (b.after ops) (b'.after ops') := by
  induction hops generalizing b b' with
  | nil => exact h
  | cons hop _ ih => exact ih (h.perform hop)

end MovesBody

/-! ## The whole run -/

theorem movesAttitude_ofAngles (kind : AttitudeKind) {e e' : Euler ℝ} (h : m.Turns e e') :
    m.MovesAttitude (.ofAngles kind e) (.ofAngles kind e') := by
  cases kind with
  | euler => exact .euler h
  | quaternion =>
    refine .quaternion (Quaternion.normSq_ofEuler e) (Quaternion.normSq_ofEuler e') ?_
    rw [Quaternion.rotation_ofEuler, Quaternion.rotation_ofEuler, h.rotation]

theorem exists_movesBody_atRest {airframe : Airframe ℝ} {options : BodyOptions ℝ}
    {kind : AttitudeKind} {position : Vec3 ℝ} {e e' : Euler ℝ} {dt : ℝ} {b : RigidBody ℝ}
    (h : RigidBody.atRest airframe options kind position e dt = .ok b)
    (hbounds : options.bounds = none) (he : m.Turns e e') :
    ∃ b', RigidBody.atRest airframe options kind (m.move position) e' dt = .ok b' ∧
      m.MovesBody b b' := by
  obtain ⟨hcheck, hdt, rfl⟩ := RigidBody.atRest_eq_ok h
  refine ⟨_, by rw [RigidBody.atRest, hcheck]; exact if_neg (not_not.2 hdt), ?_⟩
  exact
    { unbounded := hbounds
      airframe := rfl
      options := rfl
      dt := rfl
      position := rfl
      velocity := rfl
      angularVelocity := rfl
      acceleration := rfl
      attitude := movesAttitude_ofAngles kind he
      startPosition := rfl
      startAngles := he
      pending := .none }

end HorizontalMove

namespace RigidBody

/-- A body without bounds that is moved horizontally, with all that is done to it, goes through the
same motion moved: after any of the operations its position and its velocity in the ground frame are
the moved ones, its attitude is turned about the vertical, and all that is measured in its own frame
is the same. -/
theorem after_moved {m : HorizontalMove} {b b' : RigidBody ℝ} (h : m.MovesBody b b')
    {ops ops' : List (BodyOperation ℝ)} (hops : List.Forall₂ m.MovesOperation ops ops') (n : ℕ) :
    let x := b.after (ops.take n)
    let x' := b'.after (ops'.take n)
    x'.position = m.move x.position ∧
      x'.groundVelocity = m.turn x.groundVelocity ∧
      x'.attitude.rotation = Axis.z.turn m.angle * x.attitude.rotation ∧
      (∀ e, x.attitude = .euler e → ∃ e', x'.attitude = .euler e' ∧ e'.roll = e.roll ∧
        e'.pitch = e.pitch ∧ (e'.yaw : Real.Angle) = e.yaw + m.angle) ∧
      x'.velocity = x.velocity ∧ x'.angularVelocity = x.angularVelocity ∧
      x'.acceleration = x.acceleration := by
  intro x x'
  have hx : m.MovesBody x x' := h.after (List.forall₂_take n hops)
  refine ⟨hx.position, hx.groundVelocity, hx.attitude.rotation, fun e he => ?_, hx.velocity,
    hx.angularVelocity, hx.acceleration⟩
  have hattitude := hx.attitude
  rw [he] at hattitude
  generalize x'.attitude = a' at hattitude ⊢
  cases hattitude with
  | euler hturn => exact ⟨_, rfl, hturn.roll, hturn.pitch, hturn.yaw⟩

/-- A body in the wind over a slope that runs into another body, and the same farther north-east and
turned by one radian. -/
theorem after_moved_windy :
    let m : HorizontalMove := { angle := 1, north := 20, east := 30 }
    let airframe : Airframe ℝ :=
      { mass := 1, inertia := ⟨1, 2, 3⟩, gravity := 9.81, drag := { linear := 0.1, quadratic := 0.2 }
        rotorRadius := 0.1 }
    let options : BodyOptions ℝ :=
      { BodyOptions.none with
        manualControl := true
        collisionDetection := true
        groundContact := true
        groundEffect := some .standard }
    let windy (wind : Vec3 ℝ) (slope : Surface ℝ) : BodyOperation ℝ :=
      .run
        { wrench := { thrust := 10, torque := ⟨0, 1, 0⟩ }
          manual := none
          weather := some { (.standard : Weather ℝ) with wind, surface := some slope } }
    let strike (yaw : ℝ) : BodyOperation ℝ :=
      .setCollision (.strike
        { isTargetStatic := false, restitution := 0.5, contactVector := ⟨1, 1, 0⟩
          normal := ⟨1, 0, 0⟩, targetContactVector := ⟨-1, 0, 1⟩, targetVelocity := ⟨-1, 0, 0⟩
          targetAngularVelocity := 0, targetAngles := ⟨0.1, 0.2, yaw⟩, targetInertia := ⟨3, 2, 1⟩
          targetMass := 2 })
    let wind : Vec3 ℝ := ⟨3, -4, 0⟩
    let slope : Surface ℝ := { point := 0, normal := ⟨0, 1, 2⟩ }
    ∃ b b', atRest airframe options .quaternion ⟨1, 2, -3⟩ ⟨0.1, 0.2, 0.3⟩ 0.01 = .ok b ∧
      atRest airframe options .quaternion (m.move ⟨1, 2, -3⟩) ⟨0.1, 0.2, 0.3 + 1⟩ 0.01 = .ok b' ∧
      (b'.after [windy (m.turn wind) (m.surface slope), strike (0.7 + 1),
          windy (m.turn wind) (m.surface slope)]).groundVelocity =
        m.turn (b.after [windy wind slope, strike 0.7, windy wind slope]).groundVelocity := by
  intro m airframe options windy strike wind slope
  have hcheck : airframe.check = .ok () := by norm_num [airframe, Airframe.check]
  have hdt : (0 : ℝ) < 0.01 := by norm_num
  obtain ⟨b, hb⟩ := exists_atRest hcheck hdt options .quaternion ⟨1, 2, -3⟩ ⟨0.1, 0.2, 0.3⟩
  have hyaw (yaw : ℝ) : ((yaw + 1 : ℝ) : Real.Angle) = yaw + ((1 : ℝ) : Real.Angle) :=
    Real.Angle.coe_add yaw 1
  have hturns : m.Turns ⟨0.1, 0.2, 0.3⟩ ⟨0.1, 0.2, 0.3 + 1⟩ := ⟨rfl, rfl, hyaw _⟩
  obtain ⟨b', hb', hmoves⟩ := HorizontalMove.exists_movesBody_atRest hb rfl hturns
  have hwindy : m.MovesOperation (windy wind slope)
      (windy (m.turn wind) (m.surface slope)) := .run ⟨rfl, .none, rfl⟩
  have hstrike : m.MovesOperation (strike 0.7) (strike (0.7 + 1)) :=
    .setCollision (.strike ⟨rfl, rfl, hyaw _⟩)
  have hops := List.Forall₂.cons hwindy (.cons hstrike (.cons hwindy .nil))
  exact ⟨b, b', hb, hb', (after_moved hmoves hops 3).2.1⟩

end RigidBody

end Multirotor
