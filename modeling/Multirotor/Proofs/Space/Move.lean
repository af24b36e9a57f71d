import Multirotor.Proofs.Space.Angle
import Multirotor.Proofs.Space.Rotation

/-!
# Horizontal moves

A `HorizontalMove` turns the ground frame about the vertical and shifts it horizontally.
Directions are turned (`turn`), points are turned and shifted (`move`), and Euler angles keep roll
and pitch while the yaw is shifted up to full turns (`Turns`).  Lengths, heights and everything that
a turned body measures in its own frame stay as they are.
-/

namespace Multirotor

/-- A turn about the vertical, followed by a horizontal shift. -/
structure HorizontalMove where
  angle : ℝ
  north : ℝ
  east : ℝ

namespace HorizontalMove

variable (m : HorizontalMove)

/-- The matrix of the turn. -/
noncomputable def matrix : Mat3 ℝ := Axis.z.turn m.angle

/-- A direction after the move. -/
noncomputable def turn (v : Vec3 ℝ) : Vec3 ℝ := m.matrix.apply v

/-- A point after the move. -/
noncomputable def move (p : Vec3 ℝ) : Vec3 ℝ := m.turn p + ⟨m.north, m.east, 0⟩

theorem isRotation_matrix : m.matrix.IsRotation := Axis.isRotation_turn _ _

/-! ## Directions -/

section Directions

variable (u v : Vec3 ℝ) (s : ℝ)

@[simp] theorem turn_z : (m.turn v).z = v.z := by
  simp [turn, matrix, Axis.turn, Mat3.apply, Vec3.dot]

@[simp] theorem turn_vertical : m.turn (.vertical s) = .vertical s := by
  ext <;> simp [turn, matrix, Axis.turn, Mat3.apply, Vec3.dot]

@[simp] theorem turn_zero : m.turn 0 = 0 := Mat3.apply_zero _

theorem turn_add : m.turn (u + v) = m.turn u + m.turn v := Mat3.apply_add _ _ _

theorem turn_scale : m.turn (v * s) = m.turn v * s := Mat3.apply_scale _ _ _

theorem turn_sub : m.turn (u - v) = m.turn u - m.turn v := Mat3.apply_sub _ _ _

theorem turn_neg : m.turn (-v) = -m.turn v := Mat3.apply_neg _ _

theorem turn_div : m.turn (v / s) = m.turn v / s := Mat3.apply_div _ _ _

@[simp] theorem dot_turn : (m.turn u).dot (m.turn v) = u.dot v :=
  m.isRotation_matrix.dot_apply_apply u v

@[simp] theorem norm_turn : (m.turn v).norm = v.norm := m.isRotation_matrix.norm_apply v

/-- The height of a direction may be changed before or after the turn. -/
theorem turn_with_z : m.turn { v with z := s } = { m.turn v with z := s } := by
  ext <;> simp [turn, matrix, Axis.turn, Mat3.apply, Vec3.dot]

theorem normalize?_turn (least : ℝ) :
    (m.turn v).normalize? least = (v.normalize? least).map m.turn := by
  simp only [Vec3.normalize?, norm_turn]
  split_ifs
  · rfl
  · rw [Option.map_some, turn_div]

end Directions

/-! ## Points -/

section Points

variable (p q : Vec3 ℝ)

@[simp] theorem move_z : (m.move p).z = p.z := by
  simp [move]

theorem move_sub_move : m.move p - m.move q = m.turn (p - q) := by
  rw [turn_sub]
  ext <;> simp [move]

theorem move_add (v : Vec3 ℝ) : m.move (p + v) = m.move p + m.turn v := by
  rw [move, turn_add, move]
  ext <;> simp <;> ring

theorem move_with_z (s : ℝ) : m.move { p with z := s } = { m.move p with z := s } := by
  rw [move, turn_with_z, move]
  ext <;> simp

end Points

/-! ## The horizontal plane -/

section Plane

/-- A horizontal direction after the move. -/
noncomputable def turnLevel (v : Vec2 ℝ) : Vec2 ℝ :=
  { x := Real.cos m.angle * v.x - Real.sin m.angle * v.y
    y := Real.sin m.angle * v.x + Real.cos m.angle * v.y }

/-- A point of the horizontal plane after the move. -/
noncomputable def moveLevel (p : Vec2 ℝ) : Vec2 ℝ :=
  { x := (m.turnLevel p).x + m.north, y := (m.turnLevel p).y + m.east }

variable (p q v : Vec2 ℝ) (s : ℝ)

theorem horizontal_turn (v : Vec3 ℝ) : (m.turn v).horizontal = m.turnLevel v.horizontal := by
  simp [Vec3.horizontal, turnLevel, turn, matrix, Axis.turn, Mat3.apply, Vec3.dot]
  ring

theorem horizontal_move (p : Vec3 ℝ) : (m.move p).horizontal = m.moveLevel p.horizontal := by
  rw [moveLevel, ← horizontal_turn]
  rfl

@[simp] theorem turnLevel_zero : m.turnLevel ⟨0, 0⟩ = ⟨0, 0⟩ := by
  simp [turnLevel]

theorem turnLevel_sub : m.turnLevel (p - q) = m.turnLevel p - m.turnLevel q := by
  ext <;> simp only [turnLevel, Vec2.sub_x, Vec2.sub_y] <;> ring

theorem turnLevel_scale : m.turnLevel (v * s) = m.turnLevel v * s := by
  ext <;> simp only [turnLevel, Vec2.scale_x, Vec2.scale_y] <;> ring

theorem moveLevel_sub_moveLevel : m.moveLevel p - m.moveLevel q = m.turnLevel (p - q) := by
  rw [turnLevel_sub]
  ext <;> simp [moveLevel]

@[simp] theorem norm_turnLevel : (m.turnLevel v).norm = v.norm := by
  have hone := Real.sin_sq_add_cos_sq m.angle
  rw [Vec2.norm, Vec2.norm]
  congr 1
  simp only [turnLevel]
  linear_combination (v.x * v.x + v.y * v.y) * hone

end Plane

/-! ## Angles -/

/-- The angles of a body and those of the moved body; the yaw is shifted up to full turns. -/
structure Turns (e e' : Euler ℝ) : Prop where
  roll : e'.roll = e.roll
  pitch : e'.pitch = e.pitch
  yaw : (e'.yaw : Real.Angle) = e.yaw + m.angle

variable {m} {e e' : Euler ℝ}

theorem Turns.rotation (h : m.Turns e e') : e'.rotation = m.matrix * e.rotation := by
  have hyaw : (e'.yaw : Real.Angle) = ((m.angle + e.yaw : ℝ) : Real.Angle) := by
    rw [h.yaw, Real.Angle.coe_add, add_comm]
  have hsin : Real.sin e'.yaw = Real.sin (m.angle + e.yaw) := congrArg Real.Angle.sin hyaw
  have hcos : Real.cos e'.yaw = Real.cos (m.angle + e.yaw) := congrArg Real.Angle.cos hyaw
  have hturn : Axis.z.turn e'.yaw = m.matrix * Axis.z.turn e.yaw := by
    rw [matrix, ← Axis.turn_add]
    simp only [Axis.turn, hsin, hcos]
  rw [Euler.rotation_eq_mul, hturn, h.roll, h.pitch, Mat3.mul_assoc, ← Euler.rotation_eq_mul]

theorem Turns.rateOfTurn?_eq (h : m.Turns e e') (w : Vec3 ℝ) :
    e'.rateOfTurn? w = e.rateOfTurn? w := by
  simp only [Euler.rateOfTurn?, h.roll, h.pitch]

theorem Turns.advance (h : m.Turns e e') (rate : Euler ℝ) (dt : ℝ) :
    m.Turns (e.advance rate dt) (e'.advance rate dt) where
  roll := by simp only [Euler.advance, h.roll]
  pitch := by simp only [Euler.advance, h.pitch]
  yaw := by
    simp only [Euler.advance, coe_wrapAngle, Real.Angle.coe_add, h.yaw]
    exact add_right_comm _ _ _

/-! ## Attitudes -/

/-- A ground vector in the frame of a turned body. -/
theorem transpose_mul_apply (m : HorizontalMove) (r : Mat3 ℝ) (v : Vec3 ℝ) :
    (m.matrix * r).transpose.apply (m.turn v) = r.transpose.apply v := by
  rw [Mat3.transpose_mul, Mat3.apply_mul, turn, m.isRotation_matrix.transpose_apply_apply]

/-- A turned attitude seen from the frame of a turned body. -/
theorem transpose_mul_mul (m : HorizontalMove) (r s : Mat3 ℝ) :
    (m.matrix * r).transpose * (m.matrix * s) = r.transpose * s := by
  rw [Mat3.transpose_mul, Mat3.mul_assoc, ← Mat3.mul_assoc m.matrix.transpose,
    m.isRotation_matrix.transpose_mul_self, Mat3.diagonal_one_mul]

/-- What is vertical in the ground frame. -/
theorem transpose_mul_apply_vertical (m : HorizontalMove) (r : Mat3 ℝ) (s : ℝ) :
    (m.matrix * r).transpose.apply (.vertical s) = r.transpose.apply (.vertical s) := by
  rw [← m.transpose_mul_apply r (.vertical s), turn_vertical]

end HorizontalMove

end Multirotor
