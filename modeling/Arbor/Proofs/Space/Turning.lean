import Arbor.Space.Rotation
import Mathlib.Analysis.SpecialFunctions.Sqrt
import Mathlib.Analysis.SpecialFunctions.Trigonometric.Basic
import Mathlib.Tactic.LinearCombination
import Mathlib.Tactic.Ring

/-!
# Turning without rounding

Over the real numbers nothing is rounded when a component is stored, and bringing an angle within
half a turn of zero changes neither its cosine nor its sine.  So the rotations about the axes are
the ones of geometry there, and turning an upright arm about the first axis and then about the second
does to it what the angles of a heading do in the order of branches, as long as there is no angle
about the third axis (`turn_up`).
-/

namespace Arbor

open Real (pi cos sin)

namespace Number

/-- Real numbers as wide numbers.  Nothing is rounded. -/
noncomputable instance : Wide ℝ where
  decimal digits places := digits / 10 ^ places
  halve x := x / 2
  root := Real.sqrt
  radians x := x * (pi / 180)
  degrees x := x * (180 / pi)
  nonpositive x := open Classical in decide (x ≤ 0)

/-- Real numbers as components, which keep every value as it is. -/
noncomputable instance : Component ℝ ℝ where
  read x := x
  store x := x
  wrap angle := (angle + pi - pi * 2 * ⌊(angle + pi) / (pi * 2)⌋) - pi
  cosine := cos
  sine := sin

theorem wrap_eq (angle : ℝ) :
    Component.wrap angle = angle - ⌊(angle + pi) / (pi * 2)⌋ * (2 * pi) := by
  change (angle + pi - pi * 2 * ⌊(angle + pi) / (pi * 2)⌋) - pi = _
  ring

theorem cosine_wrap (angle : ℝ) : Component.cosine (Component.wrap angle) = cos angle := by
  rw [wrap_eq]
  exact Real.cos_sub_int_mul_two_pi angle _

theorem sine_wrap (angle : ℝ) : Component.sine (Component.wrap angle) = sin angle := by
  rw [wrap_eq]
  exact Real.sin_sub_int_mul_two_pi angle _

theorem decimal_one : (Wide.decimal 1 0 : ℝ) = 1 := by
  change ((1 : ℕ) : ℝ) / 10 ^ 0 = 1
  simp

end Number

namespace Space

open Number

/-! ## Rotations about the axes -/

namespace Rotation

/-- What a rotation makes of a vector of space, with nothing rounded. -/
theorem apply_eq (rotation : Rotation ℝ) (x y z : ℝ) :
    rotation.apply (.spatial x y z) = .ok (.spatial
      (rotation.first.1 * x + rotation.first.2.1 * y + rotation.first.2.2 * z)
      (rotation.second.1 * x + rotation.second.2.1 * y + rotation.second.2.2 * z)
      (rotation.third.1 * x + rotation.third.2.1 * y + rotation.third.2.2 * z)) := by
  have sum : ∀ row : ℝ × ℝ × ℝ,
      applyRow row x y z = row.1 * x + row.2.1 * y + row.2.2 * z := by
    intro row
    change 0 + row.1 * x + row.2.1 * y + row.2.2 * z = _
    ring
  simp only [apply, Vec.spatial, sum]

theorem about_x (angle : ℝ) :
    (about .x angle : Rotation ℝ) =
      ⟨(1, 0, 0), (0, cos angle, -sin angle), (0, sin angle, cos angle)⟩ := by
  change (⟨(Wide.decimal 1 0, 0, 0),
    (0, Component.cosine (Component.wrap angle), -Component.sine (Component.wrap angle)),
    (0, Component.sine (Component.wrap angle), Component.cosine (Component.wrap angle))⟩ :
      Rotation ℝ) = _
  rw [cosine_wrap, sine_wrap, decimal_one]

theorem about_y (angle : ℝ) :
    (about .y angle : Rotation ℝ) =
      ⟨(cos angle, 0, sin angle), (0, 1, 0), (-sin angle, 0, cos angle)⟩ := by
  change (⟨(Component.cosine (Component.wrap angle), 0, Component.sine (Component.wrap angle)),
    (0, Wide.decimal 1 0, 0),
    (-Component.sine (Component.wrap angle), 0, Component.cosine (Component.wrap angle))⟩ :
      Rotation ℝ) = _
  rw [cosine_wrap, sine_wrap, decimal_one]

theorem about_z (angle : ℝ) :
    (about .z angle : Rotation ℝ) =
      ⟨(cos angle, -sin angle, 0), (sin angle, cos angle, 0), (0, 0, 1)⟩ := by
  change (⟨(Component.cosine (Component.wrap angle), -Component.sine (Component.wrap angle), 0),
    (Component.sine (Component.wrap angle), Component.cosine (Component.wrap angle), 0),
    (0, 0, Wide.decimal 1 0)⟩ : Rotation ℝ) = _
  rw [cosine_wrap, sine_wrap, decimal_one]

/-- An upright arm is pitched about the first axis. -/
theorem apply_about_x (pitch length : ℝ) :
    (about .x pitch).apply (Vec.spatial (0 : ℝ) length 0) =
      .ok (.spatial 0 (cos pitch * length) (sin pitch * length)) := by
  simp [about_x, apply_eq]

/-- A pitched arm is brought out of its plane by a rotation about the second axis. -/
theorem apply_about_y (yaw y z : ℝ) :
    (about .y yaw).apply (Vec.spatial (0 : ℝ) y z) =
      .ok (.spatial (sin yaw * z) y (cos yaw * z)) := by
  simp [about_y, apply_eq]

/-- A point at the end of an arm, rotated about the other end. -/
theorem pivot_eq {rotation : Rotation ℝ} {x y z x' y' z' : ℝ} (px py pz : ℝ)
    (turned : rotation.apply (.spatial x y z) = .ok (.spatial x' y' z')) :
    rotation.pivot (.spatial (px + x) (py + y) (pz + z)) (.spatial px py pz) =
      .ok (.spatial (px + x') (py + y') (pz + z')) := by
  have arm : (Vec.spatial (px + x) (py + y) (pz + z)).sub (.spatial px py pz) =
      .ok (.spatial x y z) := by
    change Except.ok (Vec.spatial (px + x - px) (py + y - py) (pz + z - pz)) = _
    rw [add_sub_cancel_left, add_sub_cancel_left, add_sub_cancel_left]
  have back : (Vec.spatial x' y' z').add (.spatial px py pz) =
      .ok (.spatial (px + x') (py + y') (pz + z')) := by
    change Except.ok (Vec.spatial (x' + px) (y' + py) (z' + pz)) = _
    rw [add_comm x', add_comm y', add_comm z']
  unfold pivot
  rw [arm]
  change (rotation.apply (.spatial x y z) >>= fun turned => turned.add (.spatial px py pz)) = _
  rw [turned]
  exact back

end Rotation

/-! ## Turning by three angles -/

/-- The axes about which rotations are done, the first one first. -/
def AxisOrder.axes : AxisOrder → List Axis
  | .xyz => [.x, .y, .z]
  | .xzy => [.x, .z, .y]
  | .yxz => [.y, .x, .z]
  | .yzx => [.y, .z, .x]
  | .zxy => [.z, .x, .y]
  | .zyx => [.z, .y, .x]

example (order : AxisOrder) : String.join (order.axes.map Axis.letter) = order.letters := by
  cases order <;> decide

namespace Turns

variable {C W : Type} [Wide W] [Component C W]

/-- The angle for an axis. -/
def angle (turns : Turns C) : Axis → C
  | .x => turns.x
  | .y => turns.y
  | .z => turns.z

/-- A vector turned about the three axes, one after the other. -/
def turn (turns : Turns C) (v : Vec C) : Except Failure (Vec C) :=
  turns.order.axes.foldlM
    (fun v axis => (Rotation.about axis (Component.read (turns.angle axis))).apply v) v

/-- Without an angle about the third axis, the angles of branches turn the second axis about the
first one and then about itself. -/
theorem turn_up (x y : ℝ) :
    (⟨x, y, 0, .zxy⟩ : Turns ℝ).turn (.spatial 0 1 0) =
      .ok (.spatial (sin x * sin y) (cos x) (sin x * cos y)) := by
  have still : (Rotation.about .z (0 : ℝ)).apply (Vec.spatial (0 : ℝ) 1 0) =
      .ok (.spatial 0 1 0) := by
    simp [Rotation.about_z, Rotation.apply_eq]
  change (Rotation.about .z (0 : ℝ)).apply (Vec.spatial (0 : ℝ) 1 0) >>= (fun v =>
    (Rotation.about .x x).apply v >>= fun v => (Rotation.about .y y).apply v >>= pure) = _
  rw [still]
  change (Rotation.about .x x).apply (Vec.spatial (0 : ℝ) 1 0) >>= (fun v =>
    (Rotation.about .y y).apply v >>= pure) = _
  rw [Rotation.apply_about_x, mul_one, mul_one]
  change (Rotation.about .y y).apply (Vec.spatial 0 (cos x) (sin x)) >>= pure = _
  rw [Rotation.apply_about_y, mul_comm (sin y), mul_comm (cos y)]
  rfl

end Turns

/-! ## Directions -/

/-- The direction of a heading in degrees. -/
noncomputable def pointing (heading : Vec ℝ) : Vec ℝ :=
  let pitch := Wide.radians heading.x
  let yaw := Wide.radians heading.y
  .spatial (sin pitch * sin yaw) (cos pitch) (sin pitch * cos yaw)

/-- A vector with every component multiplied. -/
noncomputable def Vec.scaled (factor : ℝ) (v : Vec ℝ) : Vec ℝ := v.map (factor * ·)

/-- A direction has the length one. -/
theorem length_scaled (factor : ℝ) (heading : Vec ℝ) :
    ((pointing heading).scaled factor).length = |factor| := by
  have squares : ∀ pitch yaw : ℝ,
      0 + factor * (sin pitch * cos yaw) * (factor * (sin pitch * cos yaw)) +
        factor * cos pitch * (factor * cos pitch) +
        factor * (sin pitch * sin yaw) * (factor * (sin pitch * sin yaw)) = factor ^ 2 := by
    intro pitch yaw
    have pitchUnit := Real.sin_sq_add_cos_sq pitch
    have yawUnit := Real.sin_sq_add_cos_sq yaw
    linear_combination factor ^ 2 * sin pitch ^ 2 * yawUnit + factor ^ 2 * pitchUnit
  rw [← Real.sqrt_sq_eq_abs, ← squares (Wide.radians heading.x) (Wide.radians heading.y)]
  rfl

end Space
end Arbor
