import DisplayLayout.Declaration
import DisplayLayout.Drawing
import DisplayLayout.Widget.View

/-!
# Behaviour of widget types

What a widget type contributes in each mode. A type defines what it supports;
everything else has a default that contributes nothing.
-/

namespace DisplayLayout

/-- A node of the widget tree, if there is anything to show, and what it uses. -/
structure Branch where
  node : Option Json := none
  uses : Drawing := {}

/-- The two drawing protocols. -/
inductive Protocol where
  | a
  | b
deriving DecidableEq, Repr, Inhabited

/-- What the widgets of a type do. -/
structure Behaviour where
  modes : Modes
  /-- The size of a widget whose marker has none. -/
  size : Int × Int := (100, 30)
  table : PropertyTable
  /-- The fonts and glyphs that a widget may use, whatever the readings are. -/
  requirements : View → Drawing := fun _ => {}
  /-- Statements of the display lambda. -/
  direct : View → Surface → Drawing := fun _ _ => {}
  /-- A node of the widget tree. -/
  retained : View → Surface → Branch := fun _ _ => {}
  /-- An element of a protocol payload, or a list of them. -/
  element : Protocol → View → Surface → Option Json := fun _ _ _ => none
  sensors : View → Surroundings → List Sensor := fun _ _ => []
  components : View → Surroundings → List Component := fun _ _ => []
  /-- What declaring the components reports. -/
  componentEvents : View → Surroundings → List Event := fun _ _ => []
  globals : View → Surroundings → List Global := fun _ _ => []

/-- A weight of 16 bits; anything else is the normal weight. -/
def View.weight (v : View) (key : String) : Nat :=
  let n := v.int key
  if 0 ≤ n ∧ n ≤ 65535 then n.toNat else 400

end DisplayLayout
