import DisplayLayout.Widget.Behaviour
import DisplayLayout.Yaml

/-!
# Nodes of the widget tree

The parts that nodes of several types have in common.
-/

namespace DisplayLayout.Node

/-- The entries of a node. -/
abbrev Entries := List (String × Json)

/-- The identifier and the box of a widget. -/
def geometry (v : View) : Entries :=
  [("id", .string v.ident), ("x", .int v.widget.x), ("y", .int v.widget.y),
    ("width", .int v.widget.width), ("height", .int v.widget.height)]

/-- A node of a kind. -/
def of (kind : String) (entries : Entries) : Json := .object [(kind, .object entries)]

/-- A node that is shown. -/
def branch (kind : String) (entries : Entries) (uses : Drawing := {}) : Branch :=
  ⟨some (of kind entries), uses⟩

/-- A transparent box with children. -/
def container (v : View) (children : List Json) : Json :=
  of "obj" (geometry v ++
    [("bg_opa", .string "TRANSP"), ("border_width", .int 0), ("pad_all", .int 0),
      ("widgets", .array children)])

/-- A label within a container, centered from left to right. -/
def childLabel (id : String) (y : Int) (text : Json) (font color : String) : Json :=
  of "label"
    [("id", .string id), ("align", .string "TOP_MID"), ("y", .int y), ("text", text),
      ("text_font", .string font), ("text_color", .string color)]

/-- A text that is computed while the tree is shown. -/
def lambda (code : String) : Json := Yaml.lambda code

/-- The color that a property names. -/
def color (v : View) (s : Surface) (key : String) : Json := .string (s.retained (v.text key))

/-- The number of a property, but not below a bound. -/
def atLeast (v : View) (key : String) (least : Int) : Json := .int (max least (v.int key))

/-- A truth value of a property. -/
def flag (v : View) (key : String) : Json := .bool (v.flag key)

/-- A word of a property in upper case. -/
def word (v : View) (key : String) : String := Text.upper (Text.trim (v.text key))

/-- The text of a property. -/
def text (v : View) (key : String) : Json := .string (v.text key)

/-- How much of a node shines through, in percent; the ends of the scale have names. -/
def opacity (v : View) : Json :=
  let n := v.int "opa"
  if 255 ≤ n then .string "COVER"
  else if n ≤ 0 then .string "TRANSP"
  else .string (toString ((n * 100 + 127) / 255) ++ "%")

/-- The lines of a property that are not blank, without the blanks at their ends. -/
def linesOf (v : View) (key : String) : List String :=
  (Text.lines (v.text key)).filterMap Text.nonBlank?

/-- Texts as a sequence. -/
def texts (ts : List String) : Json := .array (ts.map .string)

end DisplayLayout.Node
