import DisplayLayout.Widget.Node

/-!
# Panels

Boxes of the widget tree that hold or could hold other nodes.
-/

namespace DisplayLayout.Panel

/-! ## Boxes -/

/-- The properties of a box. -/
def boxTable : PropertyTable :=
  [.text "color" "white", .sameAs "bg_color" "color", .text "border_color" "gray",
    .int "border_width" 1, .int "radius" 0, .flag "fill" true, .int "opa" 255]

def boxNode (v : View) (s : Surface) : Branch :=
  Node.branch "obj" (Node.geometry v ++
    [("bg_color", Node.color v s "bg_color"),
      ("bg_opa", .string (if v.flag "fill" then "COVER" else "TRANSP")),
      ("border_width", Node.atLeast v "border_width" 0),
      ("border_color", Node.color v s "border_color"), ("radius", Node.atLeast v "radius" 0),
      ("opa", Node.opacity v)])

/-- The type of boxes. -/
def box : Behaviour where
  modes := .retainedOnly
  size := (100, 100)
  table := boxTable
  retained := boxNode

/-! ## Tabs and tiles -/

/-- The properties of a tab view. -/
def tabTable : PropertyTable :=
  [.text "tabs" "Page 1\nPage 2\nPage 3", .text "tab_pos" "TOP", .int "tab_size" 10,
    .text "bg_color" "white"]

/-- The names of the tabs: one on each line, or on a single line between commas. -/
def tabNames (v : View) : List String :=
  let text := v.text "tabs"
  let names := if text.toList.contains '\n' then Node.linesOf v "tabs" else Text.fields ',' text
  if names.isEmpty then ["Tab 1", "Tab 2"] else names

def tabNode (v : View) (s : Surface) : Branch :=
  let tabs := (tabNames v).map fun name =>
    Json.object [("name", .string name), ("widgets", .array [])]
  Node.branch "tabview" (Node.geometry v ++
    [("bg_color", Node.color v s "bg_color"), ("position", .string (Node.word v "tab_pos")),
      ("size", .string (toString (max 1 (min 100 (v.int "tab_size"))) ++ "%")),
      ("tabs", .array tabs)])

/-- The type of tab views. -/
def tabview : Behaviour where
  modes := .retainedOnly
  size := (300, 200)
  table := tabTable
  retained := tabNode

/-- The properties of a tile view. -/
def tileTable : PropertyTable := [.text "bg_color" "white"]

def tileNode (v : View) (s : Surface) : Branch :=
  let tile := Json.object [("row", .int 0), ("column", .int 0), ("widgets", .array [])]
  Node.branch "tileview"
    (Node.geometry v ++ [("bg_color", Node.color v s "bg_color"), ("tiles", .array [tile])])

/-- The type of tile views. -/
def tileview : Behaviour where
  modes := .retainedOnly
  size := (300, 200)
  table := tileTable
  retained := tileNode

end DisplayLayout.Panel
