import DisplayLayout.Widget.Binding

/-!
# Entry fields

Nodes of the widget tree that take a choice or a text. Choices are properties
with one option on each line, and the rows of a button matrix are written
`a,b;c,d`.
-/

namespace DisplayLayout.Entry

open Binding

/-! ## Choices -/

/-- The properties of a drop-down list. -/
def dropdownTable : PropertyTable :=
  [.text "options" "Option 1\nOption 2\nOption 3", .int "selected_index" 0, .text "color" "black",
    .text "direction" "DOWN", .int "max_height" 200, .int "opa" 255]

/-- The selected option: the reading, or that of its property. -/
def selectedIndex (v : View) : Json := countOr (numeric? v) (Node.atLeast v "selected_index" 0)

/-- The side on which a list opens. -/
def direction (word : String) : String :=
  match word with
  | "DOWN" => "BOTTOM"
  | "" => "BOTTOM"
  | "UP" => "TOP"
  | side => side

def dropdownNode (v : View) (s : Surface) : Branch :=
  Node.branch "dropdown" (Node.geometry v ++
    [("options", Node.texts (Node.linesOf v "options")), ("selected_index", selectedIndex v),
      ("text_color", Node.color v s "color"), ("dir", .string (direction (Node.word v "direction"))),
      ("dropdown_list", .object [("max_height", Node.atLeast v "max_height" 1)]),
      ("opa", Node.opacity v)])

/-- The type of drop-down lists. -/
def dropdown : Behaviour where
  modes := .retainedOnly
  size := (150, 40)
  table := dropdownTable
  retained := dropdownNode
  sensors v _ := refreshed numeric? v

/-- The properties of a roller. -/
def rollerTable : PropertyTable :=
  [.text "options" "Option A\nOption B\nOption C", .int "selected_index" 0,
    .int "visible_row_count" 3, .text "bg_color" "white", .text "color" "black",
    .text "selected_bg_color" "blue", .text "selected_text_color" "white", .text "mode" "normal",
    .int "opa" 255]

def rollerNode (v : View) (s : Surface) : Branch :=
  Node.branch "roller" (Node.geometry v ++
    [("options", Node.texts (Node.linesOf v "options")), ("selected_index", selectedIndex v),
      ("visible_row_count", Node.atLeast v "visible_row_count" 1),
      ("bg_color", Node.color v s "bg_color"), ("text_color", Node.color v s "color"),
      ("selected", .object
        [("bg_color", Node.color v s "selected_bg_color"),
          ("text_color", Node.color v s "selected_text_color")]),
      ("mode", .string (Node.word v "mode")), ("opa", Node.opacity v)])

/-- The type of rollers. -/
def roller : Behaviour where
  modes := .retainedOnly
  size := (120, 100)
  table := rollerTable
  retained := rollerNode
  sensors v _ := refreshed numeric? v

/-! ## Texts and numbers -/

/-- The properties of a text area. -/
def textareaTable : PropertyTable :=
  [.text "text" "", .text "placeholder" "Enter text...", .int "max_length" 128,
    .flag "one_line" false, .flag "password_mode" false]

def textareaNode (v : View) (_ : Surface) : Branch :=
  Node.branch "textarea" (Node.geometry v ++
    [("placeholder_text", Node.text v "placeholder"), ("text", Node.text v "text"),
      ("max_length", Node.atLeast v "max_length" 0), ("one_line", Node.flag v "one_line"),
      ("password_mode", Node.flag v "password_mode")])

/-- The type of text areas. -/
def textarea : Behaviour where
  modes := .retainedOnly
  size := (200, 80)
  table := textareaTable
  retained := textareaNode

/-- The properties of a spin box. -/
def spinboxTable : PropertyTable := [.int "value" 0, .int "digit_count" 4, .int "step" 1]

def spinboxNode (v : View) (_ : Surface) : Branch :=
  Node.branch "spinbox" (Node.geometry v ++
    [("value", countOr (numeric? v) (.int (v.int "value"))),
      ("digits", .int (max 1 (min 10 (v.int "digit_count")))), ("step", Node.atLeast v "step" 1)])

/-- The type of spin boxes. -/
def spinbox : Behaviour where
  modes := .retainedOnly
  size := (120, 40)
  table := spinboxTable
  retained := spinboxNode
  sensors v _ := refreshed numeric? v

/-! ## Keys -/

/-- The properties of a button matrix. -/
def matrixTable : PropertyTable :=
  [.text "rows" "1,2,3;4,5,6;7,8,9;*,0,#", .text "bg_color" "#444444", .text "color" "white",
    .int "opa" 255]

/-- The rows of buttons; a row without a button is dropped. -/
def matrixRows (text : String) : List Json :=
  let rows := (Text.splitOn ';' text.toList).map fun row => Text.fields ',' (String.ofList row)
  (rows.filter (!·.isEmpty)).map fun row =>
    .object [("buttons", .array (row.map fun t => .object [("text", .string t)]))]

def matrixNode (v : View) (s : Surface) : Branch :=
  Node.branch "buttonmatrix" (Node.geometry v ++
    [("rows", .array (matrixRows (v.text "rows"))), ("bg_color", Node.color v s "bg_color"),
      ("text_color", Node.color v s "color"), ("opa", Node.opacity v)])

/-- The type of button matrices. -/
def buttonMatrix : Behaviour where
  modes := .retainedOnly
  size := (200, 200)
  table := matrixTable
  retained := matrixNode

/-- The properties of a keyboard. -/
def keyboardTable : PropertyTable := [.text "mode" "TEXT_LOWER", .int "opa" 255]

/-- The mode of a keyboard. -/
def keyboardMode (v : View) : String :=
  let word := Node.word v "mode"
  if word.isEmpty then "TEXT_LOWER" else word

def keyboardNode (v : View) (_ : Surface) : Branch :=
  Node.branch "keyboard"
    (Node.geometry v ++ [("mode", .string (keyboardMode v)), ("opa", Node.opacity v)])

/-- The type of keyboards. -/
def keyboard : Behaviour where
  modes := .retainedOnly
  size := (300, 120)
  table := keyboardTable
  retained := keyboardNode

end DisplayLayout.Entry
