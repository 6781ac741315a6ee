import DisplayLayout.Widget.Binding

/-!
# Controls

Nodes of the widget tree that show the state of an entity and act on it. They
exist in the retained mode only.
-/

namespace DisplayLayout.Control

open Binding

/-- The range of a value. -/
def range (v : View) : Node.Entries :=
  [("min_value", .int (v.int "min")), ("max_value", .int (v.int "max"))]

/-- The value of a control: the reading, or that of its property. -/
def value (v : View) : Json := stateOr (numeric? v) (.int (v.int "value"))

/-- A background color as the style of a part. -/
def filled (v : View) (s : Surface) (key : String) : Json := .object [("bg_color", Node.color v s key)]

/-- Whether a control is checked: the reading, or its property. -/
def checkedState (v : View) : Json :=
  .object [("checked", stateOr (binary? v) (Node.flag v "checked"))]

/-- The mark of a control that is checked. -/
def checkedMark (v : View) (s : Surface) : Json := .object [("checked", filled v s "color")]

/-- Toggles the entity of a control. -/
def toggle (v : View) (trigger : String) : Node.Entries :=
  action v trigger fun e => service "homeassistant.toggle" e []

/-! ## Buttons and labels -/

/-- The properties of a button. -/
def buttonTable : PropertyTable :=
  [.text "text" "Button", .text "bg_color" "white", .text "color" "black", .int "border_width" 2,
    .int "radius" 5]

/-- The font of the text on a button. -/
def buttonFont : Font := Font.of "Roboto" 400 20 false

/-- The service that a press calls: buttons are pressed, scripts and scenes turned on, and
everything else is toggled. -/
def pressService (entity : String) : String :=
  let d := domain entity
  if d = "button" ∨ d = "input_button" then d ++ ".press"
  else if d = "script" ∨ d = "scene" then d ++ ".turn_on"
  else "homeassistant.toggle"

def buttonNode (v : View) (s : Surface) : Branch :=
  let label := Node.of "label"
    [("align", .string "CENTER"), ("text", .string (v.text "text")),
      ("text_font", .string buttonFont.id), ("text_color", Node.color v s "color")]
  Node.branch "button"
    (Node.geometry v
      ++ [("bg_color", Node.color v s "bg_color"), ("border_width", Node.atLeast v "border_width" 0),
        ("border_color", Node.color v s "color"), ("radius", Node.atLeast v "radius" 0),
        ("widgets", .array [label])]
      ++ action v "on_click" fun e => service (pressService e) e [])
    (.font buttonFont)

/-- The type of buttons. -/
def button : Behaviour where
  modes := .retainedOnly
  table := buttonTable
  requirements _ := .font buttonFont
  retained := buttonNode

/-- The properties of a label. -/
def labelTable : PropertyTable :=
  [.text "text" "Label", .int "font_size" 20, .text "font_family" "Roboto",
    .text "color" "theme_auto", .text "text_align" "CENTER"]

/-- The font of a label. -/
def labelFont (v : View) : Font := Font.of (v.text "font_family") 400 (v.size "font_size" 1) false

/-- The code that writes the reading of a sensor. -/
def readingText (s : Sensor) : String :=
  let state := Lambda.state s.id
  match s.kind with
  | .numeric => "return str_sprintf(\"%.1f\", " ++ state ++ ");"
  | .text => "return " ++ state ++ ";"
  | .binary => "return std::string(" ++ state ++ " ? \"ON\" : \"OFF\");"

/-- The text of a label: the reading, or that of its property. -/
def labelText (v : View) : Json :=
  match any? v with
  | some sensor => Node.lambda (readingText sensor)
  | none => .string (v.text "text")

def labelNode (v : View) (s : Surface) : Branch :=
  Node.branch "label"
    (Node.geometry v ++
      [("text", labelText v), ("text_font", .string (labelFont v).id),
        ("text_color", Node.color v s "color"),
        ("text_align", .string (v.align "text_align").retained)])
    (.font (labelFont v))

/-- The type of labels. -/
def label : Behaviour where
  modes := .retainedOnly
  table := labelTable
  requirements v := .font (labelFont v)
  retained := labelNode
  sensors v _ := refreshed any? v

/-! ## Values in a range -/

/-- The properties of an arc. -/
def arcTable : PropertyTable :=
  [.int "value" 50, .int "min" 0, .int "max" 100, .int "thickness" 10, .text "color" "blue",
    .int "start_angle" 135, .int "end_angle" 45, .text "mode" "normal"]

/-- An angle in degrees within one turn. -/
def angle (v : View) (key : String) : Json := .int (Int.emod (v.int key) 360)

def arcNode (v : View) (s : Surface) : Branch :=
  let thickness := Node.atLeast v "thickness" 1
  Node.branch "arc" (Node.geometry v ++ ("value", value v) :: range v ++
    [("start_angle", angle v "start_angle"), ("end_angle", angle v "end_angle"),
      ("mode", .string (Node.word v "mode")), ("arc_width", thickness),
      ("indicator", .object [("arc_color", Node.color v s "color"), ("arc_width", thickness)])])

/-- The type of arcs. -/
def arc : Behaviour where
  modes := .retainedOnly
  table := arcTable
  retained := arcNode
  sensors v _ := refreshed numeric? v

/-- The properties of a bar. -/
def barTable : PropertyTable :=
  [.int "value" 50, .int "min" 0, .int "max" 100, .text "color" "blue", .text "bg_color" "gray"]

def barNode (v : View) (s : Surface) : Branch :=
  Node.branch "bar" (Node.geometry v ++ ("value", value v) :: range v ++
    [("bg_color", Node.color v s "bg_color"), ("indicator", filled v s "color")])

/-- The type of bars. -/
def bar : Behaviour where
  modes := .retainedOnly
  table := barTable
  retained := barNode
  sensors v _ := refreshed numeric? v

/-- The properties of a slider. -/
def sliderTable : PropertyTable :=
  [.int "value" 30, .int "min" 0, .int "max" 100, .text "color" "blue"]

/-- How a slider sets an entity: the service, and the key of the value. -/
structure Setter where
  service : String
  key : String
deriving DecidableEq, Repr

/-- The setter for the domain of an entity. -/
def Setter.ofEntity (entity : String) : Setter :=
  match domain entity with
  | "light" => ⟨"light.turn_on", "brightness_pct"⟩
  | "fan" => ⟨"fan.set_percentage", "percentage"⟩
  | "cover" => ⟨"cover.set_cover_position", "position"⟩
  | "media_player" => ⟨"media_player.volume_set", "volume_level"⟩
  | "input_number" => ⟨"input_number.set_value", "value"⟩
  | _ => ⟨"number.set_value", "value"⟩

/-- The value that a setter sends; a volume is a fraction. -/
def Setter.value (t : Setter) : Json :=
  Node.lambda (if t.key = "volume_level" then "return x / 100.0;" else "return x;")

/-- The call that sets an entity. -/
def Setter.call (entity : String) : Json :=
  let t := Setter.ofEntity entity
  Binding.service t.service entity [(t.key, t.value)]

def sliderNode (v : View) (s : Surface) : Branch :=
  Node.branch "slider" (Node.geometry v ++ ("value", value v) :: range v
    ++ [("indicator", filled v s "color"), ("knob", filled v s "color")]
    ++ action v "on_release" Setter.call)

/-- The type of sliders. -/
def slider : Behaviour where
  modes := .retainedOnly
  table := sliderTable
  retained := sliderNode
  sensors v _ := refreshed numeric? v

/-! ## On and off -/

/-- The properties of a switch. -/
def switchTable : PropertyTable := [.flag "checked" false, .text "color" "blue"]

def switchNode (v : View) (s : Surface) : Branch :=
  Node.branch "switch" (Node.geometry v
    ++ [("state", checkedState v), ("indicator", checkedMark v s)]
    ++ toggle v "on_change")

/-- The type of switches. -/
def switch : Behaviour where
  modes := .retainedOnly
  table := switchTable
  retained := switchNode
  sensors v _ := refreshed binary? v

/-- The properties of a checkbox. -/
def checkboxTable : PropertyTable :=
  [.text "text" "Checkbox", .flag "checked" false, .text "color" "blue"]

def checkboxNode (v : View) (s : Surface) : Branch :=
  Node.branch "checkbox" (Node.geometry v
    ++ [("text", .string (v.text "text")), ("state", checkedState v), ("indicator", checkedMark v s)]
    ++ toggle v "on_click")

/-- The type of checkboxes. -/
def checkbox : Behaviour where
  modes := .retainedOnly
  table := checkboxTable
  retained := checkboxNode
  sensors v _ := refreshed binary? v

/-- The properties of a light. -/
def ledTable : PropertyTable := [.text "color" "red", .int "brightness" 100]

/-- The brightness of a light in percent. -/
def brightness (v : View) : Int := max 0 (min 100 (v.int "brightness"))

/-- The brightness that is shown: that of its property, and only while the entity is on. -/
def ledBrightness (v : View) : Json :=
  match binary? v with
  | some sensor =>
    Node.lambda ("return " ++ Lambda.state sensor.id ++ s!" ? {brightness v} : 0;")
  | none => .string (toString (brightness v) ++ "%")

def ledNode (v : View) (s : Surface) : Branch :=
  Node.branch "led"
    (Node.geometry v ++ [("color", Node.color v s "color"), ("brightness", ledBrightness v)])

/-- The type of lights. -/
def led : Behaviour where
  modes := .retainedOnly
  size := (30, 30)
  table := ledTable
  retained := ledNode
  sensors v _ := refreshed binary? v

end DisplayLayout.Control
