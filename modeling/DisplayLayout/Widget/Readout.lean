import DisplayLayout.Lambda.Statement
import DisplayLayout.Stack
import DisplayLayout.Widget.Element
import DisplayLayout.Widget.Node

/-!
# Readouts

The reading of a sensor, with its title as a label before or above it.
-/

namespace DisplayLayout.Readout

/-- The properties of a readout. -/
def table : PropertyTable :=
  [.text "value_format" "label_value", .text "unit" "", .int "precision" 1,
    .int "label_font_size" 14, .int "value_font_size" 20, .text "font_family" "Roboto",
    .int "font_weight" 400, .text "color" "theme_auto", .text "text_align" "TOP_LEFT",
    .flag "is_text_sensor" false, .text "prefix" "", .text "postfix" ""]

/-- Where the label stands. -/
inductive Arrangement where
  | valueOnly
  | inRow
  | stacked
deriving DecidableEq, Repr

/-- The arrangement of a readout. Without a title there is no label. -/
def arrangement (v : View) : Arrangement :=
  if v.heading?.isNone then .valueOnly
  else match Text.trim (v.text "value_format") with
    | "value_only" => .valueOnly
    | "label_newline_value" => .stacked
    | "label_above" => .stacked
    | _ => .inRow

/-- The sensor that is shown. -/
def sensor? (v : View) : Option Sensor :=
  v.entity?.map fun entity =>
    Sensor.of (if v.flag "is_text_sensor" then .text else (domainKind? entity).getD .numeric) entity

/-- The fonts of the label and of the value. -/
def labelFont (v : View) : Font :=
  Font.of (v.text "font_family") (v.weight "font_weight") (v.size "label_font_size" 1) false

def valueFont (v : View) : Font :=
  Font.of (v.text "font_family") (v.weight "font_weight") (v.size "value_font_size" 1) false

def fonts (v : View) : Drawing := .font (labelFont v) ++ .font (valueFont v)

/-- The number of decimal places, at most six. -/
def places (v : View) : Int := max 0 (min 6 (v.int "precision"))

/-- The conversion of a reading in a format, and its argument. -/
def conversion (s : Sensor) (places : Int) : String × String :=
  let state := Lambda.state s.id
  match s.kind with
  | .numeric => (s!"%.{places}f", state)
  | .text => ("%s", state ++ ".c_str()")
  | .binary => ("%s", state ++ " ? \"ON\" : \"OFF\"")

/-- The reading in a template. -/
def templateValue (sensor : Option Sensor) (places : Int) : String :=
  match sensor with
  | none => "--"
  | some s => Element.placeholder <|
    match s.kind with
    | .numeric => Element.state s.entityId ++ s!" | float(0) | round({places})"
    | _ => Element.state s.entityId

/-- What stands before and behind the reading. -/
def before (v : View) : String := v.text "prefix"
def behind (v : View) : String := v.text "unit" ++ v.text "postfix"

/-- The title, or nothing. -/
def heading (v : View) : String := v.heading?.getD ""

/-- The height of the gap between a label and a value below it. -/
def gap : Int := 2

/-- The upper edges of a label and of a value below it. -/
def stackOffsets (v : View) : Int × Int :=
  match (Stack.center [⟨v.int32 "label_font_size", 0⟩, ⟨gap, 0⟩, ⟨v.int32 "value_font_size", 0⟩]
    v.widget.height).offsets with
  | [label, _, value] => (v.widget.y + label, v.widget.y + value)
  | _ => (v.widget.y, v.widget.y)

/-- The call that draws the reading behind a label. -/
def valueCall (v : View) (style : Lambda.TextStyle) (label : String) : String :=
  match sensor? v with
  | some s =>
    let (mark, argument) := conversion s (places v)
    Lambda.printf style
      (Lambda.escapeFormat label ++ Lambda.escapeFormat (before v) ++ mark
        ++ Lambda.escapeFormat (behind v))
      argument
  | none => Lambda.print style (label ++ before v ++ "--" ++ behind v)

def direct (v : View) (s : Surface) : Drawing :=
  let color := s.direct (v.text "color")
  let align := v.align "text_align"
  let (x, y) := align.anchor v.box
  let style : Lambda.TextStyle := ⟨x, y, (valueFont v).id, color, align⟩
  fonts v ++ .ofLines (match arrangement v with
    | .valueOnly => [valueCall v style ""]
    | .inRow => [valueCall v style (heading v ++ ": ")]
    | .stacked =>
      let (labelY, valueY) := stackOffsets v
      let x := v.box.centerX
      [Lambda.print ⟨x, labelY, (labelFont v).id, color, .topCenter⟩ (heading v),
        valueCall v ⟨x, valueY, (valueFont v).id, color, .topCenter⟩ ""])

/-- The text of the reading with its label, in the widget tree. -/
def treeText (v : View) : Json :=
  let label := match arrangement v with
    | .valueOnly => ""
    | .inRow => heading v ++ ": "
    | .stacked => heading v ++ "\n"
  match sensor? v with
  | some s =>
    let (mark, argument) := conversion s (places v)
    Node.lambda ("return str_sprintf(\"" ++ Lambda.escapeFormat label ++ Lambda.escapeFormat (before v)
      ++ mark ++ Lambda.escapeFormat (behind v) ++ "\", " ++ argument ++ ");")
  | none => .string (label ++ before v ++ "--" ++ behind v)

def retained (v : View) (s : Surface) : Branch :=
  let align := match arrangement v with
    | .stacked => Align.topCenter
    | _ => v.align "text_align"
  Node.branch "label"
    (Node.geometry v ++
      [("text", treeText v), ("text_font", .string (valueFont v).id),
        ("text_color", .string (s.retained (v.text "color"))), ("text_align", .string align.retained)])
    (fonts v)

def element (p : Protocol) (v : View) (s : Surface) : Option Json :=
  let value := before v ++ templateValue (sensor? v) (places v) ++ behind v
  let color := v.text "color"
  let width := some v.widget.width
  let size := v.size "value_font_size" 1
  let align := v.align "text_align"
  match arrangement v with
  | .valueOnly => some (Element.text p s value (align.anchor v.box) size color align width)
  | .inRow =>
    some (Element.text p s (heading v ++ ": " ++ value) (align.anchor v.box) size color align width)
  | .stacked =>
    let (labelY, valueY) := stackOffsets v
    let x := v.box.centerX
    Element.all
      [Element.text p s (heading v) (x, labelY) (v.size "label_font_size" 1) color .topCenter width,
        Element.text p s value (x, valueY) size color .topCenter width]

/-- The type of readouts. -/
def behaviour : Behaviour where
  modes := .all
  table := table
  requirements := fonts
  direct := direct
  retained := retained
  element := element
  sensors v _ := (sensor? v).toList.map fun s => s.refreshing v.ident

end DisplayLayout.Readout
