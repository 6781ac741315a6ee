import DisplayLayout.Lambda.Statement
import DisplayLayout.Ledger
import DisplayLayout.Stack
import DisplayLayout.Widget.Element
import DisplayLayout.Widget.Node

/-!
# Clocks

The time of day and the date of the time source.
-/

namespace DisplayLayout.Clock

/-- The properties of a clock. -/
def table : PropertyTable :=
  [.text "format" "time_date", .int "time_font_size" 28, .int "date_font_size" 16,
    .text "font_family" "Roboto", .flag "italic" false, .text "color" "theme_auto",
    .text "text_align" "CENTER"]

/-- The formats of the time and of the date. -/
def timeFormat : String := "%H:%M"
def dateFormat : String := "%a, %b %d"

/-- What a clock shows. -/
inductive Face where
  | timeAndDate
  | time
  | date
deriving DecidableEq, Repr

/-- The face of a clock. -/
def face (v : View) : Face :=
  match Text.trim (v.text "format") with
  | "time_only" => .time
  | "time" => .time
  | "date_only" => .date
  | "date" => .date
  | _ => .timeAndDate

/-- The fonts of the time and of the date. -/
def timeFont (v : View) : Font :=
  Font.of (v.text "font_family") 700 (v.size "time_font_size" 1) (v.flag "italic")

def dateFont (v : View) : Font :=
  Font.of (v.text "font_family") 400 (v.size "date_font_size" 1) (v.flag "italic")

def fonts (v : View) : Drawing := .font (timeFont v) ++ .font (dateFont v)

/-- The height of the gap between the time and the date. -/
def gap : Int := 2

/-- The upper edges of the time and of the date within the widget. -/
def stackOffsets (v : View) : Int × Int :=
  match (Stack.center [⟨v.int32 "time_font_size", 0⟩, ⟨gap, 0⟩, ⟨v.int32 "date_font_size", 0⟩]
    v.widget.height).offsets with
  | [time, _, date] => (time, date)
  | _ => (0, 0)

def direct (v : View) (s : Surface) : Drawing :=
  let color := s.direct (v.text "color")
  let x := v.box.centerX
  let align := v.align "text_align"
  let (anchorX, anchorY) := align.anchor v.box
  let calls := match face v with
    | .timeAndDate =>
      let (timeY, dateY) := stackOffsets v
      [Lambda.strftime ⟨x, v.widget.y + timeY, (timeFont v).id, color, .topCenter⟩ timeFormat,
        Lambda.strftime ⟨x, v.widget.y + dateY, (dateFont v).id, color, .topCenter⟩ dateFormat]
    | .time => [Lambda.strftime ⟨anchorX, anchorY, (timeFont v).id, color, align⟩ timeFormat]
    | .date => [Lambda.strftime ⟨anchorX, anchorY, (dateFont v).id, color, align⟩ dateFormat]
  fonts v ++ .ofLines
    (["\x7b", "  auto now = id(" ++ Ledger.timeSource ++ ").now();"] ++ calls.map Lambda.indent ++ ["\x7d"])

def retained (v : View) (s : Surface) : Branch :=
  let (format, font) := match face v with
    | .timeAndDate => (timeFormat ++ "\\n" ++ dateFormat, timeFont v)
    | .time => (timeFormat, timeFont v)
    | .date => (dateFormat, dateFont v)
  Node.branch "label"
    (Node.geometry v ++
      [("text", Node.lambda ("return id(" ++ Ledger.timeSource ++ ").now().strftime(\"" ++ format ++ "\");")),
        ("text_font", .string font.id), ("text_color", .string (s.retained (v.text "color"))),
        ("text_align", .string (v.align "text_align").retained)])
    (fonts v)

/-- The current time in a template. -/
def templateNow (format : String) : String := Element.placeholder ("now().strftime('" ++ format ++ "')")

def element (p : Protocol) (v : View) (s : Surface) : Option Json :=
  let color := v.text "color"
  let width := some v.widget.width
  let align := v.align "text_align"
  let timeSize := v.size "time_font_size" 1
  let dateSize := v.size "date_font_size" 1
  let single (format : String) (size : Nat) :=
    some (Element.text p s (templateNow format) (align.anchor v.box) size color align width)
  match face v with
  | .time => single timeFormat timeSize
  | .date => single dateFormat dateSize
  | .timeAndDate =>
    let (timeY, dateY) := stackOffsets v
    let x := v.box.centerX
    match p with
    | .a => Element.all
      [Element.text p s (templateNow timeFormat) (x, v.widget.y + timeY) timeSize color .topCenter width,
        Element.text p s (templateNow dateFormat) (x, v.widget.y + dateY) dateSize color .topCenter width]
    | .b => some (.object
      [("type", .string "multiline"),
        ("value", .string (templateNow timeFormat ++ "|" ++ templateNow dateFormat)),
        ("delimiter", .string "|"), ("x", .int x), ("offset_y", .int (dateY - timeY)),
        ("y", .int (v.widget.y + timeY)), ("size", .nat timeSize),
        ("color", .string (s.protocol color)), ("anchor", .string Align.topCenter.anchorCode),
        ("font", .string Element.fontFile)])

/-- The type of clocks. -/
def behaviour : Behaviour where
  modes := .all
  size := (200, 60)
  table := table
  requirements := fonts
  direct := direct
  retained := retained
  element := element

end DisplayLayout.Clock
