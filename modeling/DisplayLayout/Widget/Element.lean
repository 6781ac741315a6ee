import DisplayLayout.Widget.Behaviour

/-!
# Elements of protocol payloads

The elements that several types draw, in the form of either protocol.
-/

namespace DisplayLayout.Element

/-- The font that texts are drawn in. -/
def fontFile : String := "ppb.ttf"

/-- A text at a point. Only the first protocol has a width to break lines at, a spacing and
an alignment of lines. -/
def text (p : Protocol) (s : Surface) (value : String) (at_ : Int × Int) (size : Nat)
    (color : String) (align : Align) (maxWidth : Option Int) : Json :=
  .object <|
    [("type", .string "text"), ("value", .string value), ("x", .int at_.1), ("y", .int at_.2),
      ("size", .nat size), ("color", .string (s.protocol color)),
      ("anchor", .string align.anchorCode), ("font", .string fontFile)]
    ++ match p with
      | .a =>
        (match maxWidth with
          | some w => [("max_width", .int w)]
          | none => [])
        ++ [("spacing", .int 4), ("align", .string align.horizontalWord)]
      | .b => []

/-- An icon below a point. The protocols differ in the key of the color. -/
def icon (p : Protocol) (s : Surface) (name : String) (at_ : Int × Int) (size : Nat)
    (color : String) : Json :=
  let colorKey := match p with
    | .a => "color"
    | .b => "fill"
  .object
    [("type", .string "icon"), ("value", .string name), ("x", .int at_.1), ("y", .int at_.2),
      ("size", .nat size), (colorKey, .string (s.protocol color)), ("anchor", .string "mt")]

/-- The expression for the state of an entity in a template. -/
def state (entity : String) : String := "states('" ++ entity ++ "')"

/-- An expression in a template. -/
def placeholder (expression : String) : String := "\x7b\x7b " ++ expression ++ " \x7d\x7d"

/-- Elements as one value: a single one stands for itself. -/
def all : List Json → Option Json
  | [] => none
  | [e] => some e
  | es => some (.array es)

end DisplayLayout.Element
