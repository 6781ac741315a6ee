import DisplayLayout.Lambda.Statement
import DisplayLayout.Stack
import DisplayLayout.Tier
import DisplayLayout.Widget.Element
import DisplayLayout.Widget.Node

/-!
# Symbols

Glyphs of the icon font: one that is fixed, and one that follows the weather.
-/

namespace DisplayLayout.Symbol

/-- The properties of a fixed symbol. -/
def table : PropertyTable := [.text "code" "F0595", .int "size" 48, .text "color" "theme_auto"]

/-- The codepoint that stands for one that is not valid. -/
def defaultCode : String := "F0595"

/-- The names of common icons that no tier has. -/
def named : List (String × String) :=
  [("F02DC", "home"), ("F02FC", "information"), ("F0335", "lightbulb"), ("F050F", "thermometer"),
    ("F058E", "water-percent")]

/-- The name of an icon that has no other name. -/
def unnamed : String := "information"

/-- The name of a codepoint in the drawing protocols. -/
def nameOf (code : String) : String :=
  match Icon.normalize? code with
  | none => unnamed
  | some code =>
    ((Keyed.get? named code).orElse fun _ =>
      (Tier.weather.nameOf? code).orElse fun _ =>
        (Tier.battery.nameOf? code).orElse fun _ => Tier.wifi.nameOf? code).getD unnamed

/-- The codepoint of a symbol. -/
def code (v : View) : String := (Icon.normalize? (v.text "code")).getD defaultCode

/-- The size of a symbol. -/
def size (v : View) : Nat := v.size "size" 1

/-- A size as a number of pixels. -/
def pixels (size : Nat) : Int := min (size : Int) Numeric.maxInt32

/-- The upper edge of a glyph that is centered from top to bottom. -/
def top (v : View) (size : Nat) : Int :=
  v.widget.y + (Stack.center [⟨pixels size, 0⟩] v.widget.height).topPadding

/-- How a glyph of the icon font is drawn. -/
def style (v : View) (s : Surface) (y : Int) : Lambda.TextStyle :=
  ⟨v.box.centerX, y, Icon.fontId (size v), s.direct (v.text "color"), .topCenter⟩

/-- Draws an expression for a glyph. -/
def glyphCall (style : Lambda.TextStyle) (glyph : String) : String :=
  "it.print(" ++ style.arguments ++ ", " ++ glyph ++ ");"

/-- A label with a glyph in the widget tree. -/
def label (v : View) (s : Surface) (text : Json) : Branch :=
  Node.branch "label"
    (Node.geometry v ++
      [("text", text), ("text_font", .string (Icon.fontId (size v))),
        ("text_color", .string (s.retained (v.text "color"))), ("text_align", .string "CENTER")])

/-- An icon with a name or with a template for one. -/
def icon (p : Protocol) (v : View) (s : Surface) (name : String) : Json :=
  Element.icon p s name (v.box.centerX, top v (size v)) (size v) (v.text "color")

/-- The type of fixed symbols. -/
def behaviour : Behaviour where
  modes := .all
  size := (60, 60)
  table := table
  requirements v := .glyph (code v) (size v)
  direct v s := .line (glyphCall (style v s (top v (size v))) ("\"" ++ Icon.escape (code v) ++ "\""))
  retained v s := label v s (.string (Icon.glyph (code v)))
  element p v s := some (icon p v s (nameOf (code v)))

end DisplayLayout.Symbol

namespace DisplayLayout.WeatherSymbol

/-- The properties of a weather symbol. -/
def table : PropertyTable := [.int "size" 48, .text "color" "theme_auto"]

/-- The entity of a weather symbol that has none. -/
def defaultEntity : String := "weather.forecast_home"

/-- The sensor of the weather. -/
def sensor (v : View) : Sensor := Sensor.of .text (v.entity?.getD defaultEntity)

/-- The statement that reads the weather into a variable. -/
def readState (v : View) : String :=
  "std::string weather_state = " ++ Lambda.state (sensor v).id ++ ";"

def direct (v : View) (s : Surface) : Drawing :=
  .ofLines <|
    ["\x7b", Lambda.indent (readState v), "  const char *weather_glyph;"]
    ++ (Tier.weather.assignChain "weather_state" "weather_glyph").map Lambda.indent
    ++ [Lambda.indent (Symbol.glyphCall (Symbol.style v s (Symbol.top v (Symbol.size v))) "weather_glyph"),
      "\x7d"]

/-- The type of weather symbols. -/
def behaviour : Behaviour where
  modes := .all
  size := (60, 60)
  table := table
  requirements v := .glyphsAt Tier.weather.codes (Symbol.size v)
  direct := direct
  retained v s := Symbol.label v s
    (Node.lambda (Text.join "\n" (readState v :: Tier.weather.returnChain "weather_state")))
  element p v s := some (Symbol.icon p v s (Tier.weather.template (Element.state (sensor v).entityId)))
  sensors v _ := [(sensor v).refreshing v.ident]

end DisplayLayout.WeatherSymbol
