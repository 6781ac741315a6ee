import DisplayLayout.Widget.Symbol

/-!
# Gauges

The charge of a battery and the strength of a signal: a glyph that follows the
reading, above the reading itself.
-/

namespace DisplayLayout.Gauge

/-- What makes a gauge. -/
structure Meter where
  tiers : TierTable
  /-- The variable that holds the reading. -/
  variableName : String
  /-- The format of the reading. -/
  format : String
  /-- The unit in a template, and the reading where there is none. -/
  unit : String
  missing : Int

/-- Where a gauge reads from. -/
structure Source where
  /-- The sensor that is read in the display lambda and in the widget tree. -/
  id : String
  /-- The sensor that has to be declared for it. -/
  sensor : Option Sensor
  /-- The entity that templates read. -/
  entity : String

/-- A source that is an entity. -/
def Source.ofEntity (entity : String) : Source :=
  let s := Sensor.of .numeric entity
  ⟨s.id, some s, s.entityId⟩

/-- A gauge: its meter, its source, and whether it shows the reading. -/
structure Setup where
  meter : Meter
  source : View → Source
  showsValue : View → Bool

/-- The font of the reading. -/
def font (v : View) : Font := Font.of "Roboto" 400 (v.size "font_size" 1) false

/-- The upper edges of the glyph and of the reading within the widget. -/
def stackOffsets (g : Setup) (v : View) : Int × Int :=
  let blocks : List Block :=
    ⟨v.int32 "size", 0⟩ :: if g.showsValue v then [⟨2, 0⟩, ⟨v.int32 "font_size", 0⟩] else []
  match (Stack.center blocks v.widget.height).offsets with
  | [icon, _, value] => (icon, value)
  | icon :: _ => (icon, icon)
  | [] => (0, 0)

def requirements (g : Setup) (v : View) : Drawing :=
  .glyphsAt g.meter.tiers.codes (Symbol.size v) ++ .when (g.showsValue v) (.font (font v))

/-- The statement that reads the source into a variable. -/
def readValue (g : Setup) (v : View) : String :=
  "float " ++ g.meter.variableName ++ " = " ++ Lambda.state (g.source v).id ++ ";"

def direct (g : Setup) (v : View) (s : Surface) : Drawing :=
  let (iconY, valueY) := stackOffsets g v
  let glyph := g.meter.variableName ++ "_glyph"
  let iconStyle := Symbol.style v s (v.widget.y + iconY)
  let valueStyle : Lambda.TextStyle :=
    { iconStyle with y := v.widget.y + valueY, font := (font v).id }
  .when (g.showsValue v) (.font (font v)) ++ .ofLines
    (["\x7b", Lambda.indent (readValue g v), "  const char *" ++ glyph ++ ";"]
      ++ (g.meter.tiers.assignChain g.meter.variableName glyph).map Lambda.indent
      ++ [Lambda.indent (Symbol.glyphCall iconStyle glyph)]
      ++ (if g.showsValue v then
          [Lambda.indent (Lambda.printf valueStyle g.meter.format g.meter.variableName)]
        else [])
      ++ ["\x7d"])

def retained (g : Setup) (v : View) (s : Surface) : Branch :=
  let (iconY, valueY) := stackOffsets g v
  let color := s.retained (v.text "color")
  let icon := Node.childLabel (v.identWith "_icon") iconY
    (Node.lambda (Text.join "\n" (readValue g v :: g.meter.tiers.returnChain g.meter.variableName)))
    (Icon.fontId (Symbol.size v)) color
  let value := Node.childLabel (v.identWith "_value") valueY
    (Node.lambda ("return str_sprintf(\"" ++ g.meter.format ++ "\", " ++ Lambda.state (g.source v).id ++ ");"))
    (font v).id color
  ⟨some (Node.container v (icon :: if g.showsValue v then [value] else [])),
    .when (g.showsValue v) (.font (font v))⟩

def element (g : Setup) (p : Protocol) (v : View) (s : Surface) : Option Json :=
  let (iconY, valueY) := stackOffsets g v
  let x := v.box.centerX
  let color := v.text "color"
  let reading := Element.state (g.source v).entity ++ s!" | float({g.meter.missing})"
  Element.all <|
    Element.icon p s (g.meter.tiers.template reading) (x, v.widget.y + iconY) (Symbol.size v) color
    :: if g.showsValue v then
      [Element.text p s (Element.placeholder (reading ++ " | int") ++ g.meter.unit)
        (x, v.widget.y + valueY) (v.size "font_size" 1) color .topCenter none]
    else []

def sensors (g : Setup) (v : View) : List Sensor :=
  (g.source v).sensor.toList.map fun s =>
    (s.refreshing (v.identWith "_icon")).refreshing (v.identWith "_value")

/-- The type of a gauge. -/
def behaviour (table : PropertyTable) (g : Setup) : Behaviour where
  modes := .all
  size := (60, 60)
  table := table
  requirements := requirements g
  direct := direct g
  retained := retained g
  element := element g
  sensors v _ := sensors g v

end DisplayLayout.Gauge

namespace DisplayLayout.BatteryGauge

/-- The properties of a battery gauge. -/
def table : PropertyTable :=
  [.int "size" 36, .int "font_size" 14, .text "color" "theme_auto", .flag "local" false]

/-- The entity of a gauge that has none, and the sensor of the device's own battery. -/
def defaultEntity : String := "sensor.battery_level"
def localId : String := "battery_level"

/-- A battery gauge reads the device's own sensor if it is told to. -/
def source (v : View) : Gauge.Source :=
  let entity := v.entity?.getD defaultEntity
  if v.flag "local" then ⟨localId, none, entity⟩ else .ofEntity entity

/-- The gauge of a battery. -/
def setup : Gauge.Setup where
  meter := ⟨Tier.battery, "battery_level", "%.0f%%", "%", 0⟩
  source := source
  showsValue _ := true

/-- The type of battery gauges. -/
def behaviour : Behaviour := Gauge.behaviour table setup

end DisplayLayout.BatteryGauge

namespace DisplayLayout.SignalGauge

/-- The properties of a signal gauge. -/
def table : PropertyTable :=
  [.int "size" 24, .int "font_size" 12, .text "color" "theme_auto", .flag "show_dbm" true,
    .flag "local" true]

/-- The entity of a gauge that has none, and the sensor of the device's own signal. -/
def defaultEntity : String := "sensor.wifi_signal"
def localId : String := "wifi_signal_dbm"

/-- A signal gauge reads the device's own sensor unless it has an entity and is told not to. -/
def source (v : View) : Gauge.Source :=
  match v.entity? with
  | some entity => if v.flag "local" then ⟨localId, none, entity⟩ else .ofEntity entity
  | none => ⟨localId, none, defaultEntity⟩

/-- The gauge of a signal. -/
def setup : Gauge.Setup where
  meter := ⟨Tier.wifi, "wifi_dbm", "%.0f dBm", " dBm", -100⟩
  source := source
  showsValue v := v.flag "show_dbm"

/-- The declaration of the device's own sensor, where the device draws by itself. -/
def components (v : View) (around : Surroundings) : List Component :=
  if (source v).sensor.isSome || around.mode.isProtocol then []
  else [⟨"sensor", localId,
    ["  - platform: wifi_signal", "    id: " ++ localId, "    update_interval: 60s"]⟩]

/-- The type of signal gauges. -/
def behaviour : Behaviour := { Gauge.behaviour table setup with components := components }

end DisplayLayout.SignalGauge
