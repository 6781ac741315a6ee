import DisplayLayout.Catalogue
import DisplayLayout.Request

/-!
# Declarations of a project

All widgets of a project are asked once, page by page, for the sensors,
components and global variables that they need. What is granted is rendered as
sections, one declaration for each identifier.
-/

namespace DisplayLayout

variable [Qr.Encoder]

namespace Widget

/-- The behaviour of a widget, if its type exists and a mode supports it. -/
def behaviourIn? (w : Widget) (mode : Mode) : Option Behaviour :=
  w.behaviour?.filter fun b => b.modes.contains mode

/-- The sensors that a widget reads. The display lambda also reads that of its condition. -/
def readSensors (w : Widget) (b : Behaviour) (around : Surroundings) : List Sensor :=
  b.sensors (w.view b) around ++
    if around.mode = .direct then ((Condition.ofWidget? w).map Condition.sensor).toList else []

end Widget

/-- Whether a sensor asks for numbers of an entity whose domain has other readings. -/
def Sensor.isMismatched (s : Sensor) : Bool := s.kind == .numeric && (domainKind? s.entityId).isSome

namespace Widget

/-- The report about a sensor that cannot be declared. -/
def mismatchEvent (w : Widget) (s : Sensor) : Event :=
  ⟨.debug, "numeric request for non-numeric domain dropped",
    [("widget", .text w.id), ("entity", .text s.entityId)]⟩

/-- What a widget asks for. -/
def requests (around : Surroundings) (w : Widget) : List Request :=
  match w.behaviourIn? around.mode with
  | none => []
  | some b =>
    ((w.readSensors b around).filter (!·.isMismatched)).map .sensor
      ++ (b.components (w.view b) around).map .component
      ++ (b.globals (w.view b) around).map .globalVariable

/-- What asking a widget reports. -/
def requestEvents (around : Surroundings) (w : Widget) : List Event :=
  match w.behaviourIn? around.mode with
  | none => []
  | some b =>
    ((w.readSensors b around).filter Sensor.isMismatched).map w.mismatchEvent
      ++ b.componentEvents (w.view b) around

end Widget

/-- The declarations of a project. -/
structure Declared where
  sensors : List Sensor
  components : List Component
  globals : List Global
  ledger : Ledger
  triggers : Triggers
deriving Repr

/-- The global variables that every configuration has: the page that is shown, and how long
until it is shown again. -/
def fixedGlobals : List Global :=
  [{ id := "display_page", restore := true, initial := "0" },
    { id := "page_refresh_default_s", restore := false, initial := "60" }]

namespace Project

/-- The widgets of a project, each with what it can know about the project. -/
def situated (p : Project) (mode : Mode) (device : Device) : List (Surroundings × Widget) :=
  (p.pages.mapIdx fun i page =>
    page.widgets.map fun w => (⟨mode, p.pages.length, i, device⟩, w)).flatten

/-- All that the widgets of a project ask for, in order. -/
def requests (p : Project) (mode : Mode) (device : Device) : List Request :=
  (p.situated mode device).flatMap fun (around, w) => w.requests around

/-- What asking the widgets of a project reports. -/
def requestEvents (p : Project) (mode : Mode) (device : Device) : List Event :=
  (p.situated mode device).flatMap fun (around, w) => w.requestEvents around

/-- The directives of sensors, whether their requests are granted or not. -/
def triggersOf (sensors : List Sensor) : Triggers :=
  sensors.foldl (fun t s => s.refresh.foldl (fun t d => t.register s.entityId d) t) []

/-- The declarations of a project. Directives count in the retained mode only. -/
def declare (p : Project) (mode : Mode) (device : Device) : Declared :=
  let requests := p.requests mode device
  let taken := Request.claimAll Ledger.initial (fixedGlobals.map .globalVariable)
  let granted := Request.granted taken requests
  { sensors := granted.filterMap Request.sensor?
    components := granted.filterMap Request.component?
    globals := fixedGlobals ++ granted.filterMap Request.global?
    ledger := Request.claimAll taken requests
    triggers := if mode = .retained then triggersOf (requests.filterMap Request.sensor?) else [] }

end Project

namespace Declared

/-- The sensors of a kind. -/
def sensorsOf (d : Declared) (kind : SensorKind) : List Sensor := d.sensors.filter (·.kind = kind)

/-- All sensors in the order of their blocks. -/
def sensorOrder (d : Declared) : List Sensor := SensorKind.all.flatMap d.sensorsOf

/-- Whether the block of a sensor is the first one of its entity. -/
def isFirstOfEntity (d : Declared) (s : Sensor) : Bool :=
  (d.sensorOrder.find? fun t => t.entityId == s.entityId).any fun t => t.id == s.id

/-- What happens on a new reading of an entity. -/
def triggerLines (kind : SensorKind) (directives : List String) : List String :=
  ("    " ++ kind.triggerKey ++ ":") :: "      then:" ::
    (directives.flatMap Text.lines).map ("        " ++ ·)

/-- The block of a sensor. The directives of an entity stand in its first block. -/
def sensorLines (d : Declared) (s : Sensor) : List String :=
  ["  - platform: homeassistant", "    id: " ++ s.id, "    entity_id: " ++ s.entityId]
  ++ (s.attributeName.map ("    attribute: " ++ ·)).toList
  ++ ["    internal: true"]
  ++ match Keyed.get? d.triggers s.entityId with
    | some directives => if d.isFirstOfEntity s then triggerLines s.kind directives else []
    | none => []

/-- The lines of the components of a section. -/
def componentLines (d : Declared) (name : String) : List String :=
  (d.components.filter (·.sectionName = name)).flatMap Component.lines

/-- The section of the time source. -/
def timeSection : Section :=
  ⟨"time", ["  - platform: homeassistant", "    id: " ++ Ledger.timeSource]⟩

/-- The section of the sensors of a kind, unless it is empty. -/
def sensorSection (d : Declared) (kind : SensorKind) : Option Section :=
  let lines := (d.sensorsOf kind).flatMap d.sensorLines ++ d.componentLines kind.sectionName
  if lines.isEmpty then none else some ⟨kind.sectionName, lines⟩

/-- The sections of components that have a fixed place. -/
def placedSections : List String := ["http_request", "image", "online_image", "graph", "qr_code"]

/-- The names of the sections of components besides sensors: those with a fixed place, and
then the others in alphabetical order. -/
def componentSections (d : Declared) : List String :=
  let names := d.components.map Component.sectionName
  let sensorNames := SensorKind.all.map SensorKind.sectionName
  let others := (names.filter fun n => !placedSections.contains n && !sensorNames.contains n).eraseDups
  placedSections.filter names.contains ++ others.mergeSort (fun a b => decide (a ≤ b))

/-- The sections of a configuration, but for the fonts and the display. -/
def sections (d : Declared) : List Section :=
  ⟨"globals", d.globals.flatMap Global.lines⟩ :: timeSection ::
    SensorKind.all.filterMap d.sensorSection
    ++ d.componentSections.map fun name => ⟨name, d.componentLines name⟩

end Declared

end DisplayLayout
