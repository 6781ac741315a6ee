import DisplayLayout.Identifier

/-!
# Sensors

A widget that shows a reading asks for a sensor that is bound to an entity. The
identifier of the sensor follows from the entity, so that widgets bound to the
same entity ask for the same one.
-/

namespace DisplayLayout

/-- What a sensor delivers. -/
inductive SensorKind where
  | numeric
  | text
  | binary
deriving DecidableEq, Repr, Inhabited

namespace SensorKind

/-- All kinds, in the order of their sections. -/
def all : List SensorKind := [numeric, text, binary]

/-- The name of a kind. -/
def name : SensorKind → String
  | numeric => "numeric"
  | text => "text"
  | binary => "binary"

/-- The section that declares sensors of a kind. -/
def sectionName : SensorKind → String
  | numeric => "sensor"
  | text => "text_sensor"
  | binary => "binary_sensor"

/-- The key of what happens on a new reading. -/
def triggerKey : SensorKind → String
  | binary => "on_state"
  | _ => "on_value"

/-- The end of the identifiers of a kind. -/
def suffix : SensorKind → String
  | text => "_txt"
  | _ => ""

end SensorKind

/-- The domains of entities that are on or off. -/
def binaryDomains : List String :=
  ["binary_sensor.", "switch.", "light.", "input_boolean.", "fan.", "cover.", "vacuum.", "lock."]

/-- The domains of entities whose state is a word. -/
def textDomains : List String :=
  ["text_sensor.", "weather.", "calendar.", "input_text.", "input_select.", "select."]

/-- Whether an entity is on or off. -/
def isBinaryEntity (entity : String) : Bool := binaryDomains.any fun d => Text.hasLead d entity

/-- The kind that the domain of an entity implies; none where readings are numbers. -/
def domainKind? (entity : String) : Option SensorKind :=
  if isBinaryEntity entity then some .binary
  else if textDomains.any fun d => Text.hasLead d entity then some .text
  else none

/-- A sensor that is asked for. -/
structure Sensor where
  kind : SensorKind
  entityId : String
  attributeName : Option String := none
  id : String
  /-- What has to be refreshed on a new reading, in the retained mode. -/
  refresh : List String := []
deriving DecidableEq, Repr, Inhabited

namespace Sensor

/-- The full name of an entity: a bare name of a numeric one belongs to the domain of sensors. -/
def qualify (kind : SensorKind) (entity : String) : String :=
  let entity := Text.trim entity
  if kind = .numeric ∧ !entity.toList.contains '.' then "sensor." ++ entity else entity

/-- The sensor of a kind for the state of an entity. -/
def of (kind : SensorKind) (entity : String) : Sensor :=
  let entity := qualify kind entity
  { kind, entityId := entity, id := Identifier.ofEntity entity kind.suffix }

/-- The same sensor for an attribute of the entity. -/
def withAttribute (s : Sensor) (name : String) : Sensor :=
  { s with
    id := Identifier.ofEntity (s.entityId ++ "_" ++ name) s.kind.suffix
    attributeName := some name }

/-- Adds something to refresh. -/
def withRefresh (s : Sensor) (directive : String) : Sensor :=
  { s with refresh := s.refresh ++ [directive] }

/-- The directive that refreshes a widget. -/
def refreshDirective (id : String) : String := "- lvgl.widget.refresh: " ++ id

/-- Adds a widget to refresh. -/
def refreshing (s : Sensor) (id : String) : Sensor := s.withRefresh (refreshDirective id)

end Sensor

end DisplayLayout
