import DisplayLayout.Lambda.Literal
import DisplayLayout.Marker.Record
import DisplayLayout.Numeric.FloatReader
import DisplayLayout.Numeric.Shortest
import DisplayLayout.Project.Basic
import DisplayLayout.Sensor

/-!
# Visibility conditions

A widget can be shown only while an entity is in a certain state. The condition
is checked in the display lambda and travels in the marker.
-/

namespace DisplayLayout

/-- A comparison. -/
inductive Operator where
  | eq
  | ne
  | gt
  | lt
  | ge
  | le
  /-- Between a least and a largest value. -/
  | range
deriving DecidableEq, Repr, Inhabited

namespace Operator

/-- The comparison with a name; any other text compares for equality. -/
def ofName (text : String) : Operator :=
  match Text.trim text with
  | "!=" => ne
  | ">" => gt
  | "<" => lt
  | ">=" => ge
  | "<=" => le
  | "range" => range
  | _ => eq

/-- The name of a comparison. -/
def name : Operator → String
  | eq => "=="
  | ne => "!="
  | gt => ">"
  | lt => "<"
  | ge => ">="
  | le => "<="
  | range => "range"

end Operator

/-- A visibility condition. -/
structure Condition where
  entityId : String
  operator : Operator
  state : Option String
  min : Option String
  max : Option String
deriving DecidableEq, Repr, Inhabited

namespace Condition

/-- Words for states that count as on, and for those that count as off. -/
def positiveStates : List String :=
  ["on", "true", "1", "open", "locked", "home", "occupied", "active", "detected"]

def negativeStates : List String :=
  ["off", "false", "0", "closed", "unlocked", "not_home", "away", "clear", "inactive"]

/-- Whether a word counts as on, and whether it counts as off. -/
def isPositive (state : String) : Bool := positiveStates.contains (Text.lower state)

def isNegative (state : String) : Bool := negativeStates.contains (Text.lower state)

/-- The condition of a widget; none without an entity. -/
def ofWidget? (w : Widget) : Option Condition :=
  (w.conditionEntity.bind Text.nonBlank?).map fun entity =>
    { entityId := entity
      operator := (w.conditionOperator.map Operator.ofName).getD .eq
      state := w.conditionState
      min := w.conditionMin
      max := w.conditionMax }

/-- The state that is compared with. -/
def stateText (c : Condition) : String := (c.state.map Text.trim).getD ""

/-- Whether states are compared as words: the state to compare with is neither a number nor a
word for on or off. -/
def comparesText (c : Condition) : Bool :=
  c.operator != .range &&
    (Text.hasLead "text_sensor." c.entityId
      || ((Numeric.readFloat? (Text.lower c.stateText)).isNone
        && !(isPositive c.stateText || isNegative c.stateText)))

/-- The kind of sensor that is checked. -/
def sensorKind (c : Condition) : SensorKind :=
  if isBinaryEntity c.entityId then .binary else if c.comparesText then .text else .numeric

/-- The sensor that is checked. -/
def sensor (c : Condition) : Sensor := Sensor.of c.sensorKind c.entityId

/-- A number in code. Words for on and off are one and zero, and what is no number is zero. -/
def literal (text : String) : String :=
  let text := Text.trim text
  if isPositive text then "1"
  else if isNegative text then "0"
  else match Numeric.readFloat? text with
    | some x => if x.isFinite then Numeric.plainText x else "0"
    | none => "0"

/-- The expression that checks a condition. -/
def check (c : Condition) : String :=
  let s := c.sensor
  let state := "id(" ++ s.id ++ ").state"
  match s.kind with
  | .binary =>
    let on := isPositive c.stateText
    match c.operator with
    | .eq => if on then state else "!" ++ state
    | .range => if on then state else "!" ++ state
    | .ne => if on then "!" ++ state else state
    | op => "(int) " ++ state ++ " " ++ op.name ++ " " ++ if on then "1" else "0"
  | .text =>
    state ++ (if c.operator = .ne then " != " else " == ") ++ "\"" ++ Lambda.escape c.stateText ++ "\""
  | .numeric =>
    match c.operator with
    | .range =>
      state ++ " >= " ++ literal (c.min.getD "0") ++ " && " ++ state ++ " <= "
        ++ literal (c.max.getD "100")
    | op => state ++ " " ++ op.name ++ " " ++ literal c.stateText

/-- Sets a field if there is a value. -/
def pushSome (m : Marker) (key : String) : Option String → Marker
  | some value => m.push key value
  | none => m

/-- Writes a condition to a marker: bounds for a range, a state otherwise. -/
def writeMarker (c : Condition) (m : Marker) : Marker :=
  let m := (m.push "cond_ent" c.entityId).push "cond_op" c.operator.name
  if c.operator = .range then pushSome (pushSome m "cond_min" c.min) "cond_max" c.max
  else pushSome m "cond_state" c.state

/-- Reads the condition of a marker onto a widget. -/
def readMarker (m : Marker) (w : Widget) : Widget :=
  match m.get? "cond_ent" with
  | none => { w with conditionEntity := none }
  | some entity =>
    { w with
      conditionEntity := some entity
      conditionOperator := m.get? "cond_op"
      conditionState := m.get? "cond_state"
      conditionMin := m.get? "cond_min"
      conditionMax := m.get? "cond_max" }

end Condition

end DisplayLayout
