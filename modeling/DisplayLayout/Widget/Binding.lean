import DisplayLayout.Lambda.Statement
import DisplayLayout.Widget.Node

/-!
# Bindings

A node of the widget tree that is bound to an entity shows the reading of its
sensor, and is refreshed when a new reading comes. Without an entity it shows
what its properties say.
-/

namespace DisplayLayout.Binding

/-- The sensor for numbers; none if the domain of the entity has other readings. -/
def numeric? (v : View) : Option Sensor :=
  (v.entity?.filter fun e => (domainKind? e).isNone).map (Sensor.of .numeric)

/-- The sensor for on and off. -/
def binary? (v : View) : Option Sensor := v.entity?.map (Sensor.of .binary)

/-- The sensor for words. -/
def text? (v : View) : Option Sensor := v.entity?.map (Sensor.of .text)

/-- The sensor of the kind that the domain of the entity implies. -/
def any? (v : View) : Option Sensor :=
  v.entity?.map fun e => Sensor.of ((domainKind? e).getD .numeric) e

/-- Asks for a sensor whose readings refresh the widget. -/
def refreshed (sensor? : View → Option Sensor) (v : View) : List Sensor :=
  ((sensor? v).map (·.refreshing v.ident)).toList

/-- The reading of a sensor, or a fixed value without one. -/
def stateOr (sensor : Option Sensor) (fixed : Json) : Json :=
  match sensor with
  | some s => Node.lambda ("return " ++ Lambda.state s.id ++ ";")
  | none => fixed

/-- The reading of a sensor without its fraction, or a fixed value without one. -/
def countOr (sensor : Option Sensor) (fixed : Json) : Json :=
  match sensor with
  | some s => Node.lambda ("return (int)" ++ Lambda.state s.id ++ ";")
  | none => fixed

/-- The domain of an entity, before its first point; empty without a point. -/
def domain (entity : String) : String :=
  match Text.splitFirst? '.' entity.toList with
  | some (d, _) => String.ofList d
  | none => ""

/-- The call of a service with data for an entity. -/
def service (name entity : String) (data : Node.Entries) : Json :=
  .array [.object [("homeassistant.service",
    .object [("service", .string name),
      ("data", .object (("entity_id", .string entity) :: data))])]]

/-- An action that calls a service for the entity of a widget, if it has one. -/
def action (v : View) (trigger : String) (call : String → Json) : Node.Entries :=
  (v.entity?.map fun e => (trigger, call e)).toList

end DisplayLayout.Binding
