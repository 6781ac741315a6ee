import DisplayLayout.Json.Printer
import DisplayLayout.Project.Basic

/-!
# Projects as documents

The document of a project, with the fields that are set.
-/

namespace DisplayLayout

/-- A field that is written only if it is set. -/
def optionalField (key : String) : Option String → List (String × Json)
  | some s => [(key, .string s)]
  | none => []

namespace Widget

/-- The document of a widget. -/
def toJson (w : Widget) : Json :=
  .object <|
    [("id", .string w.id), ("type", .string w.type), ("x", .int w.x), ("y", .int w.y),
      ("width", .int w.width), ("height", .int w.height)]
    ++ optionalField "entity_id" w.entityId
    ++ optionalField "title" w.title
    ++ optionalField "condition_entity" w.conditionEntity
    ++ optionalField "condition_operator" w.conditionOperator
    ++ optionalField "condition_state" w.conditionState
    ++ optionalField "condition_min" w.conditionMin
    ++ optionalField "condition_max" w.conditionMax
    ++ [("props", .object w.props)]

end Widget

namespace Page

/-- The document of a page. -/
def toJson (p : Page) : Json :=
  .object <|
    [("id", .string p.id), ("name", .string p.name), ("dark_mode", .string p.theme.name)]
    ++ optionalField "refresh_type" p.refreshType
    ++ optionalField "refresh_time" p.refreshTime
    ++ [("widgets", .array (p.widgets.map Widget.toJson))]

end Page

namespace Project

/-- The document of a project. -/
def toJson (p : Project) : Json :=
  .object <|
    optionalField "name" p.name
    ++ [("dark_mode", .bool p.dark), ("pages", .array (p.pages.map Page.toJson))]

/-- The text of a project. -/
def render (p : Project) : String := p.toJson.pretty

end Project

end DisplayLayout
