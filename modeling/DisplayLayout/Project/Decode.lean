import DisplayLayout.Failure
import DisplayLayout.Json.Reader
import DisplayLayout.Project.Normal
import DisplayLayout.Text.Printable

/-!
# Reading projects

A document is read as a project field by field, in the order in which the
fields stand in it; the first problem counts. Fields without a meaning are
ignored. Pages and widgets may also be given as lists of their fields.
-/

namespace DisplayLayout.Project

/-- Reading goes on until a problem is met. -/
abbrev Read := Except DocumentProblem

/-- What a value is, for a message. -/
def found : Json → Found
  | .null => .null
  | .bool b => .bool b
  | .number (.int n) => .integer (toString n)
  | .number (.float x) =>
    let t := Numeric.plainText x
    .float (if t.toList.contains '.' then t else t ++ ".0")
  | .string s => .string (Text.inMessage s)
  | .array _ => .sequence
  | .object _ => .map

/-- A text. -/
def readText : Json → Read String
  | .string s => .ok s
  | j => .error (.wrongType (found j) .string)

/-- A text or null. -/
def readTextOrNull : Json → Read (Option String)
  | .null => .ok none
  | j => (readText j).map some

/-- A truth value. -/
def readBool : Json → Read Bool
  | .bool b => .ok b
  | j => .error (.wrongType (found j) .boolean)

/-- A coordinate; what is no number is zero. -/
def pixel (j : Json) : Int := ((Json.integer? j).map Numeric.clampInt32).getD 0

/-- A scalar as text; anything else is left out. -/
def optionalText (j : Json) : Option String := j.scalarText?

/-- A theme by its name or as a truth value; anything else inherits. -/
def theme : Json → Theme
  | .string s => Theme.ofName s
  | .bool true => .dark
  | .bool false => .light
  | _ => .inherit

/-- Properties. -/
def readProps : Json → Read Props
  | .object entries => .ok entries
  | j => .error (.wrongType (found j) .map)

/-- The names of the fields of a widget, in the order in which a list gives them. -/
def widgetKeys : List String :=
  ["id", "type", "x", "y", "width", "height", "entity_id", "title", "condition_entity",
    "condition_operator", "condition_state", "condition_min", "condition_max", "props"]

/-- Sets a field of a widget. -/
def setWidgetField (w : Widget) (key : String) (j : Json) : Read Widget :=
  match key with
  | "id" => (readText j).map fun id => { w with id }
  | "type" => (readText j).map fun type => { w with type }
  | "x" => .ok { w with x := pixel j }
  | "y" => .ok { w with y := pixel j }
  | "width" => .ok { w with width := pixel j }
  | "height" => .ok { w with height := pixel j }
  | "entity_id" => .ok { w with entityId := optionalText j }
  | "title" => .ok { w with title := optionalText j }
  | "condition_entity" => .ok { w with conditionEntity := optionalText j }
  | "condition_operator" => .ok { w with conditionOperator := optionalText j }
  | "condition_state" => .ok { w with conditionState := optionalText j }
  | "condition_min" => .ok { w with conditionMin := optionalText j }
  | "condition_max" => .ok { w with conditionMax := optionalText j }
  | "props" => (readProps j).map fun props => { w with props }
  | _ => .ok w

/-- Sets fields one after the other. -/
def setFields {α : Type} (set : α → String → Json → Read α) (a : α) (fields : List (String × Json)) :
    Read α :=
  fields.foldlM (fun a p => set a p.1 p.2) a

/-- A widget. It has to have a type. -/
def readWidget : Json → Read Widget
  | .object fields => do
    let w ← setFields setWidgetField { type := "" } fields
    if Keyed.contains fields "type" then return w else throw (.missingField "type")
  | .array items => do
    let w ← setFields setWidgetField { type := "" } (widgetKeys.zip items)
    if items.length < 2 then throw .noType
    if widgetKeys.length < items.length then throw (.tooLong items.length)
    return w
  | j => throw (.wrongType (found j) .widget)

/-- A list. -/
def readItems : Json → Read (List Json)
  | .array items => .ok items
  | j => .error (.wrongType (found j) .sequence)

/-- The names of the fields of a page, in the order in which a list gives them. -/
def pageKeys : List String := ["id", "name", "dark_mode", "refresh_type", "refresh_time", "widgets"]

/-- Sets a field of a page. -/
def setPageField (p : Page) (key : String) (j : Json) : Read Page :=
  match key with
  | "id" => (readText j).map fun id => { p with id }
  | "name" => (readText j).map fun name => { p with name }
  | "dark_mode" => .ok { p with theme := theme j }
  | "refresh_type" => .ok { p with refreshType := optionalText j }
  | "refresh_time" => .ok { p with refreshTime := optionalText j }
  | "widgets" => do
    let widgets ← (← readItems j).mapM readWidget
    return { p with widgets }
  | _ => .ok p

/-- A page. -/
def readPage : Json → Read Page
  | .object fields => setFields setPageField {} fields
  | .array items => do
    let p ← setFields setPageField {} (pageKeys.zip items)
    if pageKeys.length < items.length then throw (.tooLong items.length)
    return p
  | j => throw (.wrongType (found j) .page)

/-- A project while it is read; the theme may be given only once, under either of its names. -/
structure Draft where
  project : Project := { pages := [] }
  hasTheme : Bool := false

/-- Sets a field of a project. -/
def setField (d : Draft) (key : String) (j : Json) : Read Draft :=
  match key with
  | "name" => (readTextOrNull j).map fun name => { d with project := { d.project with name } }
  | "dark_mode" => setTheme
  | "darkMode" => setTheme
  | "pages" => do
    let pages ← (← readItems j).mapM readPage
    return { d with project := { d.project with pages } }
  | _ => .ok d
where
  setTheme : Read Draft :=
    if d.hasTheme then throw (.duplicateField "dark_mode")
    else (readBool j).map fun dark => ⟨{ d.project with dark }, true⟩

/-- The list of pages of a document. -/
def pageItems? (document : Json) : Option (List Json) := (document.get? "pages").bind Json.items?

/-- The project of a document as it is written. -/
def decode (document : Json) : Except Failure Project :=
  match pageItems? document, document with
  | some _, .object fields =>
    match setFields setField {} fields with
    | .ok d => .ok d.project
    | .error e => .error (.project e)
  | _, _ => .error .missingPages

/-- The project of a document, in normal form. -/
def ofJson (document : Json) : Except Failure Loaded := (decode document).map load

/-- The document of a text. -/
def readDocument (text : String) : Except Failure Json :=
  match Json.read? text with
  | some j => .ok j
  | none => .error (.project .malformed)

/-- The project of a text, in normal form. -/
def ofText (text : String) : Except Failure Loaded := readDocument text >>= ofJson

end DisplayLayout.Project
