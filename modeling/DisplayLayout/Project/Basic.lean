import DisplayLayout.Json.Basic
import DisplayLayout.Rect
import DisplayLayout.Widget.Kind

/-!
# Projects

A project is a list of pages, and a page a list of placed widgets.
-/

namespace DisplayLayout

/-- The properties of a widget in their order. A property that is null counts as missing. -/
abbrev Props := Keyed Json

namespace Props

/-- The value of a property. -/
def value? (p : Props) (key : String) : Option Json := (Keyed.get? p key).filter (!·.isNull)

/-- Whether a property has a value. -/
def has (p : Props) (key : String) : Bool := (value? p key).isSome

end Props

/-- A placed widget. -/
structure Widget where
  id : String := ""
  type : String
  x : Int := 0
  y : Int := 0
  width : Int := 0
  height : Int := 0
  entityId : Option String := none
  title : Option String := none
  conditionEntity : Option String := none
  conditionOperator : Option String := none
  conditionState : Option String := none
  conditionMin : Option String := none
  conditionMax : Option String := none
  props : Props := []
deriving Repr, Inhabited

namespace Widget

/-- The box that a widget covers. -/
def box (w : Widget) : Rect := ⟨w.x, w.y, w.width, w.height⟩

/-- The entity, without blanks at its ends; none if there is nothing else. -/
def entity? (w : Widget) : Option String := w.entityId.bind Text.nonBlank?

/-- The title, without blanks at its ends; none if there is nothing else. -/
def heading? (w : Widget) : Option String := w.title.bind Text.nonBlank?

/-- Sets a property. -/
def withProp (w : Widget) (key : String) (value : Json) : Widget :=
  { w with props := w.props.put key value }

end Widget

/-- The theme of a page. -/
inductive Theme where
  /-- That of the project. -/
  | inherit
  | dark
  | light
deriving DecidableEq, Repr, Inhabited

namespace Theme

/-- The theme with a name; any other text inherits. -/
def ofName (text : String) : Theme :=
  match Text.lower (Text.trim text) with
  | "dark" => dark
  | "true" => dark
  | "on" => dark
  | "light" => light
  | "false" => light
  | "off" => light
  | _ => inherit

/-- The name of a theme. -/
def name : Theme → String
  | inherit => "inherit"
  | dark => "dark"
  | light => "light"

/-- Whether a page of a theme is dark. -/
def isDark (t : Theme) (projectDark : Bool) : Bool :=
  match t with
  | dark => true
  | light => false
  | inherit => projectDark

end Theme

/-- A page. -/
structure Page where
  id : String := ""
  name : String := ""
  theme : Theme := .inherit
  refreshType : Option String := none
  refreshTime : Option String := none
  widgets : List Widget := []
deriving Repr, Inhabited

/-- A project. -/
structure Project where
  name : Option String := none
  dark : Bool := false
  pages : List Page
deriving Repr, Inhabited

/-- The widgets of all pages in order. -/
def Project.widgets (p : Project) : List Widget := p.pages.flatMap Page.widgets

end DisplayLayout
