import DisplayLayout.Event
import DisplayLayout.Project.Basic

/-!
# Normal form

Every project that is read is brought into normal form: type names are resolved,
pages and widgets without an identifier get one from their position, pages
without a name are numbered, and no widget is smaller than a pixel.
-/

namespace DisplayLayout

namespace Widget

/-- Replaces another name of a type by its tag. What the name implies is filled in where the
widget does not say otherwise. -/
def resolveAlias (w : Widget) : Widget :=
  match Alias.ofName? w.type with
  | none => w
  | some a =>
    { w with
      type := a.kind.tag
      props := a.implied.foldl
        (fun props (key, value) => if Props.has props key then props else props.put key (.string value))
        w.props }

/-- The identifier of a widget that has none. -/
def positionId (page index : Nat) : String := s!"w_{page}_{index}"

/-- Brings a widget at a position into normal form. -/
def normalize (page index : Nat) (w : Widget) : Widget :=
  let w := w.resolveAlias
  { w with
    id := if w.id.isEmpty then positionId page index else w.id
    width := max 1 w.width
    height := max 1 w.height }

end Widget

namespace Page

/-- Brings a page at a position into normal form. -/
def normalize (index : Nat) (p : Page) : Page :=
  { p with
    id := if p.id.isEmpty then s!"page_{index}" else p.id
    name := if p.name.isEmpty then s!"Page {index + 1}" else p.name
    widgets := p.widgets.mapIdx fun i w => w.normalize index i }

end Page

namespace Project

/-- Brings a project into normal form. -/
def normalize (p : Project) : Project := { p with pages := p.pages.mapIdx fun i page => page.normalize i }

/-- The warning about a widget that had no size. -/
def sizeEvent (id : String) (w : Widget) : Event :=
  ⟨.warn, "non-positive widget size clamped to 1",
    [("widget", .text id), ("width", .count w.width), ("height", .count w.height)]⟩

/-- The warning about a repeated identifier. -/
def duplicateEvent (id : String) : Event := ⟨.warn, "duplicate widget id", [("widget", .text id)]⟩

/-- The warnings about widgets, given with the identifiers that they get, after others have
taken theirs. -/
def warnings (seen : List String) : List (String × Widget) → List Event
  | [] => []
  | (id, w) :: rest =>
    (if w.width < 1 ∨ w.height < 1 then [sizeEvent id w] else [])
      ++ (if seen.contains id then [duplicateEvent id] else [])
      ++ warnings (id :: seen) rest

/-- The warnings that go with bringing a project into normal form. -/
def normalizeEvents (p : Project) : List Event :=
  warnings [] (p.normalize.widgets.map Widget.id |>.zip p.widgets)

/-- A project that has been read: in normal form, and with what was reported on the way. -/
structure Loaded where
  project : Project
  events : List Event

/-- Brings a project into normal form and reports what had to be mended. -/
def load (p : Project) : Loaded := ⟨p.normalize, p.normalizeEvents⟩

end Project

end DisplayLayout
