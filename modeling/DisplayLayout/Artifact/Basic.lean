import DisplayLayout.Config
import DisplayLayout.Declared
import DisplayLayout.Generation

/-!
# Artifacts

What a run produces, and how the widgets of a project are visited: page by page,
each widget on its own. What a widget becomes depends on the widget and on the
surface of its page, and on nothing else.
-/

namespace DisplayLayout

variable [Qr.Encoder]

/-- Counts of a run. -/
structure Stats where
  pages : Nat
  widgets : Nat
  /-- Widgets of no type, or of a type that the mode does not support. -/
  skipped : Nat
  sensors : Nat
  fonts : Nat
  icons : Nat
deriving DecidableEq, Repr

/-- The result of a run: a text, and the same as a document. -/
structure Artifact where
  mode : Mode
  text : String
  document : Json
  stats : Stats

/-- What becomes of a widget in some form of output. -/
structure Emission (α : Type) where
  content : α
  /-- Whether there is anything to show. -/
  produced : Bool
  /-- The fonts, glyphs and helpers in use. -/
  uses : Drawing
  events : List Event

/-- A form of output: what a widget of a type becomes on a surface. -/
abbrev Form (α : Type) := Behaviour → View → Surface → Emission α

/-- A visit of a widget. -/
inductive Visit (α : Type) where
  /-- Its type does not exist. -/
  | unknown
  /-- Its type does not exist in the mode. -/
  | unsupported
  | emitted (emission : Emission α)

namespace Visit

variable {α : Type}

/-- What is emitted in a visit. -/
def emission? : Visit α → Option (Emission α)
  | emitted e => some e
  | _ => none

/-- Visits a widget. What its type requires is in use before anything is emitted. -/
def ofWidget (form : Form α) (mode : Mode) (s : Surface) (w : Widget) : Visit α :=
  match w.behaviour? with
  | none => unknown
  | some b =>
    if b.modes.contains mode then
      let e := form b (w.view b) s
      emitted { e with uses := b.requirements (w.view b) ++ e.uses }
    else unsupported

/-- What is reported in a visit. -/
def events (mode : Mode) (w : Widget) : Visit α → List Event
  | unknown => [⟨.warn, "unknown widget type skipped", [("widget", .text w.id), ("widget_type", .text w.type)]⟩]
  | unsupported =>
    [⟨.debug, "widget unsupported in mode",
      [("widget", .text w.id), ("widget_type", .text w.type), ("mode", .text mode.name)]⟩]
  | emitted e =>
    e.events ++ [⟨.debug, "widget dispatched",
      [("widget", .text w.id), ("widget_type", .text w.type), ("produced", .flag e.produced)]⟩]

end Visit

/-- A page during a run, with what became of its widgets. -/
structure VisitedPage (α : Type) where
  page : Page
  surface : Surface
  visits : List (Visit α)

namespace VisitedPage

variable {α : Type}

/-- Visits the widgets of a page. -/
def ofPage (form : Form α) (config : Config) (projectDark : Bool) (page : Page) : VisitedPage α :=
  let surface : Surface := ⟨config.device, page.theme.isDark projectDark⟩
  ⟨page, surface, page.widgets.map (Visit.ofWidget form config.mode surface)⟩

/-- What is emitted on a page. -/
def emissions (p : VisitedPage α) : List (Emission α) := p.visits.filterMap Visit.emission?

/-- The content of a page. -/
def contents (p : VisitedPage α) : List α := p.emissions.map Emission.content

/-- What is reported on a page. -/
def events (mode : Mode) (p : VisitedPage α) : List Event :=
  (p.page.widgets.zip p.visits).flatMap fun (w, v) => v.events mode w

end VisitedPage

/-- Visits all pages of a project. -/
def Project.visit {α : Type} (p : Project) (form : Form α) (config : Config) : List (VisitedPage α) :=
  p.pages.map (VisitedPage.ofPage form config p.dark)

/-- The registries after all emissions. -/
def registries {α : Type} (config : Config) (pages : List (VisitedPage α)) : Generation :=
  (pages.flatMap VisitedPage.emissions).foldl (fun g e => g.absorb e.uses)
    { mode := config.mode, device := config.device }

/-- The counts of a run. -/
def Stats.of {α : Type} (pages : List (VisitedPage α)) (sensors : Nat) (g : Generation) : Stats :=
  let visits := pages.flatMap VisitedPage.visits
  let widgets := (visits.filterMap Visit.emission?).length
  { pages := pages.length
    widgets := widgets
    skipped := visits.length - widgets
    sensors := sensors
    fonts := g.fonts.length
    icons := g.icons.count }

/-- The report at the end of a run. -/
def Stats.event (s : Stats) (mode : Mode) : Event :=
  ⟨.info, "generation finished",
    [("mode", .text mode.name), ("pages", .count s.pages), ("widgets", .count s.widgets),
      ("skipped", .count s.skipped), ("sensors", .count s.sensors), ("fonts", .count s.fonts)]⟩

/-- What a page says about itself, as keys and values. -/
def Page.facts (p : Page) : List (String × String) :=
  [("name", p.name), ("dark_mode", p.theme.name)]
  ++ (p.refreshType.map fun v => ("refresh_type", v)).toList
  ++ (p.refreshTime.map fun v => ("refresh_time", v)).toList

/-- A fact about a page, behind the mark of a comment. -/
def Page.factText (fact : String × String) : String := "page:" ++ fact.1 ++ " " ++ Marker.quote fact.2

/-- Sections as a text, with a blank line between them. -/
def Section.renderAll (sections : List Section) : String :=
  Text.join "\n\n" (sections.map fun s => Text.join "\n" s.render) ++ "\n"

/-- Sections as a document. -/
def Section.document (sections : List Section) : Json :=
  .object (Keyed.ofPairs (sections.map fun s => (s.name, .array (s.lines.map .string))))

/-- The section of the fonts. -/
def fontSection (g : Generation) : Section := ⟨"font", g.fontLines⟩

end DisplayLayout
