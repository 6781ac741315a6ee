import DisplayLayout.Artifact.Basic

/-!
# The display lambda

A configuration whose display draws by code. Each page is a branch, each widget
a block in it: a comment with its marker, and then its statements, behind the
check of its condition if it has one.
-/

namespace DisplayLayout.DisplayLambda

/-- The line between two widgets. -/
def rule : String := "// ────────────────"

/-- The statements of a widget behind its condition. -/
def guarded (w : Widget) (body : List String) : List String :=
  match Condition.ofWidget? w with
  | some c => ("if (" ++ c.check ++ ") \x7b") :: body.map Lambda.indent ++ ["\x7d"]
  | none => body

/-- The block of a widget. -/
def block (v : View) (body : List String) : List String :=
  ("// " ++ v.marker.render) :: guarded v.widget body

/-- The report about a widget without statements. -/
def emptyEvent (w : Widget) : Event := ⟨.debug, "widget drew nothing", [("widget", .text w.id)]⟩

/-- A widget becomes a block. -/
def form : Form (List String) := fun b v s =>
  let drawing := b.direct v s
  { content := block v drawing.lines
    produced := !drawing.lines.isEmpty
    uses := { drawing with lines := [] }
    events := drawing.events ++ if drawing.lines.isEmpty then [emptyEvent v.widget] else [] }

/-- The branch of a page. -/
def pageLines (index : Nat) (p : VisitedPage (List String)) : List String :=
  let head := p.page.facts.map (fun fact => "// " ++ Page.factText fact)
    ++ ["it.fill(" ++ p.surface.background ++ ");"]
  let blocks := (p.contents.intersperse [rule]).flatten
  ("if (currentPage == " ++ toString index ++ ") \x7b")
    :: (head ++ blocks).map Lambda.indent ++ ["\x7d"]

/-- The whole lambda. -/
def lines (g : Generation) (pages : List (VisitedPage (List String))) : List String :=
  Color.constantLines ++ g.prelude ++ ["int currentPage = id(display_page);"]
    ++ (pages.mapIdx pageLines).flatten

/-- The section of the display. -/
def displaySection (device : Device) (lambda : List String) : Section :=
  ⟨"display",
    ["  - id: " ++ device.displayId, "    lambda: |-"] ++ lambda.map ("      " ++ ·)⟩

/-- The text and the document. -/
def write (d : Declared) (g : Generation) (pages : List (VisitedPage (List String))) : String × Json :=
  let lambda := lines g pages
  let sections := d.sections ++ [fontSection g]
  (Section.renderAll (sections ++ [displaySection g.device lambda]),
    .object [("sections", Section.document sections), ("lambda", .array (lambda.map .string))])

end DisplayLayout.DisplayLambda
