import DisplayLayout.Artifact.Basic
import DisplayLayout.Widget.Node

/-!
# The page tree

A configuration whose display shows a tree of retained widgets. Each page is a
root, and each widget a node below it, behind a comment with its marker.
-/

namespace DisplayLayout.PageTree

/-- A node and the marker of its widget. -/
structure MarkedNode where
  marker : Marker
  node : Json

/-- An empty box in the place of a widget that has nothing to show. -/
def placeholder (v : View) : Json :=
  Node.of "obj" (Node.geometry v ++ [("bg_opa", .string "TRANSP"), ("border_width", .int 0)])

/-- A widget becomes a node. -/
def form : Form MarkedNode := fun b v s =>
  let branch := b.retained v s
  { content := ⟨v.marker, branch.node.getD (placeholder v)⟩
    produced := branch.node.isSome
    uses := { branch.uses with lines := [] }
    events := branch.uses.events }

/-- The identifier of a page in the tree. -/
def pageId (index : Nat) : String := s!"page_{index}"

/-- The color of a page. -/
def background (p : VisitedPage MarkedNode) : String := p.surface.retained p.surface.backgroundToken

/-- The lines of a node. -/
def nodeLines (n : MarkedNode) : List String :=
  ("        # " ++ n.marker.render) :: (Yaml.sequenceRows 8 [n.node]).map Yaml.Row.text

/-- The lines of a page. -/
def pageLines (index : Nat) (p : VisitedPage MarkedNode) : List String :=
  ("    - id: " ++ pageId index)
    :: p.page.facts.map (fun fact => "      # " ++ Page.factText fact)
    ++ (Yaml.entryRows 6 "bg_color" (.string (background p))).map Yaml.Row.text
    ++ if p.contents.isEmpty then ["      widgets: []"]
      else "      widgets:" :: p.contents.flatMap nodeLines

/-- The document of a page. -/
def pageDocument (index : Nat) (p : VisitedPage MarkedNode) : Json :=
  .object
    [("id", .string (pageId index)), ("bg_color", .string (background p)),
      ("widgets", .array (p.contents.map MarkedNode.node))]

/-- The section of the tree. -/
def treeSection (device : Device) (pages : List (VisitedPage MarkedNode)) : Section :=
  ⟨"lvgl",
    ["  displays:", "    - " ++ device.displayId, "  pages:"] ++ (pages.mapIdx pageLines).flatten⟩

/-- The text and the document. -/
def write (d : Declared) (g : Generation) (pages : List (VisitedPage MarkedNode)) : String × Json :=
  let sections := d.sections ++ [fontSection g]
  (Section.renderAll (sections ++ [treeSection g.device pages]),
    .object
      [("sections", Section.document sections),
        ("lvgl", .object [("pages", .array (pages.mapIdx pageDocument))])])

end DisplayLayout.PageTree
