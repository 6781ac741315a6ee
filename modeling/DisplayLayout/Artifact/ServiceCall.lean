import DisplayLayout.Artifact.Basic
import DisplayLayout.Json.Printer
import DisplayLayout.Yaml

/-!
# Service calls

Payloads of the drawing protocols. Each page is a call of a service, and its
widgets are elements of the payload.
-/

namespace DisplayLayout

/-- The mode that draws through a protocol. -/
def Protocol.service : Protocol → String
  | .a => "open_epaper_link.drawcustom"
  | .b => "opendisplay.drawcustom"

namespace ServiceCall

/-- The elements of a value: a list stands for its items. -/
def elements : Option Json → List Json
  | none => []
  | some (.array items) => items
  | some e => [e]

/-- A widget becomes elements. -/
def form (protocol : Protocol) : Form (List Json) := fun b v s =>
  let es := elements (b.element protocol v s)
  { content := es, produced := !es.isEmpty, uses := {}, events := [] }

/-- The settings of a call besides its background; only the first protocol has a dithering and a
time to live. -/
def settings (protocol : Protocol) (e : Envelope) : List (String × Json) :=
  match protocol with
  | .a => [("rotate", .nat e.rotate), ("dither", .nat e.dither), ("ttl", .nat e.ttl)]
  | .b => [("rotate", .nat e.rotate)]

/-- The call of a page. -/
def call (protocol : Protocol) (e : Envelope) (p : VisitedPage (List Json)) : Json :=
  .object
    [("service", .string protocol.service),
      ("target", .object [("entity_id", .string e.entityId)]),
      ("data", .object <|
        ("background", .string (p.surface.protocol e.background)) :: settings protocol e
          ++ [("payload", .array p.contents.flatten)])]

/-- The lines of a call behind a comment with the name of its page. -/
def namedLines (protocol : Protocol) (e : Envelope) (p : VisitedPage (List Json)) : List String :=
  ("# " ++ Page.factText ("name", p.page.name))
    :: (Yaml.sequenceRows 0 [call protocol e p]).map Yaml.Row.text

/-- The text and the document. Calls of the first protocol are written as JSON, and those of
the second one as YAML. -/
def write (protocol : Protocol) (e : Envelope) (pages : List (VisitedPage (List Json))) :
    String × Json :=
  let calls := Json.array (pages.map (call protocol e))
  match protocol with
  | .a => (calls.pretty ++ "\n", calls)
  | .b => (Text.join "\n" (pages.flatMap (namedLines protocol e)) ++ "\n", calls)

end ServiceCall

end DisplayLayout
