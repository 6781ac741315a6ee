import DisplayLayout.Catalogue
import DisplayLayout.Line
import DisplayLayout.Project.Decode

/-!
# Recovery

A project is recovered from a generated text line by line. Markers carry whole
widgets, and page headers and page facts make the pages. A draw call outside
any widget becomes a shape; inside a widget it belongs to that widget.
-/

namespace DisplayLayout

variable [Qr.Encoder]

/-! ## Shapes for draw calls -/

namespace DrawCall

/-- The first part of the identifiers of the shapes for a kind of draw calls. -/
def idLead : DrawCall → String
  | rectangle _ _ _ _ false => "w_rect"
  | rectangle _ _ _ _ true => "w_frect"
  | circle _ _ _ false => "w_circle"
  | circle _ _ _ true => "w_fcircle"
  | line .. => "w_line"

/-- The shape for a draw call. A circle becomes its box, and a line the longer side of its box;
coordinates stay within their range. -/
def shape (id : String) : DrawCall → Widget
  | rectangle x y w h filled =>
    { id, type := Kind.tag .shapeRect, x, y, width := w, height := h,
      props := [("fill", .bool filled)] }
  | circle cx cy r filled =>
    let r := max 0 r
    let size := Numeric.clampInt32 (max 1 (2 * r))
    { id, type := Kind.tag .shapeCircle, x := Numeric.clampInt32 (cx - r),
      y := Numeric.clampInt32 (cy - r), width := size, height := size,
      props := [("fill", .bool filled)] }
  | line x1 y1 x2 y2 =>
    let dx := (x2 - x1).natAbs
    let dy := (y2 - y1).natAbs
    let isVertical := dx < dy
    let length := Numeric.clampInt32 (max 1 (max dx dy : Nat))
    { id, type := Kind.tag .line, x := min x1 x2, y := min y1 y2,
      width := if isVertical then 1 else length
      height := if isVertical then length else 1
      props := [("stroke_width", .int 1),
        ("orientation", .string (if isVertical then "vertical" else "horizontal"))] }

end DrawCall

/-! ## The state while lines are read -/

/-- What has been recovered so far. -/
structure Recovery where
  /-- The pages by their indices, which ascend. -/
  pages : List (Nat × Page) := []
  /-- The index of the page that lines belong to. -/
  current : Nat := 0
  /-- Whether draw calls belong to a widget. -/
  inWidget : Bool := false
  /-- How many shapes there are of each kind of draw calls. -/
  shapes : Keyed Nat := []
  markers : Nat := 0
  events : List Event := []

namespace Recovery

/-- The page of an index before anything is known about it. -/
def blankPage (index : Nat) : Page := { id := s!"page_{index}" }

/-- Changes the page of an index, which is added in its place if it is new. -/
def changePage (index : Nat) (f : Page → Page) : List (Nat × Page) → List (Nat × Page)
  | [] => [(index, f (blankPage index))]
  | (i, page) :: rest =>
    if index < i then (index, f (blankPage index)) :: (i, page) :: rest
    else if index = i then (i, f page) :: rest
    else (i, page) :: changePage index f rest

/-- Changes the current page. -/
def change (r : Recovery) (f : Page → Page) : Recovery :=
  { r with pages := changePage r.current f r.pages }

/-- Adds a widget to the current page. -/
def addWidget (r : Recovery) (w : Widget) : Recovery :=
  r.change fun page => { page with widgets := page.widgets ++ [w] }

/-- Notes a fact about a page. -/
def noteFact (key value : String) (page : Page) : Page :=
  match key with
  | "name" => { page with name := value }
  | "dark_mode" => { page with theme := Theme.ofName value }
  | "refresh_type" => { page with refreshType := some value }
  | "refresh_time" => { page with refreshTime := some value }
  | _ => page

/-- The facts that a page can have. -/
def factKeys : List String := ["name", "dark_mode", "refresh_type", "refresh_time"]

/-- The report about any other fact. -/
def factEvents (key : String) : List Event :=
  if factKeys.contains key then []
  else [⟨.debug, "unknown page metadata ignored", [("key", .text key)]⟩]

/-- The report about a marker of no type. -/
def markerEvent (m : Marker) : Event :=
  ⟨.debug, "marker of unknown type ignored", [("widget_type", .text m.type)]⟩

/-- How many shapes there are for a kind of draw calls. -/
def shapeCount (r : Recovery) (lead : String) : Nat := (Keyed.get? r.shapes lead).getD 0

/-- Adds the shape for a draw call. -/
def addShape (r : Recovery) (call : DrawCall) : Recovery :=
  let n := r.shapeCount call.idLead
  let r := r.addWidget (call.shape (call.idLead ++ s!"_{n}"))
  { r with shapes := r.shapes.put call.idLead (n + 1) }

/-- Reads a line. -/
def step (r : Recovery) : Line → Recovery
  | .pageHeader index => { r with current := index, inWidget := false }.change id
  | .pageFact key value =>
    let r := r.change (noteFact key value)
    { r with events := r.events ++ factEvents key }
  | .marker m =>
    match Widget.ofMarker? m with
    | some w =>
      let r := r.addWidget w
      { r with markers := r.markers + 1, inWidget := true }
    | none => { r with events := r.events ++ [markerEvent m], inWidget := false }
  | .draw call => if r.inWidget then r else r.addShape call
  | .other => r

/-- Reads all lines of a text. -/
def ofText (text : String) : Recovery := (Line.classifyAll text).foldl step {}

/-- The project of what has been recovered, before it is brought into normal form. -/
def draft (r : Recovery) : Project := { pages := r.pages.map Prod.snd }

/-- The report at the end. -/
def finalEvent (r : Recovery) : Event :=
  ⟨.info, "project reconstructed",
    [("pages", .count r.pages.length), ("markers", .count r.markers),
      ("primitives", .count (r.shapes.foldl (fun n s => n + s.2) 0))]⟩

end Recovery

namespace Project

/-- The project of a generated text. There has to be at least one page. -/
def ofGenerated (text : String) : Except Failure Loaded :=
  let r := Recovery.ofText text
  if r.pages.isEmpty then .error .missingPages
  else
    let loaded := r.draft.load
    .ok { loaded with events := r.events ++ loaded.events ++ [r.finalEvent] }

/-- Whether a text is a project document: it begins with an opening brace. -/
def isDocumentText (text : String) : Bool := (Text.dropBlanks text.toList).head? == some '\x7b'

/-- The project of a document or of a generated text. -/
def ofAnyText (text : String) : Except Failure Loaded :=
  if isDocumentText text then ofText text else ofGenerated text

end Project

end DisplayLayout
