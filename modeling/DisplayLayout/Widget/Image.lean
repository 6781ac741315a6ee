import DisplayLayout.Json.Printer
import DisplayLayout.Widget.Element
import DisplayLayout.Widget.Node

/-!
# Images

Bitmaps from a file and bitmaps that are downloaded again and again. Each one
is declared as an asset of the size of its widget.
-/

namespace DisplayLayout.Image

/-- Drops double quotes at both ends. -/
def trimQuotes (cs : List Char) : List Char :=
  ((cs.dropWhile (· == '"')).reverse.dropWhile (· == '"')).reverse

/-- A location without blanks and quotes around it; none if nothing is left. -/
def location? (text : String) : Option String :=
  let cs := trimQuotes (Text.trimChars text.toList)
  if cs.isEmpty then none else some (String.ofList cs)

/-- What comes before a query or a fragment. -/
def beforeQuery (cs : List Char) : List Char := cs.takeWhile fun c => c != '?' && c != '#'

/-- What comes behind the last separator of directories. -/
def fileName (cs : List Char) : List Char :=
  (cs.reverse.takeWhile fun c => c != '/' && c != '\\').reverse

/-- A file name without its extension. -/
def withoutExtension (cs : List Char) : List Char :=
  match Text.splitLast? '.' cs with
  | some (stem, _) => stem
  | none => cs

/-- Leaves out underscores at the front and behind other underscores. -/
def squeeze : List Char → List Char
  | [] => []
  | c :: rest => if c = '_' then squeeze rest else c :: keep rest
where
  /-- Goes on behind a character that is no underscore. -/
  keep : List Char → List Char
    | [] => []
    | c :: rest =>
      if c = '_' then
        match squeeze rest with
        | [] => []
        | d :: more => '_' :: d :: more
      else c :: keep rest

/-- The name of a file as a part of an identifier. -/
def stem (location : String) : String :=
  let cs := trimQuotes (Text.trimChars location.toList)
  let name := withoutExtension (fileName (beforeQuery cs))
  let parts := squeeze (Identifier.slug (String.ofList name)).toList
  if parts.isEmpty then "image" else String.ofList parts

/-- The identifier of an asset: its family, its file and its size. -/
def assetId (family location : String) (v : View) : String :=
  family ++ "_" ++ stem location ++ s!"_{v.widget.width}x{v.widget.height}"

/-- Draws an asset. A display without colors gets the colors of set and clear pixels. -/
def drawAsset (v : View) (s : Surface) (id : String) : Drawing :=
  let place := s!"it.image({v.widget.x}, {v.widget.y}, id({id})"
  if s.device.displayType = .color then .line (place ++ ");")
  else
    let (on, off) :=
      if v.flag "invert" then (s.direct "white", s.direct "black")
      else (s.direct "black", s.direct "white")
    .line (place ++ ", " ++ on ++ ", " ++ off ++ ");")

/-- Shows an asset in the widget tree. -/
def treeAsset (v : View) (id : String) : Branch :=
  Node.branch "image"
    [("id", .string v.ident), ("x", .int v.widget.x), ("y", .int v.widget.y), ("src", .string id)]

/-- A downloaded image in a protocol. -/
def download (v : View) (location : String) : Json :=
  .object
    [("type", .string "dlimg"), ("url", .string location), ("x", .int v.widget.x),
      ("y", .int v.widget.y), ("xsize", .int v.widget.width), ("ysize", .int v.widget.height),
      ("rotate", .int 0)]

/-- The size of the asset of a widget. -/
def resizeText (v : View) : String := s!"{v.widget.width}x{v.widget.height}"

/-- A kind of images: the property with the location and the family of the identifiers. -/
structure Store where
  key : String
  family : String

/-- The location of the image of a widget. -/
def Store.location? (k : Store) (v : View) : Option String := Image.location? (v.text k.key)

/-- The identifier of the asset at a location. -/
def Store.id (k : Store) (v : View) (location : String) : String := assetId k.family location v

/-- The type of a kind of images. -/
def Store.behaviour (k : Store) (table : PropertyTable)
    (declare : View → Surroundings → String → List Component) : Behaviour where
  modes := .all
  size := (200, 150)
  table := table
  direct v s := match k.location? v with
    | some location => drawAsset v s (k.id v location)
    | none => {}
  retained v _ := match k.location? v with
    | some location => treeAsset v (k.id v location)
    | none => {}
  element _ v _ := (k.location? v).map (download v)
  components v around := match k.location? v with
    | some location => if around.mode.isProtocol then [] else declare v around location
    | none => []

/-- Images from files. -/
def file : Store := ⟨"path", "img"⟩

def fileTable : PropertyTable := [.text "path" "", .flag "invert" false]

/-- The declaration of an image from a file. -/
def declareFile (v : View) (around : Surroundings) (path : String) : List Component :=
  let id := file.id v path
  let display := around.device.displayType
  [⟨"image", id,
    ["  - file: " ++ Json.quoted path, "    id: " ++ id, "    type: " ++ display.imageType,
      "    resize: " ++ resizeText v]
    ++ if display = .binary then ["    dither: FLOYDSTEINBERG"] else []⟩]

/-- The type of images from files. -/
def fileBehaviour : Behaviour := file.behaviour fileTable declareFile

/-- Downloaded images. -/
def online : Store := ⟨"url", "online_img"⟩

def onlineTable : PropertyTable := [.text "url" "", .int "interval" 300, .flag "invert" false]

/-- Whether a text ends in another one. -/
def hasEnd (ending : String) (cs : List Char) : Bool := ending.toList.isSuffixOf cs

/-- The format of an image, by its extension. -/
def formatOf (url : String) : String :=
  let path := beforeQuery (Text.lower url).toList
  if hasEnd ".jpg" path || hasEnd ".jpeg" path then "JPEG"
  else if hasEnd ".bmp" path then "BMP"
  else "PNG"

/-- The declarations of a downloaded image: the client, the asset, and the timer. -/
def declareOnline (v : View) (around : Surroundings) (url : String) : List Component :=
  let id := online.id v url
  let onDone :=
    if around.mode = .retained then "        - lvgl.widget.refresh: " ++ v.ident
    else "        - component.update: " ++ around.device.displayId
  let interval := max 1 (v.int "interval")
  [⟨"http_request", "http_request", ["  verify_ssl: false", "  timeout: 10s"]⟩,
    ⟨"online_image", id,
      ["  - id: " ++ id, "    url: " ++ Json.quoted url, "    format: " ++ formatOf url,
        "    type: " ++ around.device.displayType.imageType, "    resize: " ++ resizeText v,
        "    update_interval: never", "    on_download_finished:", "      then:", onDone]⟩,
    ⟨"interval", "interval_" ++ id,
      [s!"  - interval: {interval}s", "    then:", "      - component.update: " ++ id]⟩]

/-- The type of downloaded images. -/
def onlineBehaviour : Behaviour := online.behaviour onlineTable declareOnline

end DisplayLayout.Image
