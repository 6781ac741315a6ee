import DisplayLayout.Json.Printer
import DisplayLayout.Lambda.Statement
import DisplayLayout.Numeric.Integer
import DisplayLayout.Qr.Encoder
import DisplayLayout.Widget.Element
import DisplayLayout.Widget.Node

/-!
# QR codes

A symbol with a text. Without an explicit scale it is as large as the box allows.
-/

namespace DisplayLayout.QrCode

/-- The properties of a QR code. -/
def table : PropertyTable :=
  [.text "value" "https://esphome.io", .int "scale" 0, .text "ecc" "LOW", .text "color" "theme_auto"]

/-- The level of error correction. -/
def level (v : View) : Qr.Level := Qr.Level.ofName (v.text "ecc")

/-- The modules that are assumed for a text that no symbol holds. -/
def assumedModules : Nat := 25

variable [Qr.Encoder]

/-- The modules on each side of the symbol of a text. -/
def moduleCount (level : Qr.Level) (text : String) : Nat :=
  ((Qr.Encoder.modules? level text).filter fun n : Nat => Numeric.isInt32 n).getD assumedModules

/-- The pixels of a module. -/
def scale (v : View) : Int :=
  let explicit := v.int32 "scale"
  if 0 < explicit then explicit
  else max 1 (Int.tdiv v.box.shortSide (max 1 (moduleCount (level v) (v.text "value"))))

/-- The identifier of the component that holds the text. -/
def componentId (v : View) : String := "qr_" ++ v.ident

def direct (v : View) (s : Surface) : Drawing :=
  .line (s!"it.qr_code({v.widget.x}, {v.widget.y}, id(" ++ componentId v ++ "), "
    ++ s.direct (v.text "color") ++ s!", {scale v});")

def retained (v : View) (s : Surface) : Branch :=
  Node.branch "qrcode"
    [("id", .string v.ident), ("x", .int v.widget.x), ("y", .int v.widget.y), ("size", .int v.box.shortSide),
      ("text", .string (v.text "value")), ("dark_color", .string (s.retained (v.text "color"))),
      ("light_color", .string (s.retained "white"))]

def element (_ : Protocol) (v : View) (s : Surface) : Option Json :=
  some (.object
    [("type", .string "qrcode"), ("data", .string (v.text "value")), ("x", .int v.widget.x),
      ("y", .int v.widget.y), ("boxsize", .int (scale v)), ("border", .int 1),
      ("color", .string (s.protocol (v.text "color"))), ("bgcolor", .string (s.protocol "transparent"))])

def components (v : View) (around : Surroundings) : List Component :=
  if around.mode = .direct then
    [⟨"qr_code", componentId v,
      ["  - id: " ++ componentId v, "    value: " ++ Json.quoted (v.text "value"),
        "    ecc: " ++ (level v).name]⟩]
  else []

/-- The type of QR codes. -/
def behaviour : Behaviour where
  modes := .all
  size := (100, 100)
  table := table
  direct := direct
  retained := retained
  element := element
  components := components

end DisplayLayout.QrCode
