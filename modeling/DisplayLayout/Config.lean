import DisplayLayout.Device
import DisplayLayout.Failure
import DisplayLayout.Mode
import DisplayLayout.Numeric.Integer
import DisplayLayout.Toml.Reader

/-!
# Configuration

The mode, the device and the envelope of the drawing protocols, as read from a
configuration file. Every setting has a default, and unknown ones are ignored.
-/

namespace DisplayLayout

/-- The settings of the service call that carries a protocol payload. -/
structure Envelope where
  entityId : String := "open_epaper_link.tag"
  background : String := "white"
  rotate : Nat := 0
  dither : Nat := 2
  ttl : Nat := 60
deriving DecidableEq, Repr, Inhabited

/-- A configuration. -/
structure Config where
  mode : Mode := .direct
  device : Device := {}
  envelope : Envelope := {}
deriving DecidableEq, Repr, Inhabited

namespace Config

open Toml (Value Entries)

/-- The sections of a file as they are written. -/
structure Draft where
  mode : Option String
  name : Option String
  displayType : Option String
  width : Option Nat
  height : Option Nat
  invertedColors : Option Bool
  displayId : Option String
  features : Option (Keyed Bool)
  entityId : Option String
  background : Option String
  rotate : Option Nat
  dither : Option Nat
  ttl : Option Nat
deriving DecidableEq, Repr, Inhabited

/-- The settings of a section by position, for a section that is given as a list. -/
def settings (keys : List String) (v : Value) : Option Entries :=
  match v.entries? with
  | some entries => some entries
  | none => match v.items? with
    | some items => if items.length < keys.length then none else some (keys.zip items)
    | none => none

/-- A section, empty if it is missing. -/
def sectionOf (keys : List String) (name : String) (root : Entries) : Option Entries :=
  match Keyed.get? root name with
  | none => some []
  | some v => settings keys v

/-- A setting that may be missing but has to have its type. -/
def setting {α : Type} (read : Value → Option α) (key : String) (entries : Entries) :
    Option (Option α) :=
  match Keyed.get? entries key with
  | none => some none
  | some v => (read v).map some

/-- The readers of the types of settings. -/
def text? : Value → Option String
  | .string s => some s
  | _ => none

def flag? : Value → Option Bool
  | .bool b => some b
  | _ => none

def word? : Value → Option Nat
  | .integer n => if 0 ≤ n ∧ n ≤ Numeric.maxWord32 then some n.toNat else none
  | _ => none

def flags? (v : Value) : Option (Keyed Bool) := do
  let entries ← v.entries?
  entries.mapM fun (k, v) => (flag? v).map (k, ·)

/-- The keys of the sections. -/
def compilerKeys : List String := ["mode"]
def deviceKeys : List String :=
  ["name", "display_type", "width", "height", "inverted_colors", "display_id", "features"]
def protocolKeys : List String := ["entity_id", "background", "rotate", "dither", "ttl"]

/-- Reads the settings of a file. -/
def draft? (root : Entries) : Option Draft := do
  let compiler ← sectionOf compilerKeys "compiler" root
  let device ← sectionOf deviceKeys "device" root
  let protocol ← sectionOf protocolKeys "protocol" root
  some
    { mode := ← setting text? "mode" compiler
      name := ← setting text? "name" device
      displayType := ← setting text? "display_type" device
      width := ← setting word? "width" device
      height := ← setting word? "height" device
      invertedColors := ← setting flag? "inverted_colors" device
      displayId := ← setting text? "display_id" device
      features := ← setting flags? "features" device
      entityId := ← setting text? "entity_id" protocol
      background := ← setting text? "background" protocol
      rotate := ← setting word? "rotate" protocol
      dither := ← setting word? "dither" protocol
      ttl := ← setting word? "ttl" protocol }

/-- The mode with a name. -/
def readMode (text : String) : Except Failure Mode :=
  match Mode.ofName? text with
  | some m => .ok m
  | none => .error (.config (.mode text))

/-- The display type with a name. -/
def readDisplayType (text : String) : Except Failure DisplayType :=
  match DisplayType.ofName? text with
  | some t => .ok t
  | none => .error (.config (.displayType text))

/-- The identifier of a display has to show something. -/
def readDisplayId (text : String) : Except Failure String :=
  if Text.isBlankText text then .error (.config .blankDisplayId) else .ok text

/-- A rotation is a multiple of a right angle. -/
def readRotation (degrees : Nat) : Except Failure Nat :=
  if [0, 90, 180, 270].contains degrees then .ok degrees
  else .error (.config (.rotation degrees))

/-- A setting, or its default. -/
def resolve {α β : Type} (read : α → Except Failure β) (fallback : β) : Option α → Except Failure β
  | none => .ok fallback
  | some a => read a

/-- The configuration that settings stand for. The first problem counts, in the order mode,
display type, display identifier, rotation. -/
def ofDraft (d : Draft) : Except Failure Config := do
  let mode ← resolve readMode .direct d.mode
  let displayType ← resolve readDisplayType .binary d.displayType
  let displayId ← resolve readDisplayId "main_display" d.displayId
  let rotate ← resolve readRotation 0 d.rotate
  let device : Device := {}
  let envelope : Envelope := {}
  return {
    mode
    device := {
      name := d.name.getD device.name
      displayType
      width := d.width.getD device.width
      height := d.height.getD device.height
      invertedColors := d.invertedColors.getD device.invertedColors
      displayId
      features := d.features.getD device.features }
    envelope := {
      entityId := d.entityId.getD envelope.entityId
      background := d.background.getD envelope.background
      rotate
      dither := d.dither.getD envelope.dither
      ttl := d.ttl.getD envelope.ttl } }

/-- Reads a configuration file. -/
def read (text : String) : Except Failure Config :=
  match (Toml.read? text).bind draft? with
  | none => .error (.config .malformed)
  | some d => ofDraft d

end Config

end DisplayLayout
