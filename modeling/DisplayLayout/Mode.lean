import DisplayLayout.Text.Basic

/-!
# Target modes

The four forms in which a project is emitted, and sets of them.
-/

namespace DisplayLayout

/-- A form of output, chosen once for a run. -/
inductive Mode where
  /-- Draw statements inside a display lambda. -/
  | direct
  /-- A tree of retained widgets. -/
  | retained
  /-- The payload of the first drawing protocol. -/
  | protocolA
  /-- The payload of the second drawing protocol. -/
  | protocolB
deriving DecidableEq, Repr, Inhabited

namespace Mode

/-- All modes in order. -/
def all : List Mode := [direct, retained, protocolA, protocolB]

/-- The name of a mode in configurations. -/
def name : Mode → String
  | direct => "direct"
  | retained => "retained"
  | protocolA => "protocol_a"
  | protocolB => "protocol_b"

/-- The mode with a name or with the name of its backend, in any case of letters. -/
def ofName? (text : String) : Option Mode :=
  match Text.lower (Text.trim text) with
  | "direct" => some direct
  | "esphome" => some direct
  | "retained" => some retained
  | "lvgl" => some retained
  | "protocol_a" => some protocolA
  | "protocola" => some protocolA
  | "oepl" => some protocolA
  | "protocol_b" => some protocolB
  | "protocolb" => some protocolB
  | "opendisplay" => some protocolB
  | "odp" => some protocolB
  | _ => none

/-- The letter of a mode in listings. -/
def letter : Mode → Char
  | direct => 'D'
  | retained => 'R'
  | protocolA => 'A'
  | protocolB => 'B'

/-- Whether the display is drawn elsewhere, through a protocol. -/
def isProtocol : Mode → Bool
  | protocolA => true
  | protocolB => true
  | _ => false

end Mode

/-- A set of modes. -/
structure Modes where
  direct : Bool := false
  retained : Bool := false
  protocolA : Bool := false
  protocolB : Bool := false
deriving DecidableEq, Repr, Inhabited

namespace Modes

/-- Every mode. -/
def all : Modes := ⟨true, true, true, true⟩

/-- The display lambda only. -/
def directOnly : Modes := ⟨true, false, false, false⟩

/-- The widget tree only. -/
def retainedOnly : Modes := ⟨false, true, false, false⟩

/-- Both drawing protocols. -/
def protocols : Modes := ⟨false, false, true, true⟩

/-- Both modes that run on the device. -/
def screen : Modes := ⟨true, true, false, false⟩

/-- The modes in either set. -/
def union (a b : Modes) : Modes :=
  ⟨a.direct || b.direct, a.retained || b.retained, a.protocolA || b.protocolA,
    a.protocolB || b.protocolB⟩

/-- Whether a mode is in the set. -/
def contains (s : Modes) : Mode → Bool
  | .direct => s.direct
  | .retained => s.retained
  | .protocolA => s.protocolA
  | .protocolB => s.protocolB

/-- The letters of the modes in the set, in order. -/
def letters (s : Modes) : String := String.ofList ((Mode.all.filter s.contains).map Mode.letter)

end Modes

end DisplayLayout
