import DisplayLayout.Project.Basic

/-!
# Property tables

Each widget type has one table of properties. It gives the defaults, the fields
that a marker carries and the fields that are read back from it.
-/

namespace DisplayLayout

/-- What a property is when the widget does not set it; this also gives the kind of its values. -/
inductive Default where
  | text (value : String)
  | int (value : Int)
  | flag (value : Bool)
  /-- The value of another property. -/
  | sameAs (key : String)
deriving DecidableEq, Repr, Inhabited

/-- A property of a widget type. -/
structure Property where
  key : String
  fallback : Default
deriving DecidableEq, Repr, Inhabited

namespace Property

/-- A property with a text. -/
def text (key value : String) : Property := ⟨key, .text value⟩

/-- A property with an integer. -/
def int (key : String) (value : Int) : Property := ⟨key, .int value⟩

/-- A property that is on or off. -/
def flag (key : String) (value : Bool) : Property := ⟨key, .flag value⟩

/-- A property that follows another one. -/
def sameAs (key other : String) : Property := ⟨key, .sameAs other⟩

end Property

/-- A table of properties. -/
abbrev PropertyTable := List Property

/-- The default of a property. -/
def PropertyTable.default? (t : PropertyTable) (key : String) : Option Default :=
  (t.find? fun p => p.key == key).map Property.fallback

/-- The text of a truth value. -/
def flagText (b : Bool) : String := if b then "true" else "false"

/-- A word for on or off; nothing at all means off. -/
def flagOfText? (s : String) : Option Bool :=
  match Text.lower (Text.trim s) with
  | "true" => some true
  | "1" => some true
  | "yes" => some true
  | "on" => some true
  | "false" => some false
  | "0" => some false
  | "no" => some false
  | "off" => some false
  | "" => some false
  | _ => none

end DisplayLayout
