import DisplayLayout.Device
import DisplayLayout.Mode
import DisplayLayout.Sensor

/-!
# Declarations

What widgets need besides sensors: blocks in the sections of components, and
global variables.
-/

namespace DisplayLayout

/-- A block of a section, declared once for each key. Its lines start with two spaces. -/
structure Component where
  sectionName : String
  key : String
  lines : List String
deriving DecidableEq, Repr, Inhabited

/-- A global variable. -/
structure Global where
  id : String
  valueType : String := "int"
  restore : Bool
  initial : String
deriving DecidableEq, Repr, Inhabited

/-- The lines of a global variable. -/
def Global.lines (g : Global) : List String :=
  ["  - id: " ++ g.id,
    "    type: " ++ g.valueType,
    "    restore_value: " ++ (if g.restore then "true" else "false"),
    "    initial_value: '" ++ g.initial ++ "'"]

/-- What a widget can know about the project when it declares something. -/
structure Surroundings where
  mode : Mode
  pageCount : Nat
  /-- The page of the widget. -/
  pageIndex : Nat
  device : Device
deriving DecidableEq, Repr

/-- A named section of a configuration. -/
structure Section where
  name : String
  lines : List String
deriving DecidableEq, Repr, Inhabited

/-- The name of a section with a colon, then its lines. -/
def Section.render (s : Section) : List String := (s.name ++ ":") :: s.lines

end DisplayLayout
