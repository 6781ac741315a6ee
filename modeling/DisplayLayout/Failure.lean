import DisplayLayout.Text.Basic

/-!
# Failures

Why a project or a configuration cannot be read. Problems of a single widget
are never failures: a missing property has a default, and a widget that the
mode does not support is left out.
-/

namespace DisplayLayout

/-- A value that was found where another one was expected. -/
inductive Found where
  | null
  | bool (value : Bool)
  | integer (text : String)
  | float (text : String)
  | string (quoted : String)
  | sequence
  | map
deriving DecidableEq, Repr

/-- What was expected instead. -/
inductive Wanted where
  | string
  | boolean
  | sequence
  | map
  | page
  | widget
  | project
deriving DecidableEq, Repr

/-- Why a document is no project. -/
inductive DocumentProblem where
  /-- The text is no document at all. -/
  | malformed
  | missingField (name : String)
  | duplicateField (name : String)
  | wrongType (found : Found) (wanted : Wanted)
  /-- A widget given as a list of its fields breaks off before its type. -/
  | noType
  /-- A list of fields has more items than there are fields. -/
  | tooLong (length : Nat)
deriving DecidableEq, Repr

/-- Why a configuration is refused. -/
inductive ConfigProblem where
  /-- The text is no configuration file, or a value has the wrong type. -/
  | malformed
  | mode (text : String)
  | displayType (text : String)
  | blankDisplayId
  | rotation (degrees : Nat)
deriving DecidableEq, Repr

/-- Why nothing is compiled. -/
inductive Failure where
  /-- The document has no list of pages. -/
  | missingPages
  | project (problem : DocumentProblem)
  | config (problem : ConfigProblem)
deriving DecidableEq, Repr

/-- The description of a value. -/
def Found.text : Found → String
  | null => "null"
  | bool b => if b then "boolean `true`" else "boolean `false`"
  | integer t => "integer `" ++ t ++ "`"
  | float t => "floating point `" ++ t ++ "`"
  | string q => "string " ++ q
  | sequence => "sequence"
  | map => "map"

/-- The description of what was expected. -/
def Wanted.text : Wanted → String
  | string => "a string"
  | boolean => "a boolean"
  | sequence => "a sequence"
  | map => "a map"
  | page => "struct Page"
  | widget => "struct Widget"
  | project => "struct Project"

/-- What is said about a document. -/
def DocumentProblem.text : DocumentProblem → String
  | malformed => "not a document"
  | missingField name => "missing field `" ++ name ++ "`"
  | duplicateField name => "duplicate field `" ++ name ++ "`"
  | wrongType found wanted => "invalid type: " ++ found.text ++ ", expected " ++ wanted.text
  | noType => "invalid length 1, expected struct Widget with 14 elements"
  | tooLong n => s!"invalid length {n}, expected fewer elements in array"

/-- What is said about a configuration. -/
def ConfigProblem.text : ConfigProblem → String
  | malformed => "not a configuration"
  | mode t => "invalid compiler.mode '" ++ t ++ "'"
  | displayType t => "invalid device.display_type '" ++ t ++ "'"
  | blankDisplayId => "device.display_id must not be empty"
  | rotation n => s!"invalid protocol.rotate '{n}'"

/-- The message of a failure. -/
def Failure.message : Failure → String
  | missingPages => "invalid project: missing pages array"
  | project problem => "invalid project: " ++ problem.text
  | config problem => "invalid config: " ++ problem.text

end DisplayLayout
