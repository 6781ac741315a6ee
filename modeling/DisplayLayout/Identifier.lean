import DisplayLayout.Text.Basic

/-!
# Identifiers

Names that generated code can use: letters, digits and underscores, within the
length that the firmware compiler accepts.
-/

namespace DisplayLayout.Identifier

/-- The largest length. -/
def maxLength : Nat := 63

/-- Leaves out all other characters, and cuts the rest so that the suffix, which stays whole,
still fits. -/
def sanitize (raw suffix : String) : String :=
  String.ofList ((raw.toList.filter Text.isWordChar).take (maxLength - suffix.utf8ByteSize)) ++ suffix

/-- The identifier of an entity: every other character becomes an underscore. -/
def ofEntity (entity suffix : String) : String :=
  let cs := (Text.trimChars entity.toList).map fun c => if Text.isWordChar c then c else '_'
  sanitize (String.ofList cs) suffix

/-- A part of an identifier: lower-case letters and digits, everything else an underscore. -/
def slug (raw : String) : String :=
  String.ofList ((Text.trimChars raw.toList).map fun c => if c.isAlphanum then c.toLower else '_')

end DisplayLayout.Identifier
