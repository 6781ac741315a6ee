/-!
# Text as a list of characters

Blank characters, trimming, lines and word characters. Every reader of this
library takes a text apart as a `List Char`; a `String` is what it hands on.
-/

namespace DisplayLayout.Text

/-- The characters of the property White_Space. -/
def isBlank (c : Char) : Bool :=
  let n := c.toNat
  (9 ≤ n && n ≤ 13) || n == 0x20 || n == 0x85 || n == 0xA0 || n == 0x1680
    || (0x2000 ≤ n && n ≤ 0x200A) || n == 0x2028 || n == 0x2029 || n == 0x202F
    || n == 0x205F || n == 0x3000

/-- Drops leading blanks. -/
def dropBlanks (cs : List Char) : List Char := cs.dropWhile isBlank

/-- Drops trailing blanks. -/
def dropTrailingBlanks (cs : List Char) : List Char := (cs.reverse.dropWhile isBlank).reverse

/-- Drops the blanks at both ends. -/
def trimChars (cs : List Char) : List Char := dropTrailingBlanks (dropBlanks cs)

/-- Drops the blanks at both ends of a text. -/
def trim (s : String) : String := String.ofList (trimChars s.toList)

/-- A text of blanks only, the empty one included. -/
def isBlankText (s : String) : Bool := s.toList.all isBlank

/-- A text together with the promise that it is worth something: `none` when only blanks are left. -/
def nonBlank? (s : String) : Option String :=
  let t := trim s
  if t.isEmpty then none else some t

/-- Characters of a plain word: ASCII letters, digits and the underscore. -/
def isWordChar (c : Char) : Bool := c.isAlphanum || c == '_'

/-- A plain word has at least one character. -/
def isWord (cs : List Char) : Bool := !cs.isEmpty && cs.all isWordChar

/-- Lower case on ASCII letters only. -/
def lower (s : String) : String := String.ofList (s.toList.map Char.toLower)

/-- Upper case on ASCII letters only. -/
def upper (s : String) : String := String.ofList (s.toList.map Char.toUpper)

/-- The pieces between the occurrences of a separator, always at least one. -/
def splitOn (sep : Char) : List Char → List (List Char)
  | [] => [[]]
  | c :: cs =>
    if c = sep then [] :: splitOn sep cs
    else match splitOn sep cs with
      | [] => [[c]]
      | piece :: pieces => (c :: piece) :: pieces

/-- The pieces between the occurrences of a separator, without the blanks at their ends, and
without the pieces of which nothing is left. -/
def fields (sep : Char) (s : String) : List String :=
  (splitOn sep s.toList).filterMap fun piece => nonBlank? (String.ofList piece)

/-- The pieces between blanks. -/
def words (s : String) : List String :=
  fields ' ' (String.ofList (s.toList.map fun c => if isBlank c then ' ' else c))

/-- The pieces at the last occurrence of a separator: what stands before and after it. -/
def splitLast? (sep : Char) (cs : List Char) : Option (List Char × List Char) :=
  let after := cs.reverse.takeWhile (· ≠ sep)
  match cs.reverse.dropWhile (· ≠ sep) with
  | [] => none
  | _ :: before => some (before.reverse, after.reverse)

/-- The pieces at the first occurrence of a separator: what stands before and after it. -/
def splitFirst? (sep : Char) (cs : List Char) : Option (List Char × List Char) :=
  match cs.dropWhile (· ≠ sep) with
  | [] => none
  | _ :: after => some (cs.takeWhile (· ≠ sep), after)

/-- Drops one carriage return at the end. -/
def dropReturn (cs : List Char) : List Char :=
  if cs.getLast? = some '\r' then cs.dropLast else cs

/-- The lines of a text. A line feed ends a line, with one carriage return right
before it; what follows the last line feed is a line if it is not empty. -/
def lineChars (cs : List Char) : List (List Char) :=
  let pieces := splitOn '\n' cs
  pieces.dropLast.map dropReturn ++ (pieces.getLast?.toList.filter (· ≠ []))

/-- The lines of a text, as texts. -/
def lines (s : String) : List String := (lineChars s.toList).map String.ofList

/-- Puts a separator between texts. -/
def join (sep : String) (parts : List String) : String := String.intercalate sep parts

/-- Lines that each end in a line feed. -/
def unlines (rows : List String) : String := String.join (rows.map (· ++ "\n"))

/-- Whether a text begins with another one. -/
def hasLead (lead s : String) : Bool := lead.toList.isPrefixOf s.toList

/-- Spaces, `n` of them. -/
def spaces (n : Nat) : String := String.ofList (List.replicate n ' ')

/-- Replaces every occurrence of one character by a text. -/
def replaceChar (c : Char) (by_ : String) (s : String) : String :=
  String.ofList (s.toList.flatMap fun d => if d = c then by_.toList else [d])

end DisplayLayout.Text
