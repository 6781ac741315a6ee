import DisplayLayout.Toml.Basic
import DisplayLayout.Toml.Scalar

/-!
# Reading configuration files

Keys, values and headers, line by line. Values nest, so their readers carry a
budget of steps, which is the length of the text.
-/

namespace DisplayLayout.Toml

/-- Drops blanks within a line. -/
def skipBlanks (cs : List Char) : List Char := cs.dropWhile isBlank

/-- Drops a comment; nothing if it holds a character that none may hold. -/
def skipComment? (cs : List Char) : Option (List Char) :=
  match cs with
  | '#' :: rest =>
    let body := rest.takeWhile fun c => c != '\n'
    let body := if body.getLast? = some '\r' then body.dropLast else body
    if body.any isControl then none else some (rest.drop body.length)
  | _ => some cs

/-- Goes to the beginning of the next line; only blanks and a comment may be left on this one. -/
def endLine? (cs : List Char) : Option (List Char) := do
  let rest ← skipComment? (skipBlanks cs)
  if rest.isEmpty then some [] else lineBreak? rest

/-- Drops blanks, comments and line breaks within brackets. -/
def skipGap? : (budget : Nat) → List Char → Option (List Char)
  | 0, cs => some cs
  | budget + 1, cs => do
    let rest ← skipComment? (skipBlanks cs)
    match lineBreak? rest with
    | some rest => skipGap? budget rest
    | none => some rest

/-- Characters of a key without quotes. -/
def isKeyChar (c : Char) : Bool := c.isAlphanum || c == '_' || c == '-'

/-- One part of a key. -/
def keyPart? (cs : List Char) : Option (String × List Char) :=
  match cs with
  | '"' :: rest => (scanBasic rest).map fun p => (String.ofList p.1, p.2)
  | '\'' :: rest => (scanLiteral rest).map fun p => (String.ofList p.1, p.2)
  | _ =>
    let word := cs.takeWhile isKeyChar
    if word.isEmpty then none else some (String.ofList word, cs.dropWhile isKeyChar)

/-- A key of parts with dots between them: all parts but the last, the last one, and the rest. -/
def key? : (budget : Nat) → List Char → Option (List String × String × List Char)
  | 0, _ => none
  | budget + 1, cs => do
    let (part, rest) ← keyPart? (skipBlanks cs)
    match skipBlanks rest with
    | '.' :: more => do
      let (path, last, rest) ← key? budget more
      some (part :: path, last, rest)
    | rest => some ([], part, rest)

/-- A number, a truth value or a moment. A date and a time may have a space between them. -/
def plainValue? (cs : List Char) : Option (Value × List Char) :=
  let word := cs.takeWhile isScalarChar
  let rest := cs.dropWhile isScalarChar
  if word = "true".toList then some (.bool true, rest)
  else if word = "false".toList then some (.bool false, rest)
  else match readInteger? word with
    | some n => some (.integer n, rest)
    | none =>
      if isFloat word then some (.float, rest)
      else
        let more := match rest with
          | ' ' :: r => r.takeWhile isScalarChar
          | _ => []
        if dropDate? word = some [] ∧ isMoment (word ++ ' ' :: more) then
          some (.moment, rest.drop (more.length + 1))
        else if isMoment word then some (.moment, rest) else none

/-- Sets a key of a table in braces. -/
def setInline (entries : Entries) (path : List String) (last : String) (v : Value) :
    Option Entries := setDotted v path last entries

mutual

/-- A value. -/
def value? : (budget : Nat) → List Char → Option (Value × List Char)
  | 0, _ => none
  | budget + 1, cs =>
    match cs with
    | '[' :: rest => do
      let rest ← skipGap? rest.length rest
      let (items, rest) ← items? budget rest
      some (.array items, rest)
    | '\x7b' :: rest => do
      let rest ← skipGap? rest.length rest
      let (entries, rest) ← inlineEntries? budget [] rest
      some (.table .inline entries, rest)
    | _ =>
      if cs.head? = some '"' ∨ cs.head? = some '\'' then
        (scanString? cs).map fun p => (.string (String.ofList p.1), p.2)
      else plainValue? cs

/-- The items of an array up to its closing bracket. -/
def items? : (budget : Nat) → List Char → Option (List Value × List Char)
  | 0, _ => none
  | budget + 1, cs =>
    match cs with
    | ']' :: rest => some ([], rest)
    | _ => do
      let (v, rest) ← value? budget cs
      let rest ← skipGap? rest.length rest
      match rest with
      | ']' :: rest => some ([v], rest)
      | ',' :: rest => do
        let rest ← skipGap? rest.length rest
        let (vs, rest) ← items? budget rest
        some (v :: vs, rest)
      | _ => none

/-- The entries of a table in braces up to the closing one. -/
def inlineEntries? : (budget : Nat) → Entries → List Char → Option (Entries × List Char)
  | 0, _, _ => none
  | budget + 1, entries, cs =>
    match cs with
    | '\x7d' :: rest => some (entries, rest)
    | _ => do
      let (path, last, rest) ← key? cs.length cs
      match rest with
      | '=' :: rest => do
        let (v, rest) ← value? budget (skipBlanks rest)
        let entries ← setInline entries path last v
        let rest ← skipGap? rest.length rest
        match rest with
        | '\x7d' :: rest => some (entries, rest)
        | ',' :: rest => do
          let rest ← skipGap? rest.length rest
          inlineEntries? budget entries rest
        | _ => none
      | _ => none

end

/-- A header: whether it has double brackets, its path, and the rest of the line. -/
def header? (cs : List Char) : Option (Bool × List String × String × List Char) :=
  match cs with
  | '[' :: '[' :: rest => do
    let (path, last, rest) ← key? rest.length rest
    match rest with
    | ']' :: ']' :: rest => some (true, path, last, rest)
    | _ => none
  | '[' :: rest => do
    let (path, last, rest) ← key? rest.length rest
    match rest with
    | ']' :: rest => some (false, path, last, rest)
    | _ => none
  | _ => none

/-- A file while it is read: the tree so far and the path of the current table. -/
structure File where
  root : Entries
  current : List String

/-- Sets a key of the current table. A table that a header opened takes plain and dotted keys. -/
def File.set? (f : File) (path : List String) (last : String) (v : Value) : Option File := do
  let root ← atHeaderPath (setDotted v path last) f.current f.root
  some { f with root }

/-- Opens the table of a header. -/
def File.open? (f : File) (repeated : Bool) (path : List String) (last : String) : Option File := do
  let root ← atHeaderPath (if repeated then openElement last else openTable last) path f.root
  some ⟨root, path ++ [last]⟩

/-- One line that is neither blank nor a comment, and the rest of the text. -/
def statement? (f : File) (cs : List Char) : Option (File × List Char) :=
  match cs with
  | '[' :: _ => do
    let (repeated, path, last, rest) ← header? cs
    let f ← f.open? repeated path last
    let rest ← endLine? rest
    some (f, rest)
  | _ => do
    let (path, last, rest) ← key? cs.length cs
    match rest with
    | '=' :: rest => do
      let (v, rest) ← value? (rest.length + 1) (skipBlanks rest)
      let f ← f.set? path last v
      let rest ← endLine? rest
      some (f, rest)
    | _ => none

/-- All lines. -/
def statements? : (budget : Nat) → File → List Char → Option File
  | 0, f, _ => some f
  | budget + 1, f, cs => do
    let rest ← skipGap? cs.length cs
    if rest.isEmpty then some f
    else
      let (f, rest) ← statement? f rest
      statements? budget f rest

/-- Reads a file. A byte order mark at its front is left out. -/
def read? (text : String) : Option Entries := do
  let cs := match text.toList with
    | '\uFEFF' :: rest => rest
    | cs => cs
  let f ← statements? (cs.length + 1) ⟨[], []⟩ cs
  some f.root

end DisplayLayout.Toml
