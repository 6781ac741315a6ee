import DisplayLayout.Json.Number
import DisplayLayout.Numeric.Hexadecimal

/-!
# Reading documents

Document text is split into tokens, and the tokens drive a machine that keeps
the containers that are still open on a stack. Both are strict: nothing is
accepted that the grammar of the format does not have.
-/

namespace DisplayLayout.Json

/-- A token of document text. -/
inductive Token where
  | openArray
  | closeArray
  | openObject
  | closeObject
  | comma
  | colon
  | scalar (value : Json)

/-- The character of an escape with one letter. -/
def simpleEscape? (c : Char) : Option Char :=
  match c with
  | '"' => some '"'
  | '\\' => some '\\'
  | '/' => some '/'
  | 'b' => some (Char.ofNat 8)
  | 'f' => some (Char.ofNat 12)
  | 'n' => some '\n'
  | 'r' => some '\r'
  | 't' => some '\t'
  | _ => none

/-- Whether a 16-bit unit is the first or the second half of a pair. -/
def isHighHalf (n : Nat) : Bool := 0xD800 ≤ n && n ≤ 0xDBFF
def isLowHalf (n : Nat) : Bool := 0xDC00 ≤ n && n ≤ 0xDFFF

/-- Puts a character before a text that is still being read. -/
def consRead (c : Char) (r : Option (List Char × List Char)) : Option (List Char × List Char) :=
  r.map fun p => (c :: p.1, p.2)

/-- Reads a text behind its opening quote, and what follows the closing one. A half of a pair
has to be followed by the other half. -/
def scanString? : List Char → Option (List Char × List Char)
  | [] => none
  | '"' :: rest => some ([], rest)
  | '\\' :: 'u' :: a :: b :: c :: d :: '\\' :: 'u' :: a' :: b' :: c' :: d' :: rest =>
    match Numeric.readHex? [a, b, c, d] with
    | none => none
    | some n =>
      if isHighHalf n then
        match Numeric.readHex? [a', b', c', d'] with
        | none => none
        | some n' =>
          if isLowHalf n' then
            consRead (Char.ofNat (0x10000 + (n - 0xD800) * 0x400 + (n' - 0xDC00))) (scanString? rest)
          else none
      else if isLowHalf n then none
      else consRead (Char.ofNat n) (scanString? ('\\' :: 'u' :: a' :: b' :: c' :: d' :: rest))
  | '\\' :: 'u' :: a :: b :: c :: d :: rest =>
    match Numeric.readHex? [a, b, c, d] with
    | none => none
    | some n =>
      if isHighHalf n || isLowHalf n then none else consRead (Char.ofNat n) (scanString? rest)
  | '\\' :: c :: rest =>
    match simpleEscape? c with
    | none => none
    | some c => consRead c (scanString? rest)
  | c :: rest => if c.toNat < 0x20 ∨ c = '\\' then none else consRead c (scanString? rest)

/-- Blanks between tokens. -/
def isSpace (c : Char) : Bool := c == ' ' || c == '\t' || c == '\n' || c == '\r'

/-- The token of a single character. -/
def punctuation? (c : Char) : Option Token :=
  match c with
  | '[' => some .openArray
  | ']' => some .closeArray
  | '\x7b' => some .openObject
  | '\x7d' => some .closeObject
  | ',' => some .comma
  | ':' => some .colon
  | _ => none

/-- A word with a value. -/
def scanWord? (cs : List Char) : Option (Json × List Char) :=
  match cs with
  | 't' :: 'r' :: 'u' :: 'e' :: rest => some (.bool true, rest)
  | 'f' :: 'a' :: 'l' :: 's' :: 'e' :: rest => some (.bool false, rest)
  | 'n' :: 'u' :: 'l' :: 'l' :: rest => some (.null, rest)
  | _ => none

/-- The first token of a text that starts with no blank, and the rest. -/
def scanToken? (c : Char) (rest : List Char) : Option (Token × List Char) :=
  match punctuation? c with
  | some t => some (t, rest)
  | none =>
    if c = '"' then (scanString? rest).map fun p => (.scalar (.string (String.ofList p.1)), p.2)
    else if c = '-' ∨ c.isDigit then do
      let (written, more) ← scanNumber? (c :: rest)
      let n ← written.number?
      some (.scalar (.number n), more)
    else (scanWord? (c :: rest)).map fun p => (.scalar p.1, p.2)

theorem consRead_length {c : Char} {r : Option (List Char × List Char)} {s rest : List Char} {n k : Nat}
    (bound : ∀ {s rest : List Char}, r = some (s, rest) → rest.length ≤ n) (le : n ≤ k)
    (h : consRead c r = some (s, rest)) : rest.length ≤ k := by
  obtain ⟨p, hp, he⟩ := Option.map_eq_some_iff.1 h
  cases he
  exact Nat.le_trans (bound hp) le

/-- What follows a text is no longer than the text with what follows it. -/
theorem scanString?_length {cs s rest : List Char} (h : scanString? cs = some (s, rest)) :
    rest.length ≤ cs.length := by
  fun_induction scanString? cs generalizing s rest with
  | case1 => cases h
  | case2 => cases h; exact Nat.le_succ _
  | case3 => cases h
  | case4 => cases h
  | case5 _ _ _ _ _ _ _ _ _ _ _ _ _ _ _ ih =>
    exact consRead_length ih (by simp only [List.length_cons]; omega) h
  | case6 => cases h
  | case7 => cases h
  | case8 _ _ _ _ _ _ _ _ _ _ _ _ _ ih =>
    exact consRead_length ih (by simp only [List.length_cons]; omega) h
  | case9 => cases h
  | case10 => cases h
  | case11 _ _ _ _ _ _ _ _ _ ih =>
    exact consRead_length ih (by simp only [List.length_cons]; omega) h
  | case12 => cases h
  | case13 _ _ _ _ _ _ ih =>
    exact consRead_length ih (by simp only [List.length_cons]; omega) h
  | case14 => cases h
  | case15 _ _ _ _ _ _ _ ih =>
    exact consRead_length ih (by simp only [List.length_cons]; omega) h

/-- What follows a word is shorter than the word with what follows it. -/
theorem scanWord?_length {cs more : List Char} {j : Json} (h : scanWord? cs = some (j, more)) :
    more.length < cs.length := by
  unfold scanWord? at h
  split at h
  all_goals (cases h; try (simp only [List.length_cons]; omega))

/-- What follows a token is no longer than what followed its first character. -/
theorem scanToken?_length {c : Char} {rest more : List Char} {t : Token}
    (h : scanToken? c rest = some (t, more)) : more.length ≤ rest.length := by
  unfold scanToken? at h
  split at h
  · cases h; exact Nat.le_refl _
  · split at h
    · obtain ⟨p, hp, he⟩ := Option.map_eq_some_iff.1 h
      cases he
      exact scanString?_length hp
    · split at h
      · obtain ⟨⟨written, rest'⟩, hw, h⟩ := Option.bind_eq_some_iff.1 h
        obtain ⟨n, hn, h⟩ := Option.bind_eq_some_iff.1 h
        cases h
        exact Nat.le_of_lt_succ (scanNumber?_length hw)
      · obtain ⟨p, hp, he⟩ := Option.map_eq_some_iff.1 h
        cases he
        exact Nat.le_of_lt_succ (scanWord?_length hp)

/-- The tokens of a text. -/
def tokens? : List Char → Option (List Token)
  | [] => some []
  | c :: rest =>
    if isSpace c then tokens? rest
    else match _h : scanToken? c rest with
      | none => none
      | some (t, more) => (tokens? more).map (t :: ·)
termination_by cs => cs.length
decreasing_by
  · exact Nat.lt_succ_self _
  · exact Nat.lt_succ_of_le (scanToken?_length _h)

/-- A container that is still open: its contents so far. -/
inductive Frame where
  | array (items : List Json)
  | object (entries : Keyed Json) (key : String)

/-- What may come next. -/
inductive Expect where
  /-- A value; the flag allows the end of the array that has just been opened. -/
  | value (mayClose : Bool)
  /-- A key; the flag allows the end of the object that has just been opened. -/
  | key (mayClose : Bool)
  /-- The colon behind a key. -/
  | colon
  /-- A comma or the end of the container. -/
  | next
  /-- Nothing: the document is complete. -/
  | done (value : Json)

/-- The containers that are open, the innermost first, and what may come next. -/
structure Machine where
  stack : List Frame
  expect : Expect

/-- The largest number of containers that may be open at a time. -/
def maxDepth : Nat := 127

/-- A value is complete: it goes into the innermost container. -/
def Machine.finish (stack : List Frame) (value : Json) : Machine :=
  match stack with
  | [] => ⟨[], .done value⟩
  | .array items :: rest => ⟨.array (items ++ [value]) :: rest, .next⟩
  | .object entries key :: rest => ⟨.object (entries.put key value) key :: rest, .next⟩

/-- Opens a container, unless too many are open. -/
def Machine.enter? (stack : List Frame) (frame : Frame) (expect : Expect) : Option Machine :=
  if maxDepth ≤ stack.length then none else some ⟨frame :: stack, expect⟩

/-- Closes the innermost container if it is an array. -/
def Machine.closeArray? : List Frame → Option Machine
  | .array items :: rest => some (finish rest (.array items))
  | _ => none

/-- Closes the innermost container if it is an object. -/
def Machine.closeObject? : List Frame → Option Machine
  | .object entries _ :: rest => some (finish rest (.object entries))
  | _ => none

/-- One token. -/
def Machine.step? (m : Machine) (t : Token) : Option Machine :=
  match m.expect, t with
  | .value _, .scalar v => some (finish m.stack v)
  | .value _, .openArray => enter? m.stack (.array []) (.value true)
  | .value _, .openObject => enter? m.stack (.object [] "") (.key true)
  | .value true, .closeArray => closeArray? m.stack
  | .key _, .scalar (.string key) =>
    match m.stack with
    | .object entries _ :: rest => some ⟨.object entries key :: rest, .colon⟩
    | _ => none
  | .key true, .closeObject => closeObject? m.stack
  | .colon, .colon => some ⟨m.stack, .value false⟩
  | .next, .comma =>
    match m.stack with
    | .array _ :: _ => some ⟨m.stack, .value false⟩
    | .object .. :: _ => some ⟨m.stack, .key false⟩
    | [] => none
  | .next, .closeArray => closeArray? m.stack
  | .next, .closeObject => closeObject? m.stack
  | _, _ => none

/-- Reads a document. A repeated key keeps its first place and its last value. -/
def read? (text : String) : Option Json := do
  let ts ← tokens? text.toList
  let m ← ts.foldlM Machine.step? ⟨[], .value false⟩
  match m.expect with
  | .done value => some value
  | _ => none

end DisplayLayout.Json
