import DisplayLayout.Proofs.Text.Escapes
import DisplayLayout.Proofs.Text.Words
import DisplayLayout.Yaml

/-!
# Scalars in double quotes

A reader of the escapes that stand between double quotes: a mark of one letter,
or the code of a character in two or eight hexadecimal digits. It ends at the
first quote that no backslash escapes and leaves what follows. Every text comes
back from its quoted form, whatever stands behind (`Yaml.readQuoted?_escape`),
and the quoted form is printable ASCII with no quote of its own inside
(`Yaml.isQuoted_quoted`).
-/

namespace DisplayLayout.Yaml

open Text

/-! ## Reading escapes -/

/-- The character with a code. -/
def charAt? (n : Nat) : Option Char := if n.isValidChar then some (Char.ofNat n) else none

/-- Reads the code of a character, in so many hexadecimal digits. -/
def readCode? (width : Nat) (cs : List Char) : Option (Char × List Char) :=
  if cs.length < width then none
  else ((Numeric.readHex? (cs.take width)).bind charAt?).map (·, cs.drop width)

/-- Reads what stands behind a backslash. -/
def readEscape? : List Char → Option (Char × List Char)
  | '"' :: rest => some ('"', rest)
  | '\\' :: rest => some ('\\', rest)
  | 'n' :: rest => some ('\n', rest)
  | 't' :: rest => some ('\t', rest)
  | 'x' :: rest => readCode? 2 rest
  | 'U' :: rest => readCode? 8 rest
  | _ => none

theorem readCode?_length {width : Nat} {cs more : List Char} {c : Char}
    (h : readCode? width cs = some (c, more)) : more.length ≤ cs.length := by
  rw [readCode?] at h
  split at h
  · cases h
  · obtain ⟨d, -, heq⟩ := Option.map_eq_some_iff.1 h
    cases heq
    exact (List.drop_sublist width cs).length_le

/-- An escape takes at least its mark. -/
theorem readEscape?_length {cs more : List Char} {c : Char}
    (h : readEscape? cs = some (c, more)) : more.length < cs.length := by
  unfold readEscape? at h
  split at h
  · cases h; exact Nat.lt_succ_self _
  · cases h; exact Nat.lt_succ_self _
  · cases h; exact Nat.lt_succ_self _
  · cases h; exact Nat.lt_succ_self _
  · exact Nat.lt_succ_of_le (readCode?_length h)
  · exact Nat.lt_succ_of_le (readCode?_length h)
  · cases h

/-- Reads up to the closing quote: the text, and what follows the quote. -/
def readQuoted? : List Char → Option (List Char × List Char)
  | [] => none
  | '"' :: rest => some ([], rest)
  | '\\' :: rest =>
    match _h : readEscape? rest with
    | some (c, more) => (readQuoted? more).map fun (cs, behind) => (c :: cs, behind)
    | none => none
  | c :: rest => (readQuoted? rest).map fun (cs, behind) => (c :: cs, behind)
termination_by cs => cs.length
decreasing_by
  · exact Nat.lt_succ_of_lt (readEscape?_length _h)
  · exact Nat.lt_succ_self _

/-! ## One character -/

theorem charAt?_toNat (c : Char) : charAt? c.toNat = some c := by
  have hvalid : c.toNat.isValidChar := c.valid
  rw [charAt?, if_pos hvalid, Char.ofNat_toNat]

theorem readHex?_hexText (width n : Nat) :
    Numeric.readHex? (hexText width n) = some (n % Nat.pow 16 width) := Numeric.readHex?_upper width n

theorem length_hexText (width n : Nat) : (hexText width n).length = width := by
  rw [hexText, List.length_map, Numeric.length_hexDigits]

/-- A code that has room in its digits reads back as its character. -/
theorem readCode?_hexText {width : Nat} {c : Char} (h : c.toNat < Nat.pow 16 width) (rest : List Char) :
    readCode? width (hexText width c.toNat ++ rest) = some (c, rest) := by
  have hroom : ¬(hexText width c.toNat ++ rest).length < width := by
    rw [List.length_append, length_hexText]
    omega
  rw [readCode?, if_neg hroom, List.take_left' (length_hexText width _),
    List.drop_left' (length_hexText width _), readHex?_hexText, Nat.mod_eq_of_lt h, Option.bind_some,
    charAt?_toNat]
  rfl

theorem toNat_lt (c : Char) : c.toNat < Nat.pow 16 8 := c.val.toNat_lt

theorem isPlainChar_of_isWordChar {c : Char} (h : isWordChar c = true) : isPlainChar c = true := by
  have hcode := toNat_of_isWordChar h
  simp only [isPlainChar, Bool.and_eq_true, decide_eq_true_eq]
  omega

theorem isWordChar_of_mem_hexText {c : Char} {width n : Nat} (h : c ∈ hexText width n) :
    isWordChar c = true := by
  rw [hexText] at h
  obtain ⟨d, hd, rfl⟩ := List.mem_map.1 h
  exact isWordChar_toUpper_of_mem_hexDigits hd

/-- **What is written for a character:** an escape that is read as it, with a mark and digits, or the
character, if it is printable ASCII. -/
theorem escapeChar_cases (c : Char) :
    (∃ mark digits, escapeChar c = '\\' :: mark :: digits ∧ isPlainChar mark = true
        ∧ (∀ d ∈ digits, isWordChar d = true)
        ∧ ∀ rest, readEscape? (mark :: (digits ++ rest)) = some (c, rest))
      ∨ (c ≠ '"' ∧ c ≠ '\\' ∧ isPlainChar c = true ∧ escapeChar c = [c]) := by
  have hnone : ∀ d ∈ ([] : List Char), isWordChar d = true := List.forall_mem_nil _
  unfold escapeChar
  by_cases hquote : c = '"'
  · subst hquote
    exact Or.inl ⟨'"', [], rfl, by decide, hnone, fun _ => rfl⟩
  by_cases hslash : c = '\\'
  · subst hslash
    exact Or.inl ⟨'\\', [], rfl, by decide, hnone, fun _ => rfl⟩
  by_cases hbreak : c = '\n'
  · subst hbreak
    exact Or.inl ⟨'n', [], rfl, by decide, hnone, fun _ => rfl⟩
  by_cases htab : c = '\t'
  · subst htab
    exact Or.inl ⟨'t', [], rfl, by decide, hnone, fun _ => rfl⟩
  rw [if_neg hquote, if_neg hslash, if_neg hbreak, if_neg htab]
  split
  · next hcontrol =>
    -- Two digits hold every control character of ASCII.
    have hroom : c.toNat < 256 := by omega
    exact Or.inl ⟨'x', hexText 2 c.toNat, rfl, by decide, fun _ => isWordChar_of_mem_hexText,
      readCode?_hexText hroom⟩
  · split
    · exact Or.inl ⟨'U', hexText 8 c.toNat, rfl, by decide, fun _ => isWordChar_of_mem_hexText,
        readCode?_hexText (toNat_lt c)⟩
    · refine Or.inr ⟨hquote, hslash, ?_, rfl⟩
      simp only [isPlainChar, Bool.and_eq_true, decide_eq_true_eq]
      omega

theorem readQuoted?_escaped {cs more : List Char} {c : Char}
    (h : readEscape? cs = some (c, more)) :
    readQuoted? ('\\' :: cs) = (readQuoted? more).map fun (t, behind) => (c :: t, behind) := by
  rw [readQuoted?]
  split
  · next d rest hread =>
    rw [h] at hread
    cases hread
    rfl
  · next hread =>
    rw [h] at hread
    cases hread

/-- **A character comes back from its escape,** and what follows it is read as before. -/
theorem readQuoted?_escapeChar (c : Char) (rest : List Char) :
    readQuoted? (escapeChar c ++ rest)
      = (readQuoted? rest).map fun (t, behind) => (c :: t, behind) := by
  rcases escapeChar_cases c with ⟨mark, digits, heq, -, -, hread⟩ | ⟨hquote, hslash, -, heq⟩
  · rw [heq, List.cons_append, List.cons_append]
    exact readQuoted?_escaped (hread rest)
  · rw [heq, List.singleton_append, readQuoted?]
    · exact hquote
    · exact hslash

/-! ## Whole texts -/

/-- **Every text comes back from its quoted form,** and the reader stops right behind it. -/
theorem readQuoted?_escape (cs rest : List Char) :
    readQuoted? (cs.flatMap escapeChar ++ '"' :: rest) = some (cs, rest) := by
  induction cs with
  | nil => rw [List.flatMap_nil, List.nil_append, readQuoted?]
  | cons c cs ih =>
    rw [List.flatMap_cons, List.append_assoc, readQuoted?_escapeChar, ih]
    rfl

theorem toList_quoted (s : String) :
    (quoted s).toList = '"' :: (s.toList.flatMap escapeChar ++ ['"']) := by
  rw [quoted, String.toList_ofList]
  rfl

/-! ## The quoted form -/

/-- **What is written for a character is printable ASCII.** -/
theorem isPlainChar_of_mem_escapeChar {c d : Char} (h : d ∈ escapeChar c) : isPlainChar d = true := by
  rcases escapeChar_cases c with ⟨mark, digits, heq, hmark, hdigits, -⟩ | ⟨-, -, hplain, heq⟩
  · rw [heq, List.mem_cons, List.mem_cons] at h
    rcases h with rfl | rfl | h
    · decide
    · exact hmark
    · exact isPlainChar_of_isWordChar (hdigits d h)
  · rw [heq, List.mem_singleton] at h
    exact h ▸ hplain

theorem isPlainChar_of_mem_quoted {s : String} {c : Char} (h : c ∈ (quoted s).toList) :
    isPlainChar c = true := by
  rw [toList_quoted, List.mem_cons, List.mem_append, List.mem_flatMap, List.mem_singleton] at h
  rcases h with rfl | ⟨d, -, h⟩ | rfl
  · decide
  · exact isPlainChar_of_mem_escapeChar h
  · decide

theorem enclosed_escapeChar (c : Char) : Enclosed (escapeChar c) := by
  rcases escapeChar_cases c with ⟨mark, digits, heq, -, hdigits, -⟩ | ⟨hquote, hslash, -, heq⟩
  · have hplain : Enclosed digits := Enclosed.chars fun d hd =>
      ⟨ne_of_isWordChar (hdigits d hd) (by decide), ne_of_isWordChar (hdigits d hd) (by decide)⟩
    rw [heq]
    exact (Enclosed.escaped mark).append hplain
  · exact heq ▸ Enclosed.char hquote hslash

/-- A scalar in double quotes that stands for a text. -/
structure IsQuoted (scalar text : List Char) : Prop where
  /-- It is printable ASCII. -/
  printable : ∀ c ∈ scalar, 0x20 ≤ c.toNat ∧ c.toNat ≤ 0x7E
  /-- Between its quotes all quotes are escaped, and what stands there is read as the text, up to the
  closing quote and no further. -/
  framed : ∃ inside, scalar = '"' :: (inside ++ ['"']) ∧ QuotesEscaped inside
    ∧ ∀ rest, readQuoted? (inside ++ '"' :: rest) = some (text, rest)

/-- **Every text has a quoted form,** in printable ASCII, that stands for it. -/
theorem isQuoted_quoted (s : String) : IsQuoted (quoted s).toList s.toList where
  printable c hc := by
    have hplain := isPlainChar_of_mem_quoted hc
    simp only [isPlainChar, Bool.and_eq_true, decide_eq_true_eq] at hplain
    omega
  framed := ⟨_, toList_quoted s, (Enclosed.flatMap fun c _ => enclosed_escapeChar c).quotes,
    readQuoted?_escape s.toList⟩

end DisplayLayout.Yaml
