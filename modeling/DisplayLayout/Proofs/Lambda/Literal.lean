import DisplayLayout.Lambda.Literal
import DisplayLayout.Proofs.Text.Escapes

/-!
# Literals denote the text of the user

A reader of literals that resolves their escapes, and one of formats that takes
no arguments. A literal with a text is read as the text without its carriage
returns, whatever stands behind the literal, and a format that prints a text is
read as a format that expands to the same (`Lambda.literals_denote`).
-/

namespace DisplayLayout.Lambda

open Text

/-! ## Readers -/

/-- The character that an escape stands for. -/
def escaped? : Char → Option Char
  | '"' => some '"'
  | '\\' => some '\\'
  | 'n' => some '\n'
  | 't' => some '\t'
  | _ => none

/-- Reads a literal behind its opening quote: the text that it denotes, and what stands behind the
quote that closes it. A literal does not go on on the next line. -/
def readText? : List Char → Option (List Char × List Char)
  | [] => none
  | '"' :: rest => some ([], rest)
  | '\n' :: _ => none
  | '\\' :: c :: rest =>
    (escaped? c).bind fun d => (readText? rest).map fun p => (d :: p.1, p.2)
  | c :: rest => (readText? rest).map fun p => (c :: p.1, p.2)

/-- Expands a format that is given no arguments, so that every percent sign has to be doubled. -/
def expand? : List Char → Option (List Char)
  | [] => some []
  | '%' :: '%' :: rest => (expand? rest).map ('%' :: ·)
  | '%' :: _ => none
  | c :: rest => (expand? rest).map (c :: ·)

/-- What is shown of a text. -/
def shown (s : String) : List Char := s.toList.filter (· ≠ '\r')

/-- The contents of a literal that denotes a text: it is read as the text up to the quote that
closes the literal, and no quote in it does so. -/
structure IsLiteral (contents text : List Char) : Prop where
  reads : ∀ rest, readText? (contents ++ '"' :: rest) = some (text, rest)
  quotes : QuotesEscaped contents

/-! ## Characters of literals -/

/-- What is written for a character: an escape that stands for it, nothing, or the character. -/
theorem escapeChar_cases (c : Char) :
    (c ≠ '\r' ∧ ∃ mark, escapeChar c = ['\\', mark] ∧ escaped? mark = some c)
      ∨ (c = '\r' ∧ escapeChar c = [])
      ∨ (c ≠ '"' ∧ c ≠ '\\' ∧ c ≠ '\n' ∧ c ≠ '\r' ∧ escapeChar c = [c]) := by
  unfold escapeChar
  by_cases hquote : c = '"'
  · subst hquote
    exact Or.inl ⟨by decide, '"', rfl, rfl⟩
  by_cases hslash : c = '\\'
  · subst hslash
    exact Or.inl ⟨by decide, '\\', rfl, rfl⟩
  by_cases hbreak : c = '\n'
  · subst hbreak
    exact Or.inl ⟨by decide, 'n', rfl, rfl⟩
  by_cases hreturn : c = '\r'
  · subst hreturn
    exact Or.inr (Or.inl ⟨rfl, rfl⟩)
  by_cases htab : c = '\t'
  · subst htab
    exact Or.inl ⟨by decide, 't', rfl, rfl⟩
  rw [if_neg hquote, if_neg hslash, if_neg hbreak, if_neg hreturn, if_neg htab]
  exact Or.inr (Or.inr ⟨hquote, hslash, hbreak, hreturn, rfl⟩)

/-- A character that is no mark of an escape is written for itself only. -/
theorem eq_of_mem_escapeChar {c d : Char} (hslash : d ≠ '\\') (hmark : escaped? d = none)
    (h : d ∈ escapeChar c) : d = c ∧ d ≠ '\n' := by
  rcases escapeChar_cases c with ⟨-, mark, heq, hstands⟩ | ⟨-, heq⟩ | ⟨-, -, hbreak, -, heq⟩
  · rw [heq, List.mem_cons, List.mem_singleton] at h
    rcases h with rfl | rfl
    · exact absurd rfl hslash
    · rw [hstands] at hmark
      cases hmark
  · rw [heq] at h
    exact absurd h List.not_mem_nil
  · rw [heq, List.mem_singleton] at h
    exact ⟨h, h ▸ hbreak⟩

/-! ## Pieces of literals -/

/-- A percent sign is doubled in a format. -/
def double (c : Char) : List Char := if c = '%' then ['%', '%'] else [c]

/-- One character of a format. -/
def formatChar (c : Char) : List Char := if c = '%' then ['%', '%'] else escapeChar c

/-- What is shown of a character. -/
def shownChar (c : Char) : List Char := if c = '\r' then [] else [c]

/-- Doubling touches nothing but percent signs. -/
theorem flatMap_double {cs : List Char} (h : '%' ∉ cs) : cs.flatMap double = cs := by
  induction cs with
  | nil => rfl
  | cons c cs ih =>
    rw [List.mem_cons, not_or] at h
    rw [List.flatMap_cons, ih h.2, double, if_neg (Ne.symm h.1), List.singleton_append]

/-- **Doubling does not touch an escape,** so a format is written character by character, too. -/
theorem toList_escapeFormat (s : String) : (escapeFormat s).toList = s.toList.flatMap formatChar := by
  have hchar : ∀ c, (escapeChar c).flatMap double = formatChar c := by
    intro c
    unfold formatChar
    split
    · next hpercent =>
      subst hpercent
      rfl
    · next hpercent =>
      refine flatMap_double fun hmem => hpercent ?_
      exact (eq_of_mem_escapeChar (by decide) rfl hmem).1.symm
  have hreplace : (escapeFormat s).toList = (s.toList.flatMap escapeChar).flatMap double := by
    simp only [escapeFormat, replaceChar, escape, String.toList_ofList]
    rfl
  rw [hreplace, List.flatMap_assoc, funext hchar]

theorem flatMap_shownChar (s : String) : s.toList.flatMap shownChar = shown s := by
  rw [shown]
  induction s.toList with
  | nil => rfl
  | cons c cs ih =>
    rw [List.flatMap_cons, ih, shownChar]
    by_cases h : c = '\r' <;> simp [h]

/-- A piece of a literal that is read as a text, whatever stands behind it. -/
def Denotes (piece text : List Char) : Prop :=
  ∀ rest, readText? (piece ++ rest) = (readText? rest).map fun p => (text ++ p.1, p.2)

theorem Denotes.nil : Denotes [] [] := fun rest => by simp

theorem Denotes.append {as bs text more : List Char} (ha : Denotes as text) (hb : Denotes bs more) :
    Denotes (as ++ bs) (text ++ more) := by
  intro rest
  rw [List.append_assoc, ha, hb, Option.map_map]
  simp [Function.comp_def]

theorem Denotes.flatMap {f g : Char → List Char} (h : ∀ c, Denotes (f c) (g c)) (cs : List Char) :
    Denotes (cs.flatMap f) (cs.flatMap g) := by
  induction cs with
  | nil => exact Denotes.nil
  | cons c cs ih => exact (h c).append ih

theorem Denotes.char {c : Char} (hquote : c ≠ '"') (hslash : c ≠ '\\') (hbreak : c ≠ '\n') :
    Denotes [c] [c] := by
  intro rest
  rw [List.singleton_append, readText?]
  · rfl
  · exact hquote
  · exact hbreak
  · exact fun _ _ h => absurd h hslash

theorem Denotes.escaped {c d : Char} (h : escaped? c = some d) : Denotes ['\\', c] [d] := by
  intro rest
  show readText? ('\\' :: c :: rest) = _
  rw [readText?, h]
  rfl

theorem denotes_escapeChar (c : Char) : Denotes (escapeChar c) (shownChar c) := by
  rcases escapeChar_cases c with ⟨hreturn, mark, heq, hstands⟩ | ⟨rfl, -⟩
    | ⟨hquote, hslash, hbreak, hreturn, heq⟩
  · rw [heq, shownChar, if_neg hreturn]
    exact Denotes.escaped hstands
  · exact Denotes.nil
  · rw [heq, shownChar, if_neg hreturn]
    exact Denotes.char hquote hslash hbreak

/-- A character of a format denotes itself, doubled if it is a percent sign. -/
theorem denotes_formatChar (c : Char) : Denotes (formatChar c) ((shownChar c).flatMap double) := by
  unfold formatChar
  by_cases hpercent : c = '%'
  · subst hpercent
    have hsign : Denotes ['%'] ['%'] := Denotes.char (by decide) (by decide) (by decide)
    exact hsign.append hsign
  · have hsame : (shownChar c).flatMap double = shownChar c := by
      refine flatMap_double ?_
      unfold shownChar
      split
      · exact List.not_mem_nil
      · exact fun hmem => hpercent (List.mem_singleton.1 hmem).symm
    rw [if_neg hpercent, hsame]
    exact denotes_escapeChar c

theorem enclosed_escapeChar (c : Char) : Enclosed (escapeChar c) := by
  rcases escapeChar_cases c with ⟨-, mark, heq, -⟩ | ⟨-, heq⟩ | ⟨hquote, hslash, -, -, heq⟩
  · exact heq ▸ Enclosed.escaped mark
  · exact heq ▸ Enclosed.nil
  · exact heq ▸ Enclosed.char hquote hslash

theorem enclosed_formatChar (c : Char) : Enclosed (formatChar c) := by
  unfold formatChar
  split
  · have hsign : Enclosed ['%'] := Enclosed.char (by decide) (by decide)
    exact hsign.append hsign
  · exact enclosed_escapeChar c

/-! ## Whole literals -/

theorem isLiteral_of_denotes {contents text : List Char} (h : Denotes contents text)
    (hquotes : Enclosed contents) : IsLiteral contents text where
  reads rest := by
    rw [h, readText?, Option.map_some, List.append_nil]
  quotes := hquotes.quotes

/-- A text of which every percent sign is doubled expands to itself. -/
theorem expand?_flatMap_double (cs : List Char) : expand? (cs.flatMap double) = some cs := by
  induction cs with
  | nil => rfl
  | cons c cs ih =>
    rw [List.flatMap_cons, double]
    split
    · next h =>
      subst h
      show expand? ('%' :: '%' :: cs.flatMap double) = _
      rw [expand?, ih]
      rfl
    · next h =>
      rw [List.singleton_append, expand?, ih]
      · rfl
      · exact fun _ hsign => absurd hsign h
      · exact h

/-- **A literal denotes the text of the user,** without its carriage returns, and so does a format
that is printed without arguments. -/
theorem literals_denote (s : String) :
    IsLiteral (escape s).toList (shown s)
      ∧ ∃ format, IsLiteral (escapeFormat s).toList format ∧ expand? format = some (shown s) := by
  constructor
  · rw [escape, String.toList_ofList, ← flatMap_shownChar]
    exact isLiteral_of_denotes (Denotes.flatMap denotes_escapeChar _)
      (Enclosed.flatMap fun c _ => enclosed_escapeChar c)
  · refine ⟨(shown s).flatMap double, ?_, expand?_flatMap_double _⟩
    rw [toList_escapeFormat, ← flatMap_shownChar, List.flatMap_assoc]
    exact isLiteral_of_denotes (Denotes.flatMap denotes_formatChar _)
      (Enclosed.flatMap fun c _ => enclosed_formatChar c)

end DisplayLayout.Lambda
