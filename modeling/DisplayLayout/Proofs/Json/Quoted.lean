import DisplayLayout.Json.Printer
import DisplayLayout.Json.Reader

/-!
# Texts in quotes are read back

A text of a document is written behind escapes. Its reader stops at the closing
quote and gives the text back (`Json.scanString?_escape`), so texts that are
written alike are the same (`Json.quoted_inj`).
-/

namespace DisplayLayout.Json

/-- A code below those of halves is that of a character, whatever follows. -/
theorem scanString?_code {a b c d : Char} {n : Nat} (h : Numeric.readHex? [a, b, c, d] = some n)
    (hn : n < 0xD800) (rest : List Char) :
    scanString? ('\\' :: 'u' :: a :: b :: c :: d :: rest)
      = consRead (Char.ofNat n) (scanString? rest) := by
  have hhigh : isHighHalf n = false := by
    rw [isHighHalf, Bool.and_eq_false_iff, decide_eq_false_iff_not, decide_eq_false_iff_not]
    omega
  have hlow : isLowHalf n = false := by
    rw [isLowHalf, Bool.and_eq_false_iff, decide_eq_false_iff_not, decide_eq_false_iff_not]
    omega
  rw [scanString?.eq_def]
  split
  · next heq => cases heq
  · next heq => cases heq
  · next heq =>
    cases heq
    simp only [h, hhigh, hlow]
    rfl
  · next heq =>
    cases heq
    simp only [h, hhigh, hlow]
    rfl
  · next _ hcode heq =>
    cases heq
    exact (hcode a b c d _ rfl rfl).elim
  · next hescape heq =>
    cases heq
    exact (hescape 'u' _ rfl rfl).elim

theorem scanString?_simple {c d : Char} (hc : simpleEscape? c = some d) (hu : c ≠ 'u')
    (rest : List Char) :
    scanString? ('\\' :: c :: rest) = consRead d (scanString? rest) := by
  rw [scanString?.eq_def]
  split
  · next heq => cases heq
  · next heq => cases heq
  · next heq =>
    cases heq
    exact absurd rfl hu
  · next heq =>
    cases heq
    exact absurd rfl hu
  · next heq =>
    cases heq
    simp only [hc]
  · next hescape heq =>
    cases heq
    exact (hescape c _ rfl rfl).elim

theorem scanString?_plain {c : Char} (hquote : c ≠ '"') (hslash : c ≠ '\\') (hroom : 0x20 ≤ c.toNat)
    (rest : List Char) : scanString? (c :: rest) = consRead c (scanString? rest) := by
  rw [scanString?.eq_def]
  split
  · next heq => cases heq
  · next heq =>
    cases heq
    exact absurd rfl hquote
  · next heq =>
    cases heq
    exact absurd rfl hslash
  · next heq =>
    cases heq
    exact absurd rfl hslash
  · next heq =>
    cases heq
    exact absurd rfl hslash
  · next heq =>
    cases heq
    rw [if_neg (not_or.2 ⟨Nat.not_lt.2 hroom, hslash⟩)]

/-- **A character comes back from its escape,** and what follows it is read as before. -/
theorem scanString?_escapeChar (c : Char) (rest : List Char) :
    scanString? (escapeChar c ++ rest) = consRead c (scanString? rest) := by
  rw [escapeChar]
  by_cases hquote : c = '"'
  · subst hquote
    exact scanString?_simple rfl (by decide) rest
  rw [if_neg hquote]
  by_cases hslash : c = '\\'
  · subst hslash
    exact scanString?_simple rfl (by decide) rest
  rw [if_neg hslash]
  by_cases hbreak : c = '\n'
  · subst hbreak
    exact scanString?_simple rfl (by decide) rest
  rw [if_neg hbreak]
  by_cases hreturn : c = '\r'
  · subst hreturn
    exact scanString?_simple rfl (by decide) rest
  rw [if_neg hreturn]
  by_cases htab : c = '\t'
  · subst htab
    exact scanString?_simple rfl (by decide) rest
  rw [if_neg htab]
  by_cases hback : c.toNat = 8
  · rw [if_pos hback]
    refine scanString?_simple ?_ (by decide) rest
    rw [← Char.ofNat_toNat c, hback]
    rfl
  rw [if_neg hback]
  by_cases hfeed : c.toNat = 12
  · rw [if_pos hfeed]
    refine scanString?_simple ?_ (by decide) rest
    rw [← Char.ofNat_toNat c, hfeed]
    rfl
  rw [if_neg hfeed]
  by_cases hcontrol : c.toNat < 0x20
  · rw [if_pos hcontrol]
    have hread := Numeric.readHex?_hexDigits 4 c.toNat
    rw [Nat.mod_eq_of_lt (Nat.lt_trans hcontrol (by decide))] at hread
    have hcode := scanString?_code hread (Nat.lt_trans hcontrol (by decide)) rest
    rwa [Char.ofNat_toNat] at hcode
  · rw [if_neg hcontrol]
    exact scanString?_plain hquote hslash (Nat.le_of_not_lt hcontrol) rest

/-- **Every text comes back from its escapes,** and the reader stops right behind the quote. -/
theorem scanString?_escape (cs rest : List Char) :
    scanString? (cs.flatMap escapeChar ++ '"' :: rest) = some (cs, rest) := by
  induction cs with
  | nil => rw [List.flatMap_nil, List.nil_append, scanString?]
  | cons c cs ih =>
    rw [List.flatMap_cons, List.append_assoc, scanString?_escapeChar, ih]
    rfl

/-- Texts that are written alike are the same. -/
theorem quoted_inj {s t : String} (h : quoted s = quoted t) : s = t := by
  have hchars := congrArg (fun text => scanString? text.toList.tail) h
  have hread : ∀ text : String,
      scanString? (quoted text).toList.tail = some (text.toList, []) := by
    intro text
    rw [quoted, String.toList_ofList]
    exact scanString?_escape text.toList []
  rw [hread, hread, Option.some.injEq, Prod.mk.injEq] at hchars
  exact String.toList_inj.1 hchars.1

end DisplayLayout.Json
