import DisplayLayout.Json.Basic
import DisplayLayout.Proofs.Text.Lines

/-!
# Decimal numerals

An integer that is written in decimal reads back as itself
(`readSigned?_toString`), whatever reader of integers is asked, and its numeral
holds neither blanks nor line breaks. The texts of floating-point numbers stay
on one line as well (`oneLine_plainText`).
-/

namespace DisplayLayout.Numeric

/-! ## Natural numbers -/

theorem isDigit_of_mem_toString {n : Nat} {c : Char} (h : c ∈ (toString n).toList) :
    c.isDigit = true := by
  rw [Nat.toString_eq_ofList_toDigits, String.toList_ofList] at h
  exact Nat.isDigit_of_mem_toDigits (by decide) (by decide) h

theorem notMem_toString {c : Char} (hc : c.isDigit = false) (n : Nat) : c ∉ (toString n).toList := by
  intro hmem
  rw [isDigit_of_mem_toString hmem] at hc
  exact Bool.noConfusion hc

theorem ofDigits_toString (n : Nat) : ofDigits (toString n).toList = n := by
  rw [Nat.toString_eq_ofList_toDigits, String.toList_ofList]
  exact Nat.ofDigitChars_ten_toDigits

theorem toString_ne_nil (n : Nat) : (toString n).toList ≠ [] := by
  rw [Nat.toString_eq_ofList_toDigits, String.toList_ofList]
  exact Nat.toDigits_ne_nil

/-- **A natural number reads back as itself.** -/
theorem readDigits?_toString (n : Nat) : readDigits? (toString n).toList = some n := by
  have hall : (toString n).toList.all Char.isDigit = true :=
    List.all_eq_true.2 fun c hc => isDigit_of_mem_toString hc
  rw [readDigits?, if_neg (by simp), if_pos hall, ofDigits_toString]

/-- The first digit of a numeral is no sign. -/
theorem exists_digit_cons (n : Nat) :
    ∃ c cs, (toString n).toList = c :: cs ∧ c.isDigit = true := by
  obtain ⟨c, cs, h⟩ := List.exists_cons_of_ne_nil (toString_ne_nil n)
  exact ⟨c, cs, h, isDigit_of_mem_toString (h ▸ List.mem_cons_self)⟩

theorem readUnsigned?_toString (n : Nat) : readUnsigned? (toString n).toList = some n := by
  obtain ⟨c, cs, h, hc⟩ := exists_digit_cons n
  have hplus : c ≠ '+' := by
    rintro rfl
    exact absurd hc (by decide)
  have hread := readDigits?_toString n
  rw [h] at hread ⊢
  rw [readUnsigned?]
  · exact hread
  · simpa using hplus

theorem readWord32?_toString {n : Nat} (h : n ≤ maxWord32) :
    readWord32? (toString n) = some n := by
  rw [readWord32?, readUnsigned?_toString, Option.filter_some, if_pos (by simpa using h)]

/-- Texts with a number behind an underscore tell the front and the number. -/
theorem numbered_inj {front front' : String} {m n : Nat}
    (h : front ++ s!"_{m}" = front' ++ s!"_{n}") : front = front' ∧ m = n := by
  have hdigits := notMem_toString (c := '_') (by decide)
  have hchars : ∀ (s : String) (k : Nat), (s ++ s!"_{k}").toList
      = s.toList ++ '_' :: (toString k).toList := by
    intro s k
    have hmark : s!"_{k}" = "_" ++ toString k := rfl
    rw [hmark, String.toList_append, String.toList_append]
    rfl
  rw [← String.toList_inj, hchars, hchars] at h
  obtain ⟨hfront, hnumber⟩ := Text.append_sep_inj (hdigits m) (hdigits n) h
  refine ⟨String.toList_inj.1 hfront, ?_⟩
  have hread := congrArg ofDigits hnumber
  rwa [ofDigits_toString, ofDigits_toString] at hread

/-! ## Integers -/

theorem toString_natCast (n : Nat) : toString (n : Int) = toString n := by
  rw [Int.toString_eq_repr, Int.repr_eq_if, if_pos (Int.natCast_nonneg n), Int.toNat_natCast]
  rfl

theorem toString_neg_natCast {n : Nat} (h : 0 < n) :
    toString (-(n : Int)) = "-" ++ toString n := by
  rw [Int.toString_eq_repr, Int.repr_eq_if, if_neg (by omega), Int.neg_neg, Int.toNat_natCast]
  rfl

/-- An integer is a natural number or the negative of a positive one. -/
theorem natCast_or_neg (n : Int) : (∃ k : Nat, n = k) ∨ ∃ k : Nat, 0 < k ∧ n = -(k : Int) := by
  by_cases h : n < 0
  · exact Or.inr ⟨n.natAbs, by omega, by omega⟩
  · exact Or.inl ⟨n.toNat, by omega⟩

/-- The characters of a numeral: digits and the minus. -/
theorem mem_toString_int {n : Int} {c : Char} (h : c ∈ (toString n).toList) :
    c.isDigit = true ∨ c = '-' := by
  rcases natCast_or_neg n with ⟨k, rfl⟩ | ⟨k, hk, rfl⟩
  · rw [toString_natCast] at h
    exact Or.inl (isDigit_of_mem_toString h)
  · rw [toString_neg_natCast hk, String.toList_append, List.mem_append] at h
    rcases h with h | h
    · exact Or.inr (List.mem_singleton.1 h)
    · exact Or.inl (isDigit_of_mem_toString h)

theorem notMem_toString_int {c : Char} (hdigit : c.isDigit = false) (hsign : c ≠ '-') (n : Int) :
    c ∉ (toString n).toList := by
  intro hmem
  rcases mem_toString_int hmem with h | h
  · rw [hdigit] at h
    cases h
  · exact hsign h

/-- **An integer reads back as itself.** -/
theorem readSigned?_toString (n : Int) : readSigned? (toString n).toList = some n := by
  rcases natCast_or_neg n with ⟨k, rfl⟩ | ⟨k, hk, rfl⟩
  · rw [toString_natCast]
    obtain ⟨c, cs, h, hc⟩ := exists_digit_cons k
    have hminus : c ≠ '-' := by
      rintro rfl
      exact absurd hc (by decide)
    have hplus : c ≠ '+' := by
      rintro rfl
      exact absurd hc (by decide)
    have hread := readDigits?_toString k
    rw [h] at hread ⊢
    rw [readSigned?]
    · rw [hread]
      rfl
    · simpa using hminus
    · simpa using hplus
  · rw [toString_neg_natCast hk, String.toList_append]
    show readSigned? ('-' :: (toString k).toList) = _
    rw [readSigned?, readDigits?_toString]
    rfl

theorem readInt64?_toString {n : Int} (h : isInt64 n = true) :
    readInt64? (toString n) = some n := by
  rw [readInt64?, readSigned?_toString, Option.filter_some, if_pos h]

/-! ## Blanks and line breaks -/

theorem isBlank_eq_false_of_isDigit {c : Char} (h : c.isDigit = true) :
    Text.isBlank c = false := by
  rw [Char.isDigit_iff_toNat] at h
  have h0 : 48 ≤ c.toNat := h.1
  have h9 : c.toNat ≤ 57 := h.2
  simp only [Text.isBlank, Bool.or_eq_false_iff, Bool.and_eq_false_iff, decide_eq_false_iff_not,
    beq_eq_false_iff_ne, ne_eq]
  omega

theorem isBlank_of_mem_toString_int {n : Int} {c : Char} (h : c ∈ (toString n).toList) :
    Text.isBlank c = false := by
  rcases mem_toString_int h with h | rfl
  · exact isBlank_eq_false_of_isDigit h
  · decide

theorem trimChars_toString (n : Int) : Text.trimChars (toString n).toList = (toString n).toList :=
  Text.trimChars_eq_self
    (fun _ hc => isBlank_of_mem_toString_int (List.mem_of_head? hc))
    (fun _ hc => isBlank_of_mem_toString_int (List.mem_of_getLast? hc))

theorem trim_toString (n : Int) : Text.trim (toString n) = toString n := by
  rw [Text.trim, trimChars_toString, String.ofList_toList]

@[simp] theorem oneLine_toString_int (n : Int) : Text.OneLine (toString n) := by
  intro h
  exact absurd (isBlank_of_mem_toString_int h) (by decide)

@[simp] theorem oneLine_toString_nat (n : Nat) : Text.OneLine (toString n) := by
  rw [← toString_natCast]
  exact oneLine_toString_int n

theorem integerOfText?_toString {n : Int} (h : isInt64 n = true) :
    Json.integerOfText? (toString n) = some n := by
  rw [Json.integerOfText?, trim_toString, readInt64?_toString h]

/-! ## Ranges -/

theorem isInt32_iff {n : Int} : isInt32 n = true ↔ -2147483648 ≤ n ∧ n ≤ 2147483647 := by
  simp only [isInt32, Bool.and_eq_true, decide_eq_true_eq]
  rfl

theorem isInt64_iff {n : Int} :
    isInt64 n = true ↔ -9223372036854775808 ≤ n ∧ n ≤ 9223372036854775807 := by
  simp only [isInt64, Bool.and_eq_true, decide_eq_true_eq]
  rfl

theorem isInt64_of_isInt32 {n : Int} (h : isInt32 n = true) : isInt64 n = true := by
  rw [isInt32_iff] at h
  rw [isInt64_iff]
  omega

theorem clampInt32_of_isInt32 {n : Int} (h : isInt32 n = true) : clampInt32 n = n := by
  rw [isInt32_iff] at h
  rw [clampInt32, minInt32, maxInt32]
  omega

theorem isInt32_clampInt32 (n : Int) : isInt32 (clampInt32 n) = true := by
  rw [isInt32_iff, clampInt32, minInt32, maxInt32]
  omega

theorem isInt64_clampInt64 (n : Int) : isInt64 (clampInt64 n) = true := by
  rw [isInt64_iff, clampInt64, minInt64, maxInt64]
  omega

/-! ## Floating-point numbers -/

/-- The characters of the texts of numbers: letters, digits, signs and the point. -/
def isNumberChar (c : Char) : Bool := c.isAlphanum || c == '.' || c == '-' || c == '+'

theorem isNumberChar_of_isDigit {c : Char} (h : c.isDigit = true) : isNumberChar c = true := by
  simp [isNumberChar, Char.isAlphanum, h]

theorem isNumberChar_of_mem_decimalDigits {n : Nat} {c : Char} (h : c ∈ decimalDigits n) :
    isNumberChar c = true :=
  isNumberChar_of_isDigit (Nat.isDigit_of_mem_toDigits (by decide) (by decide) h)

theorem mem_of_mem_trimZeros {ds : List Char} {c : Char} (h : c ∈ trimZeros ds) : c ∈ ds := by
  rw [trimZeros, List.mem_reverse] at h
  exact List.mem_reverse.1 ((List.dropWhile_sublist _).subset h)

theorem isNumberChar_of_mem_zeros {n : Nat} {c : Char} (h : c ∈ zeros n) :
    isNumberChar c = true := by
  rw [List.eq_of_mem_replicate h]
  decide

theorem isNumberChar_of_mem_shortest {tie : Tie} {m : Nat} {e : Int} {c : Char}
    (h : c ∈ (shortest tie m e).digits) : isNumberChar c = true := by
  have search : ∀ (i : Interval) (point : Int) (left count : Nat),
      c ∈ (searchGrids tie i point count left).digits → isNumberChar c = true := by
    intro i point left
    induction left with
    | zero =>
      intro count hc
      exact isNumberChar_of_mem_decimalDigits (mem_of_mem_trimZeros hc)
    | succ left ih =>
      intro count hc
      rw [searchGrids] at hc
      dsimp only at hc
      split at hc
      · exact isNumberChar_of_mem_decimalDigits (mem_of_mem_trimZeros hc)
      · exact ih (count + 1) hc
  exact search _ _ _ _ h

theorem isNumberChar_of_mem_positionalText {pointZero : Bool} {d : Digits} {c : Char}
    (hd : ∀ c ∈ d.digits, isNumberChar c = true) (h : c ∈ positionalText pointZero d) :
    isNumberChar c = true := by
  have hpoint : isNumberChar '.' = true := by decide
  have hzero : isNumberChar '0' = true := by decide
  rw [positionalText] at h
  split at h
  · simp only [List.cons_append, List.mem_cons, List.mem_append] at h
    rcases h with rfl | rfl | h | h
    · exact hzero
    · exact hpoint
    · exact isNumberChar_of_mem_zeros h
    · exact hd c h
  · dsimp only at h
    split at h
    · rw [List.mem_append, List.mem_append] at h
      rcases h with (h | h) | h
      · exact hd c h
      · exact isNumberChar_of_mem_zeros h
      · split at h
        · simp only [List.mem_cons, List.not_mem_nil, or_false] at h
          rcases h with rfl | rfl
          · exact hpoint
          · exact hzero
        · exact absurd h List.not_mem_nil
    · rw [List.mem_append, List.mem_cons] at h
      rcases h with h | rfl | h
      · exact hd c (List.mem_of_mem_take h)
      · exact hpoint
      · exact hd c (List.mem_of_mem_drop h)

theorem isNumberChar_of_mem_scientificText {d : Digits} {c : Char}
    (hd : ∀ c ∈ d.digits, isNumberChar c = true) (h : c ∈ scientificText d) :
    isNumberChar c = true := by
  rw [scientificText, List.mem_append, List.mem_append] at h
  rcases h with (h | h) | h
  · exact hd c (List.mem_of_mem_take h)
  · split at h
    · exact absurd h List.not_mem_nil
    · rcases List.mem_cons.1 h with rfl | h
      · decide
      · exact hd c (List.mem_of_mem_drop h)
  · rcases List.mem_cons.1 h with rfl | h
    · decide
    · rcases List.mem_cons.1 h with rfl | h
      · split <;> decide
      · exact isNumberChar_of_mem_decimalDigits h

/-- The text of a number in any layout is made of letters, digits, signs and points. -/
theorem isNumberChar_of_mem_render {layout : Layout} {x : Binary64} {c : Char}
    (h : c ∈ (layout.render x).toList) : isNumberChar c = true := by
  cases x with
  | nan =>
    have : ∀ c ∈ "NaN".toList, isNumberChar c = true := List.all_eq_true.1 (by decide)
    exact this c h
  | infinite negative =>
    have plain : ∀ c ∈ "inf".toList, isNumberChar c = true := List.all_eq_true.1 (by decide)
    have signed : ∀ c ∈ "-inf".toList, isNumberChar c = true := List.all_eq_true.1 (by decide)
    cases negative with
    | true => exact signed c h
    | false => exact plain c h
  | finite negative m e =>
    rw [Layout.render, String.toList_ofList] at h
    have body : ∀ c ∈ (if m = 0 then positionalText layout.pointZero ⟨['0'], 0⟩
        else
          let d := shortest layout.tie m e
          if layout.positional d.point then positionalText layout.pointZero d
          else scientificText d), isNumberChar c = true := by
      intro c hc
      split at hc
      · exact isNumberChar_of_mem_positionalText (List.all_eq_true.1 (by decide)) hc
      · dsimp only at hc
        split at hc
        · exact isNumberChar_of_mem_positionalText (fun _ => isNumberChar_of_mem_shortest) hc
        · exact isNumberChar_of_mem_scientificText (fun _ => isNumberChar_of_mem_shortest) hc
    split at h
    · rcases List.mem_cons.1 h with rfl | h
      · decide
      · exact body c h
    · exact body c h

@[simp] theorem oneLine_plainText (x : Binary64) : Text.OneLine (plainText x) :=
  fun h => absurd (isNumberChar_of_mem_render h) (by decide)

@[simp] theorem oneLine_documentText (x : Binary64) : Text.OneLine (documentText x) :=
  fun h => absurd (isNumberChar_of_mem_render h) (by decide)

end DisplayLayout.Numeric
