import DisplayLayout.Proofs.Numeric.Decimal
import DisplayLayout.Proofs.Numeric.Hexadecimal

/-!
# Words

Texts of letters, digits and underscores. They hold no blanks and no line
breaks, and numerals and lower-case letters are among them.
-/

namespace DisplayLayout.Text

/-! ## Characters of words -/

theorem isLower_iff (c : Char) : c.isLower = true ↔ c.val ≥ 'a'.val ∧ c.val ≤ 'z'.val := by
  show (decide (c.val ≥ 'a'.val) && decide (c.val ≤ 'z'.val)) = true ↔ _
  rw [Bool.and_eq_true, decide_eq_true_iff, decide_eq_true_iff]

theorem isDigit_iff (c : Char) : c.isDigit = true ↔ c.val ≥ '0'.val ∧ c.val ≤ '9'.val := by
  show (decide (c.val ≥ '0'.val) && decide (c.val ≤ '9'.val)) = true ↔ _
  rw [Bool.and_eq_true, decide_eq_true_iff, decide_eq_true_iff]

theorem isAlphanum_iff_kinds (c : Char) :
    c.isAlphanum = true ↔ (c.isUpper = true ∨ c.isLower = true) ∨ c.isDigit = true := by
  show (c.isUpper || c.isLower || c.isDigit) = true ↔ _
  rw [Bool.or_eq_true, Bool.or_eq_true]

/-- Letters and digits by their codes. -/
theorem isAlphanum_iff (c : Char) :
    c.isAlphanum = true ↔
      ((c.val ≥ 'A'.val ∧ c.val ≤ 'Z'.val) ∨ (c.val ≥ 'a'.val ∧ c.val ≤ 'z'.val))
        ∨ (c.val ≥ '0'.val ∧ c.val ≤ '9'.val) := by
  have hupper : c.isUpper = decide (c.val ≥ 'A'.val ∧ c.val ≤ 'Z'.val) := rfl
  rw [isAlphanum_iff_kinds, isLower_iff, isDigit_iff, hupper, decide_eq_true_iff]

theorem isWordChar_of_isAlphanum {c : Char} (h : c.isAlphanum = true) : isWordChar c = true := by
  rw [isWordChar, h, Bool.true_or]

theorem isWordChar_of_isDigit {c : Char} (h : c.isDigit = true) : isWordChar c = true :=
  isWordChar_of_isAlphanum ((isAlphanum_iff_kinds c).2 (Or.inr h))

/-- A character of a plain word is a letter, a digit or an underscore by its code. -/
theorem toNat_of_isWordChar {c : Char} (h : isWordChar c = true) :
    (65 ≤ c.toNat ∧ c.toNat ≤ 90) ∨ (97 ≤ c.toNat ∧ c.toNat ≤ 122) ∨
      (48 ≤ c.toNat ∧ c.toNat ≤ 57) ∨ c.toNat = 95 := by
  simp only [isWordChar, isAlphanum_iff, Bool.or_eq_true, beq_iff_eq, ge_iff_le,
    UInt32.le_iff_toNat_le] at h
  rcases h with ((h | h) | h) | rfl
  · exact Or.inl h
  · exact Or.inr (Or.inl h)
  · exact Or.inr (Or.inr (Or.inl h))
  · exact Or.inr (Or.inr (Or.inr rfl))

theorem isBlank_eq_false_of_isWordChar {c : Char} (h : isWordChar c = true) :
    isBlank c = false := by
  have hn := toNat_of_isWordChar h
  simp only [isBlank, Bool.or_eq_false_iff, Bool.and_eq_false_iff, decide_eq_false_iff_not,
    beq_eq_false_iff_ne, ne_eq]
  omega

/-- A character of a plain word is none of the characters that are told apart. -/
theorem ne_of_isWordChar {c d : Char} (h : isWordChar c = true) (hd : isWordChar d = false) :
    c ≠ d := by
  rintro rfl
  rw [h] at hd
  exact Bool.noConfusion hd

theorem isWord_iff {cs : List Char} :
    isWord cs = true ↔ cs ≠ [] ∧ ∀ c ∈ cs, isWordChar c = true := by
  simp [isWord]

/-! ## Texts of such characters -/

/-- A text of letters, digits and underscores only; it may be empty. -/
def IsWordText (s : String) : Prop := ∀ c ∈ s.toList, isWordChar c = true

instance (s : String) : Decidable (IsWordText s) :=
  List.decidableBAll (fun c => isWordChar c = true) s.toList

theorem isWordText_append {s t : String} :
    IsWordText (s ++ t) ↔ IsWordText s ∧ IsWordText t := by
  simp only [IsWordText, String.toList_append, List.mem_append]
  exact ⟨fun h => ⟨fun c hc => h c (Or.inl hc), fun c hc => h c (Or.inr hc)⟩,
    fun h c hc => hc.elim (h.1 c) (h.2 c)⟩

theorem isWordText_ofList {cs : List Char} :
    IsWordText (String.ofList cs) ↔ ∀ c ∈ cs, isWordChar c = true := by
  rw [IsWordText, String.toList_ofList]

theorem isWordText_toString (n : Nat) : IsWordText (toString n) :=
  fun _ hc => isWordChar_of_isDigit (Numeric.isDigit_of_mem_toString hc)

theorem IsWordText.oneLine {s : String} (h : IsWordText s) : OneLine s := by
  intro hm
  exact absurd (h _ hm) (by decide)

theorem IsWordText.trimChars_eq {s : String} (h : IsWordText s) : trimChars s.toList = s.toList := by
  refine trimChars_eq_self (fun c hc => ?_) (fun c hc => ?_)
  · exact isBlank_eq_false_of_isWordChar (h c (List.mem_of_mem_head? hc))
  · exact isBlank_eq_false_of_isWordChar (h c (List.mem_of_mem_getLast? hc))

/-- The characters of a word are bytes. -/
theorem IsWordText.utf8ByteSize_eq {s : String} (h : IsWordText s) : s.utf8ByteSize = s.length := by
  obtain ⟨cs, rfl⟩ : ∃ cs, s = String.ofList cs := ⟨s.toList, String.ofList_toList.symm⟩
  rw [isWordText_ofList] at h
  rw [String.length_ofList]
  induction cs with
  | nil => rfl
  | cons c cs ih =>
    rw [List.forall_mem_cons] at h
    have hbyte : c.utf8Size = 1 := by
      have hcode := toNat_of_isWordChar h.1
      rw [Char.utf8Size_eq_one_iff, UInt32.le_iff_toNat_le]
      show c.toNat ≤ 127
      omega
    have hcons : String.ofList (c :: cs) = String.singleton c ++ String.ofList cs := by
      rw [← String.toList_inj]
      simp
    rw [hcons, String.utf8ByteSize_append, String.utf8ByteSize_singleton, ih h.2, hbyte,
      List.length_cons, Nat.add_comm]

theorem isWordText_of_isWord {s : String} (h : isWord s.toList = true) : IsWordText s := by
  simp only [isWord, Bool.and_eq_true, List.all_eq_true] at h
  exact h.2

/-- Lower-case letters and digits are their own lower case. -/
theorem toLower_eq_self {c : Char} (h : c.isLower = true ∨ c.isDigit = true) : c.toLower = c := by
  have hupper : ¬(c.val ≥ 'A'.val ∧ c.val ≤ 'Z'.val) := by
    rintro ⟨hleast, hmost⟩
    rw [isLower_iff, isDigit_iff] at h
    rcases h with h | h
    · exact absurd (UInt32.le_trans h.1 hmost) (by decide)
    · exact absurd (UInt32.le_trans hleast h.2) (by decide)
  unfold Char.toLower
  rw [dif_neg hupper]

/-- Lower case turns letters into lower-case letters, and leaves digits alone. -/
theorem isLower_or_isDigit_toLower {c : Char} (h : c.isAlphanum = true) :
    c.toLower.isLower = true ∨ c.toLower.isDigit = true := by
  rcases (isAlphanum_iff_kinds c).1 h with (hupper | hlower) | hdigit
  · have hrange : c.val ≥ 'A'.val ∧ c.val ≤ 'Z'.val := of_decide_eq_true hupper
    rw [isLower_iff]
    unfold Char.toLower
    rw [dif_pos hrange]
    left
    constructor <;> grind [UInt32.toNat_add, Char.toNat_val]
  · rw [toLower_eq_self (Or.inl hlower)]
    exact Or.inl hlower
  · rw [toLower_eq_self (Or.inr hdigit)]
    exact Or.inr hdigit

/-- Lower case turns letters and digits into letters and digits. -/
theorem isWordChar_toLower {c : Char} (h : c.isAlphanum = true) :
    isWordChar c.toLower = true := by
  refine isWordChar_of_isAlphanum ((isAlphanum_iff_kinds _).2 ?_)
  exact (isLower_or_isDigit_toLower h).imp_left Or.inr

/-- A blank has no other case, and no letter is one. -/
theorem isBlank_toLower (c : Char) : isBlank c.toLower = isBlank c := by
  by_cases h : c.isAlphanum = true
  · rw [isBlank_eq_false_of_isWordChar (isWordChar_toLower h),
      isBlank_eq_false_of_isWordChar (isWordChar_of_isAlphanum h)]
  · have hupper : ¬(c.val ≥ 'A'.val ∧ c.val ≤ 'Z'.val) := fun hc =>
      h ((isAlphanum_iff c).2 (Or.inl (Or.inl hc)))
    unfold Char.toLower
    rw [dif_neg hupper]

/-- Trimming does not look at the case of letters. -/
theorem lower_trim (s : String) : lower (trim s) = trim (lower s) := by
  have hblank : isBlank ∘ Char.toLower = isBlank := funext isBlank_toLower
  simp only [lower, trim, String.toList_ofList, trimChars, dropBlanks, dropTrailingBlanks,
    List.dropWhile_map, ← List.map_reverse, hblank]

/-- Upper case turns letters and digits into letters and digits. -/
theorem isWordChar_toUpper {c : Char} (h : c.isAlphanum = true) :
    isWordChar c.toUpper = true := by
  have hc : c.toUpper.isAlphanum = true := by
    simp only [isAlphanum_iff, ge_iff_le] at h ⊢
    unfold Char.toUpper
    split
    · left
      left
      constructor <;> grind [UInt32.toNat_add, Char.toNat_val]
    · exact h
  exact isWordChar_of_isAlphanum hc

/-- A hexadecimal digit is a letter or a digit. -/
theorem isAlphanum_of_isHexDigit {c : Char} (h : Numeric.isHexDigit c = true) :
    c.isAlphanum = true := by
  unfold Numeric.isHexDigit Numeric.hexValue? at h
  simp only [isAlphanum_iff, ge_iff_le]
  split at h
  · next hdigit => exact Or.inr (by simpa [Char.isDigit] using hdigit)
  split at h
  · next hlower => exact Or.inl (Or.inr ⟨hlower.1, UInt32.le_trans hlower.2 (by decide)⟩)
  split at h
  · next hupper => exact Or.inl (Or.inl ⟨hupper.1, UInt32.le_trans hupper.2 (by decide)⟩)
  · exact absurd h (by decide)

theorem isWordChar_of_mem_hexDigits {c : Char} {width n : Nat} (h : c ∈ Numeric.hexDigits width n) :
    isWordChar c = true := by
  have hdigit : ∀ d < 16, isWordChar (Nat.digitChar d) = true := by decide
  obtain ⟨d, hd, rfl⟩ := Numeric.exists_digitChar_of_mem_hexDigits h
  exact hdigit d hd

/-- Digits are letters and digits in upper case, too. -/
theorem isWordChar_toUpper_of_mem_hexDigits {c : Char} {width n : Nat}
    (h : c ∈ Numeric.hexDigits width n) : isWordChar c.toUpper = true := by
  have hdigit : ∀ d < 16, isWordChar (Nat.digitChar d).toUpper = true := by decide
  obtain ⟨d, hd, rfl⟩ := Numeric.exists_digitChar_of_mem_hexDigits h
  exact hdigit d hd

end DisplayLayout.Text
