import DisplayLayout.Proofs.Yaml.Scalar

/-!
# Scalars that are no texts

YAML 1.1 takes a scalar without quotes for a text only if it has no other form:
that of nothing, of a truth value, of a number or of a moment. `Yaml.tag?` tells
these forms apart. A text that is written without quotes never has the first
two, and no form of a number that is common; but digits in groups, places of
sixty and dates are passed over (`Yaml.tag?_eq_none_iff`).
-/

namespace DisplayLayout.Yaml

open Text

/-! ## The forms of scalars -/

/-- What a scalar without quotes can be besides a text. -/
inductive Tag where
  | null
  | bool
  | int
  | float
  | timestamp
deriving DecidableEq, Repr

/-- The words for nothing. -/
def nullWords : List String := ["", "~", "null", "Null", "NULL"]

/-- The words for truth values. -/
def boolWords : List String :=
  ["y", "Y", "yes", "Yes", "YES", "n", "N", "no", "No", "NO", "true", "True", "TRUE", "false",
    "False", "FALSE", "on", "On", "ON", "off", "Off", "OFF"]

/-- What may stand in a number after its first digit: underscores group the digits. -/
def isSpaced (isDigit : Char → Bool) (c : Char) : Bool := isDigit c || c == '_'

/-- Digits behind the mark of their base. -/
def isBehindMark (isDigit : Char → Bool) (cs : List Char) : Bool :=
  !cs.isEmpty && cs.all (isSpaced isDigit)

/-- Decimal digits. -/
def isDigits (cs : List Char) : Bool :=
  cs.head?.any Char.isDigit && cs.all (isSpaced Char.isDigit)

/-- The digits of smaller bases. -/
def isOctalDigit (c : Char) : Bool := '0' ≤ c && c ≤ '7'

def isBinaryDigit (c : Char) : Bool := c == '0' || c == '1'

/-- An integer without its sign. A zero in front is the mark of base eight. -/
def isInteger : List Char → Bool
  | ['0'] => true
  | '0' :: 'b' :: ds => isBehindMark isBinaryDigit ds
  | '0' :: 'x' :: ds => isBehindMark Numeric.isHexDigit ds
  | '0' :: ds => isBehindMark isOctalDigit ds
  | cs => isDigits cs

/-- An exponent, which has a sign, or none at all. -/
def isExponent : List Char → Bool
  | [] => true
  | e :: sign :: ds =>
    (e == 'e' || e == 'E') && (sign == '+' || sign == '-') && !ds.isEmpty && ds.all Char.isDigit
  | _ => false

/-- A number with a point, without its sign. -/
def isPointed (cs : List Char) : Bool :=
  let whole := cs.takeWhile (isSpaced Char.isDigit)
  match cs.dropWhile (isSpaced Char.isDigit) with
  | '.' :: rest =>
    let fraction := rest.takeWhile (isSpaced Char.isDigit)
    (if whole.isEmpty then isDigits fraction else isDigits whole)
      && isExponent (rest.dropWhile (isSpaced Char.isDigit))
  | _ => false

/-- A place of base sixty. -/
def isSixtieth : List Char → Bool
  | [c] => c.isDigit
  | [b, c] => '0' ≤ b && b ≤ '5' && c.isDigit
  | _ => false

/-- Decimal digits and then places of sixty, between colons. -/
def isPlaced (cs : List Char) : Bool :=
  match splitOn ':' cs with
  | lead :: place :: places => isDigits lead && (place :: places).all isSixtieth
  | _ => false

/-- An integer of base sixty without its sign. -/
def isPlacedInteger (cs : List Char) : Bool := cs.head? != some '0' && isPlaced cs

/-- A number of base sixty with a point, without its sign. -/
def isPlacedPointed (cs : List Char) : Bool :=
  match splitFirst? '.' cs with
  | some (whole, fraction) => isPlaced whole && fraction.all (isSpaced Char.isDigit)
  | none => false

/-- The words for infinity, which can have a sign, and for no number, which has none. -/
def infinityWords : List (List Char) := [".inf".toList, ".Inf".toList, ".INF".toList]

def nanWords : List (List Char) := [".nan".toList, ".NaN".toList, ".NAN".toList]

/-- One digit or two. -/
def isShort (ds : List Char) : Bool := ds.length == 1 || ds.length == 2

/-- A time zone behind a time of day, or none. -/
def isZone (cs : List Char) : Bool :=
  match cs.dropWhile fun c => c == ' ' || c == '\t' with
  | [] => cs.isEmpty
  | ['Z'] => true
  | sign :: rest =>
    (sign == '+' || sign == '-') && isShort (rest.takeWhile Char.isDigit)
      && match rest.dropWhile Char.isDigit with
        | [] => true
        | [':', a, b] => a.isDigit && b.isDigit
        | _ => false

/-- Seconds, which may have a fraction, and what follows them. -/
def isSeconds : List Char → Bool
  | a :: b :: '.' :: rest => a.isDigit && b.isDigit && isZone (rest.dropWhile Char.isDigit)
  | a :: b :: rest => a.isDigit && b.isDigit && isZone rest
  | _ => false

/-- A time of day. -/
def isClock (cs : List Char) : Bool :=
  isShort (cs.takeWhile Char.isDigit) && match cs.dropWhile Char.isDigit with
    | ':' :: a :: b :: ':' :: rest => a.isDigit && b.isDigit && isSeconds rest
    | _ => false

/-- What follows the digits of a day: nothing, or a time of day. -/
def isDaytime : List Char → Bool
  | 'T' :: rest => isClock rest
  | 't' :: rest => isClock rest
  | c :: rest => (c == ' ' || c == '\t') && isClock (rest.dropWhile fun d => d == ' ' || d == '\t')
  | [] => false

/-- A date, or a date and a time of day. -/
def isTimestamp (cs : List Char) : Bool :=
  let year := cs.takeWhile Char.isDigit
  match cs.dropWhile Char.isDigit with
  | '-' :: cs =>
    let month := cs.takeWhile Char.isDigit
    match cs.dropWhile Char.isDigit with
    | '-' :: cs =>
      let day := cs.takeWhile Char.isDigit
      let rest := cs.dropWhile Char.isDigit
      year.length == 4 && ((month.length == 2 && day.length == 2 && rest.isEmpty)
        || (isShort month && isShort day && isDaytime rest))
    | _ => false
  | _ => false

/-- An integer. -/
def isInt (s : String) : Bool := isInteger (dropSign s.toList) || isPlacedInteger (dropSign s.toList)

/-- A number with a fraction, or none that is finite. -/
def isFloat (s : String) : Bool :=
  isPointed (dropSign s.toList) || isPlacedPointed (dropSign s.toList)
    || infinityWords.contains (dropSign s.toList) || nanWords.contains s.toList

/-- What a scalar without quotes is besides a text. -/
def tag? (s : String) : Option Tag :=
  if s ∈ nullWords then some .null
  else if s ∈ boolWords then some .bool
  else if isInt s then some .int
  else if isFloat s then some .float
  else if isTimestamp s.toList then some .timestamp
  else none

/-! ## The forms that are passed over -/

/-- A number with digits in groups. -/
def isGrouped (s : String) : Bool :=
  s.toList.contains '_' && (isInteger (dropSign s.toList) || isPointed (dropSign s.toList))

/-- A number of base sixty. -/
def isSexagesimal (s : String) : Bool :=
  isPlacedInteger (dropSign s.toList) || isPlacedPointed (dropSign s.toList)

/-! ## Numbers whose digits stand together -/

theorem isSpaced_eq {p : Char → Bool} {c : Char} (h : c ≠ '_') :
    isSpaced p c = p c := by
  rw [isSpaced, beq_false_of_ne h, Bool.or_false]

theorem all_isSpaced {p : Char → Bool} {cs : List Char} (hbar : '_' ∉ cs)
    (h : cs.all (isSpaced p) = true) : cs.all p = true := by
  rw [List.all_eq_true] at h ⊢
  intro c hc
  have hne : c ≠ '_' := fun heq => hbar (heq ▸ hc)
  rw [← isSpaced_eq (p := p) hne]
  exact h c hc

/-- Where no underscore is, the digits end where the groups of digits end. -/
theorem span_isSpaced {p : Char → Bool} {cs : List Char} (hbar : '_' ∉ cs) :
    cs.takeWhile (isSpaced p) = cs.takeWhile p
      ∧ cs.dropWhile (isSpaced p) = cs.dropWhile p := by
  induction cs with
  | nil => exact ⟨rfl, rfl⟩
  | cons c cs ih =>
    rw [List.mem_cons, not_or] at hbar
    obtain ⟨htake, hdrop⟩ := ih hbar.2
    rw [List.takeWhile_cons, List.takeWhile_cons, List.dropWhile_cons, List.dropWhile_cons,
      isSpaced_eq (Ne.symm hbar.1), htake, hdrop]
    exact ⟨rfl, rfl⟩

theorem ne_nil_of_isDigits {cs : List Char} (h : isDigits cs = true) : cs ≠ [] := by
  rintro rfl
  cases h

theorem all_isDigit_of_isDigits {cs : List Char} (hbar : '_' ∉ cs) (h : isDigits cs = true) :
    cs.all Char.isDigit = true := by
  rw [isDigits, Bool.and_eq_true] at h
  exact all_isSpaced hbar h.2

theorem ne_nil_and_all_of_isBehindMark {p : Char → Bool} {cs : List Char} (hbar : '_' ∉ cs)
    (h : isBehindMark p cs = true) : cs ≠ [] ∧ cs.all p = true := by
  rw [isBehindMark, Bool.and_eq_true, Bool.not_eq_true', List.isEmpty_eq_false_iff] at h
  exact ⟨h.1, all_isSpaced hbar h.2⟩

theorem isSome_readDigits? {ds : List Char} (hne : ds ≠ []) (h : ds.all Char.isDigit = true) :
    (Numeric.readDigits? ds).isSome = true := by
  rw [Numeric.readDigits?, if_neg (by simpa using hne), if_pos h]
  rfl

theorem isSome_readExponent? {cs : List Char} (h : isExponent cs = true) :
    (Numeric.readExponent? cs).isSome = true := by
  unfold isExponent at h
  split at h
  · rfl
  · next e sign ds =>
    simp only [Bool.and_eq_true, Bool.or_eq_true, beq_iff_eq, Bool.not_eq_true',
      List.isEmpty_eq_false_iff] at h
    obtain ⟨⟨⟨hmark, hsign⟩, hne⟩, hdigits⟩ := h
    obtain ⟨n, hn⟩ := Option.isSome_iff_exists.1 (isSome_readDigits? hne hdigits)
    rw [Numeric.readExponent?, if_pos hmark]
    rcases hsign with rfl | rfl
    · rw [Numeric.readSigned?, hn]
      rfl
    · rw [Numeric.readSigned?, hn]
      rfl
  · cases h

/-- Digits alone are a decimal number. -/
theorem isSome_readDecimal?_of_digits {cs : List Char} (hne : cs ≠ [])
    (h : cs.all Char.isDigit = true) : (Numeric.readDecimal? false cs).isSome = true := by
  rw [List.all_eq_true] at h
  have htake : cs.takeWhile Char.isDigit = cs := List.takeWhile_eq_self_iff.2 h
  have hdrop : cs.dropWhile Char.isDigit = [] := List.dropWhile_eq_nil_iff.2 h
  rw [Numeric.readDecimal?, Numeric.spanDigits, htake, hdrop]
  simp [hne, Numeric.readExponent?]

/-- Digits around a point are a decimal number. -/
theorem isSome_readDecimal?_of_isPointed {cs : List Char} (hbar : '_' ∉ cs)
    (h : isPointed cs = true) : (Numeric.readDecimal? false cs).isSome = true := by
  obtain ⟨htake, hdrop⟩ := span_isSpaced (p := Char.isDigit) hbar
  unfold isPointed at h
  rw [htake, hdrop] at h
  dsimp only at h
  split at h
  · next rest hrest =>
    have hbar' : '_' ∉ rest := by
      intro hmem
      have hcs : '_' ∈ cs.dropWhile Char.isDigit := hrest ▸ List.mem_cons_of_mem _ hmem
      exact hbar ((List.dropWhile_sublist _).subset hcs)
    obtain ⟨htake', hdrop'⟩ := span_isSpaced (p := Char.isDigit) hbar'
    rw [htake', hdrop', Bool.and_eq_true] at h
    have hsome : ((cs.takeWhile Char.isDigit).isEmpty && (rest.takeWhile Char.isDigit).isEmpty)
        = false := by
      have hdigits := h.1
      split at hdigits
      · rw [Bool.and_eq_false_iff, List.isEmpty_eq_false_iff, List.isEmpty_eq_false_iff]
        exact Or.inr (ne_nil_of_isDigits hdigits)
      · rw [Bool.and_eq_false_iff, List.isEmpty_eq_false_iff, List.isEmpty_eq_false_iff]
        exact Or.inl (ne_nil_of_isDigits hdigits)
    simp only [Numeric.readDecimal?, Numeric.spanDigits, hrest, hsome, Bool.false_eq_true, if_false,
      Option.isSome_map]
    exact isSome_readExponent? h.2
  · cases h

/-! ## Texts without quotes -/

theorem dropSign_subset (cs : List Char) : dropSign cs ⊆ cs := by
  unfold dropSign
  split
  · exact List.subset_cons_self _ _
  · exact List.subset_cons_self _ _
  · exact List.Subset.refl _

theorem looksNumeric_of_readDecimal? {s : String}
    (h : (Numeric.readDecimal? false (dropSign s.toList)).isSome = true) : looksNumeric s = true := by
  have hmagnitude : (Numeric.readMagnitude? false (dropSign s.toList)).isSome = true := by
    unfold Numeric.readMagnitude?
    split
    · rfl
    · rfl
    · rfl
    · exact h
  rw [looksNumeric, isSome_readFloat?_ofList hmagnitude]
  rfl

theorem looksNumeric_of_isBased {s : String}
    (h : isBased ((dropSign s.toList).map Char.toLower) = true) : looksNumeric s = true := by
  rw [looksNumeric, h, Bool.or_true]
  rfl

/-- A digit of base sixteen is one in lower case, too. -/
theorem isHexDigit_toLower {c : Char} (h : Numeric.isHexDigit c = true) :
    (c.toLower.isDigit || ('a' ≤ c.toLower && c.toLower ≤ 'f')) = true := by
  have hcode : c.toNat < 128 := by
    have := toNat_of_isWordChar (isWordChar_of_isAlphanum (isAlphanum_of_isHexDigit h))
    omega
  have hascii : ∀ n < 128, Numeric.isHexDigit (Char.ofNat n) = true →
      ((Char.ofNat n).toLower.isDigit
        || ('a' ≤ (Char.ofNat n).toLower && (Char.ofNat n).toLower ≤ 'f')) = true := by decide
  have hc := hascii c.toNat hcode
  rw [Char.ofNat_toNat] at hc
  exact hc h

/-- The digits of the smaller bases are digits. -/
theorem isHexDigit_of_isDigit {c : Char} (h : c.isDigit = true) : Numeric.isHexDigit c = true := by
  rw [Numeric.isHexDigit, Numeric.hexValue?, if_pos h]
  rfl

theorem isDigit_of_isOctalDigit {c : Char} (h : isOctalDigit c = true) : c.isDigit = true := by
  simp only [isOctalDigit, Bool.and_eq_true, decide_eq_true_eq, Char.le_def] at h
  simp only [Char.isDigit, Bool.and_eq_true, decide_eq_true_eq, ge_iff_le]
  exact ⟨h.1, UInt32.le_trans h.2 (by decide)⟩

theorem isDigit_of_isBinaryDigit {c : Char} (h : isBinaryDigit c = true) : c.isDigit = true := by
  rw [isBinaryDigit, Bool.or_eq_true, beq_iff_eq, beq_iff_eq] at h
  rcases h with rfl | rfl
  · rfl
  · rfl

theorem isBased_of_mark {mark : Char} (hmark : mark = 'b' ∨ mark = 'x') {ds : List Char}
    (hne : ds ≠ []) (h : ds.all Numeric.isHexDigit = true) :
    isBased (('0' :: mark :: ds).map Char.toLower) = true := by
  have hdigits : (ds.map Char.toLower).all (fun c => c.isDigit || ('a' ≤ c && c ≤ 'f')) = true := by
    rw [List.all_map, List.all_eq_true]
    exact fun c hc => isHexDigit_toLower (List.all_eq_true.1 h c hc)
  have hsome : (ds.map Char.toLower).isEmpty = false := by simpa using hne
  rw [List.map_cons, List.map_cons]
  rcases hmark with rfl | rfl
  · show (_ && !(ds.map Char.toLower).isEmpty && _) = true
    rw [hsome, hdigits]
    rfl
  · show (_ && !(ds.map Char.toLower).isEmpty && _) = true
    rw [hsome, hdigits]
    rfl

/-- An integer whose digits stand together: decimal digits, or digits behind the mark of a base. -/
theorem isInteger_cases {cs : List Char} (hbar : '_' ∉ cs) (h : isInteger cs = true) :
    (cs ≠ [] ∧ cs.all Char.isDigit = true) ∨ ∃ mark ds, (mark = 'b' ∨ mark = 'x')
      ∧ cs = '0' :: mark :: ds ∧ ds ≠ [] ∧ ds.all Numeric.isHexDigit = true := by
  unfold isInteger at h
  split at h
  · exact Or.inl ⟨by decide, by decide⟩
  · next ds =>
    simp only [List.mem_cons, not_or] at hbar
    obtain ⟨hne, hall⟩ := ne_nil_and_all_of_isBehindMark hbar.2.2 h
    refine Or.inr ⟨'b', ds, Or.inl rfl, rfl, hne, ?_⟩
    rw [List.all_eq_true] at hall ⊢
    exact fun c hc => isHexDigit_of_isDigit (isDigit_of_isBinaryDigit (hall c hc))
  · next ds =>
    simp only [List.mem_cons, not_or] at hbar
    obtain ⟨hne, hall⟩ := ne_nil_and_all_of_isBehindMark hbar.2.2 h
    exact Or.inr ⟨'x', ds, Or.inr rfl, rfl, hne, hall⟩
  · next ds _ _ _ =>
    rw [List.mem_cons, not_or] at hbar
    have hall := (ne_nil_and_all_of_isBehindMark hbar.2 h).2
    refine Or.inl ⟨List.cons_ne_nil _ _, ?_⟩
    rw [List.all_eq_true] at hall ⊢
    rw [List.forall_mem_cons]
    exact ⟨rfl, fun c hc => isDigit_of_isOctalDigit (hall c hc)⟩
  · exact Or.inl ⟨ne_nil_of_isDigits h, all_isDigit_of_isDigits hbar h⟩

theorem looksNumeric_of_isInteger {s : String} (hbar : '_' ∉ s.toList)
    (h : isInteger (dropSign s.toList) = true) : looksNumeric s = true := by
  rcases isInteger_cases (fun hmem => hbar (dropSign_subset _ hmem)) h with
    ⟨hne, hall⟩ | ⟨mark, ds, hmark, hds, hne, hall⟩
  · exact looksNumeric_of_readDecimal? (isSome_readDecimal?_of_digits hne hall)
  · refine looksNumeric_of_isBased ?_
    rw [hds]
    exact isBased_of_mark hmark hne hall

theorem looksNumeric_of_isPointed {s : String} (hbar : '_' ∉ s.toList)
    (h : isPointed (dropSign s.toList) = true) : looksNumeric s = true :=
  looksNumeric_of_readDecimal?
    (isSome_readDecimal?_of_isPointed (fun hmem => hbar (dropSign_subset _ hmem)) h)

/-- The words for infinity and for no number are known in any case of letters. -/
theorem looksNumeric_of_words {s : String}
    (h : infinityWords.contains (dropSign s.toList) = true ∨ nanWords.contains s.toList = true) :
    looksNumeric s = true := by
  have hinfinity : ∀ cs ∈ infinityWords, cs.map Char.toLower = ".inf".toList := by decide
  have hnan : ∀ cs ∈ nanWords, (dropSign cs).map Char.toLower = ".nan".toList := by decide
  simp only [List.contains_iff_mem] at h
  rw [looksNumeric]
  rcases h with h | h
  · rw [hinfinity _ h, beq_self_eq_true, Bool.or_true]
    rfl
  · rw [hnan _ h, beq_self_eq_true, Bool.or_true]

theorem needsQuotes_of_words {s : String} (h : s ∈ nullWords ∨ s ∈ boolWords) :
    needsQuotes s = true := by
  have hnull : ∀ s ∈ nullWords, needsQuotes s = true := by decide +kernel
  have hbool : ∀ s ∈ boolWords, needsQuotes s = true := by decide +kernel
  exact h.elim (hnull s) (hbool s)

/-- A text that has no other form. -/
theorem tag?_eq_none {s : String} :
    tag? s = none ↔ s ∉ nullWords ∧ s ∉ boolWords ∧ isInt s = false ∧ isFloat s = false
      ∧ isTimestamp s.toList = false := by
  unfold tag?
  split_ifs with hnull hbool hint hfloat htime <;> simp_all

/-- **Which texts without quotes are texts.** A text that is written without quotes is read as a
text, except for a number with digits in groups, a number of base sixty, and a date. -/
theorem tag?_eq_none_iff {s : String} (h : needsQuotes s = false) :
    tag? s = none ↔ isGrouped s = false ∧ isSexagesimal s = false ∧ isTimestamp s.toList = false := by
  have hnumeric : looksNumeric s ≠ true := by
    rw [(plain_of_needsQuotes h).looksNumeric_eq]
    exact Bool.false_ne_true
  have hwords : s ∉ nullWords ∧ s ∉ boolWords := by
    rw [← not_or]
    intro hmem
    rw [needsQuotes_of_words hmem] at h
    cases h
  rw [tag?_eq_none]
  constructor
  · rintro ⟨-, -, hint, hfloat, htime⟩
    simp only [isInt, isFloat, Bool.or_eq_false_iff] at hint hfloat
    obtain ⟨hinteger, hplaced⟩ := hint
    obtain ⟨⟨⟨hpointed, hplacedPointed⟩, -⟩, -⟩ := hfloat
    refine ⟨?_, ?_, htime⟩
    · rw [isGrouped, hinteger, hpointed, Bool.or_false, Bool.and_false]
    · rw [isSexagesimal, hplaced, hplacedPointed, Bool.or_false]
  · rintro ⟨hgrouped, hsexagesimal, htime⟩
    rw [isSexagesimal, Bool.or_eq_false_iff] at hsexagesimal
    -- A number in groups has an underscore; without one, the digits stand together.
    have hnumber : isInteger (dropSign s.toList) = false ∧ isPointed (dropSign s.toList) = false := by
      rw [isGrouped, Bool.and_eq_false_iff, Bool.or_eq_false_iff] at hgrouped
      rcases hgrouped with hbar | hnumber
      · have hbar : '_' ∉ s.toList := by simpa using hbar
        exact ⟨Bool.eq_false_iff.2 fun hi => hnumeric (looksNumeric_of_isInteger hbar hi),
          Bool.eq_false_iff.2 fun hp => hnumeric (looksNumeric_of_isPointed hbar hp)⟩
      · exact hnumber
    have hinfinity : infinityWords.contains (dropSign s.toList) = false :=
      Bool.eq_false_iff.2 fun hi => hnumeric (looksNumeric_of_words (Or.inl hi))
    have hnan : nanWords.contains s.toList = false :=
      Bool.eq_false_iff.2 fun hn => hnumeric (looksNumeric_of_words (Or.inr hn))
    refine ⟨hwords.1, hwords.2, ?_, ?_, htime⟩
    · rw [isInt, hnumber.1, hsexagesimal.1, Bool.or_false]
    · rw [isFloat, hnumber.2, hsexagesimal.2, hinfinity, hnan]
      rfl

/-- Minutes that no clock has are text. -/
theorem tag?_of_no_time :
    needsQuotes "7:75" = false ∧ tag? "7:75" = none :=
  ⟨by decide +kernel, (tag?_eq_none_iff (by decide +kernel)).2
    ⟨by decide +kernel, by decide +kernel, by decide +kernel⟩⟩

/-- **A text without quotes is not always a text:** not a time of day, not a number with its
thousands apart, and not a date. -/
theorem exists_plain_number :
    (needsQuotes "12:30" = false ∧ tag? "12:30" = some .int)
      ∧ (needsQuotes "1_000" = false ∧ tag? "1_000" = some .int)
      ∧ (needsQuotes "190:20:30.15" = false ∧ tag? "190:20:30.15" = some .float)
      ∧ (needsQuotes "2024-05-01" = false ∧ tag? "2024-05-01" = some .timestamp) := by
  decide +kernel

end DisplayLayout.Yaml
