import DisplayLayout.Proofs.Yaml.Quoted
import DisplayLayout.Proofs.Yaml.Tree

/-!
# Keys and scalars, read back

What stands on one row is told apart by its characters alone. The colon that
ends a key is the first one with a space or the end of the row behind it, unless
the key is quoted; a tree on one line has no such colon, and no dash in front. Its
first character, the words for truth and for nothing and the form of a number
say what kind of tree it is (`Yaml.shape_inlineText`). So each key and each tree
on one line comes back from its text (`Yaml.inlineText_inj`).
-/

namespace DisplayLayout

open Text

/-! ## The leaves of a tree -/

namespace Json

mutual

/-- What a tree holds in the places of its scalars, from left to right. -/
def leaves : Json → List Json
  | .array items => itemLeaves items
  | .object entries => entryLeaves entries
  | j => [j]

/-- The leaves of all items. -/
def itemLeaves : List Json → List Json
  | [] => []
  | j :: rest => leaves j ++ itemLeaves rest

/-- The leaves of all values. -/
def entryLeaves : List (String × Json) → List Json
  | [] => []
  | (_, j) :: rest => leaves j ++ entryLeaves rest

end

end Json

namespace Yaml

/-- Leaves that can be told apart: no text that is marked as code, and numbers that are written
as such, no two of them alike. -/
structure Legible (leaves : List Json) : Prop where
  code?_eq : ∀ s, .string s ∈ leaves → code? s = none
  isNumeral : ∀ n, .number n ∈ leaves → (Numeric.readFloat? n.text).isSome = true
  text_inj : ∀ m n, .number m ∈ leaves → .number n ∈ leaves → m.text = n.text → m = n

/-- Whether two leaves are told apart, if both are numbers. -/
def areApart : Json → Json → Bool
  | .number m, .number n => m.text != n.text || m == n
  | _, _ => true

/-- Whether a leaf is written so that its kind shows. -/
def isPlainLeaf : Json → Bool
  | .string s => (code? s).isNone
  | .number n => (Numeric.readFloat? n.text).isSome
  | _ => true

/-- Whether leaves can be told apart. -/
def isLegible (leaves : List Json) : Bool :=
  leaves.all fun j => isPlainLeaf j && leaves.all (areApart j)

variable {leaves : List Json}

theorem legible_of_isLegible (h : isLegible leaves = true) : Legible leaves := by
  simp only [isLegible, List.all_eq_true, Bool.and_eq_true] at h
  refine ⟨fun s hs => ?_, fun n hn => (h _ hn).1, fun m n hm hn htext => ?_⟩
  · exact Option.isNone_iff_eq_none.1 (h _ hs).1
  · have hapart : (m.text != n.text || m == n) = true := (h _ hm).2 _ hn
    rw [htext, bne_self_eq_false, Bool.false_or, beq_iff_eq] at hapart
    exact hapart

/-! ## Texts without quotes -/

/-- What can be said of a text that is written without quotes. -/
structure Plain (s : String) : Prop where
  head : ∃ c cs, s.toList = c :: cs ∧ c ≠ ' ' ∧ c ∉ indicators
  hasPair_eq : hasPair ':' ' ' s.toList = false
  getLast?_ne : s.toList.getLast? ≠ some ':'
  notReserved : Text.lower s ∉ reservedWords
  looksNumeric_eq : looksNumeric s = false

theorem plain_of_needsQuotes {s : String} (h : needsQuotes s = false) : Plain s := by
  simp only [needsQuotes, Bool.or_eq_false_iff, beq_eq_false_iff_ne] at h
  obtain ⟨⟨⟨⟨⟨⟨⟨⟨⟨hempty, -⟩, hspace⟩, -⟩, hhead⟩, hpair⟩, -⟩, hlast⟩, hword⟩, hnumeric⟩ := h
  refine ⟨?_, hpair, hlast, by simpa using hword, hnumeric⟩
  obtain ⟨c, cs, hcs⟩ := List.exists_cons_of_ne_nil (List.isEmpty_eq_false_iff.1 hempty)
  rw [hcs] at hspace hhead
  refine ⟨c, cs, hcs, ?_, ?_⟩
  · rintro rfl
    exact hspace rfl
  · simpa using hhead

theorem textScalar_cases (s : String) :
    textScalar s = quoted s ∨ (textScalar s = s ∧ Plain s) := by
  rw [textScalar]
  by_cases h : needsQuotes s = true
  · left
    exact if_pos h
  · right
    exact ⟨if_neg h, plain_of_needsQuotes (by simpa using h)⟩

/-- No scalar starts with a space, or with a mark other than a quote. -/
theorem exists_head_textScalar (s : String) :
    ∃ c cs, (textScalar s).toList = c :: cs ∧ c ≠ ' ' ∧ (c = '"' ∨ c ∉ indicators) := by
  rcases textScalar_cases s with h | ⟨h, hplain⟩
  · rw [h, toList_quoted]
    exact ⟨_, _, rfl, by decide, Or.inl rfl⟩
  · obtain ⟨c, cs, hcs, hspace, hind⟩ := hplain.head
    rw [h]
    exact ⟨c, cs, hcs, hspace, Or.inr hind⟩

/-! ## Keys -/

/-- What can stand behind the colon of a key. -/
def endsKey (rest : List Char) : Bool := rest.head?.all (· == ' ')

/-- Splits at the colon behind a key without quotes. -/
def splitPlain? : List Char → Option (List Char × List Char)
  | [] => none
  | c :: rest =>
    if c = ':' ∧ endsKey rest = true then some ([], rest)
    else (splitPlain? rest).map fun (key, behind) => (c :: key, behind)

/-- Splits at the colon behind a key. -/
def splitKey? : List Char → Option (List Char × List Char)
  | '"' :: rest =>
    match readQuoted? rest with
    | some (key, ':' :: behind) => some (key, behind)
    | _ => none
  | cs => splitPlain? cs

/-- A text without quotes goes on behind each of its colons. -/
theorem endsKey_eq_false {key rest : List Char} (hpair : hasPair ':' ' ' (':' :: key) = false)
    (hlast : (':' :: key).getLast? ≠ some ':') : endsKey (key ++ rest) = false := by
  cases key with
  | nil => exact absurd rfl hlast
  | cons d key =>
    simp only [hasPair, Bool.or_eq_false_iff] at hpair
    simpa [endsKey] using hpair.1

theorem hasPair_tail {a b c : Char} {cs : List Char} (h : hasPair a b (c :: cs) = false) :
    hasPair a b cs = false := by
  cases cs with
  | nil => rfl
  | cons d cs =>
    simp only [hasPair, Bool.or_eq_false_iff] at h
    exact h.2

theorem getLast?_tail_ne {c d : Char} {cs : List Char} (h : (c :: cs).getLast? ≠ some d) :
    cs.getLast? ≠ some d := by
  cases cs with
  | nil => simp
  | cons e cs => rwa [List.getLast?_cons_cons] at h

theorem splitPlain?_key {key rest : List Char} (hpair : hasPair ':' ' ' key = false)
    (hlast : key.getLast? ≠ some ':') (hrest : endsKey rest = true) :
    splitPlain? (key ++ ':' :: rest) = some (key, rest) := by
  induction key with
  | nil => rw [List.nil_append, splitPlain?, if_pos ⟨rfl, hrest⟩]
  | cons c key ih =>
    have hinside : ¬(c = ':' ∧ endsKey (key ++ ':' :: rest) = true) := by
      rintro ⟨rfl, hends⟩
      rw [endsKey_eq_false hpair hlast] at hends
      cases hends
    rw [List.cons_append, splitPlain?, if_neg hinside, ih (hasPair_tail hpair) (getLast?_tail_ne hlast)]
    rfl

theorem splitPlain?_eq_none {cs : List Char} (hpair : hasPair ':' ' ' cs = false)
    (hlast : cs.getLast? ≠ some ':') : splitPlain? cs = none := by
  induction cs with
  | nil => rfl
  | cons c cs ih =>
    have hinside : ¬(c = ':' ∧ endsKey cs = true) := by
      rintro ⟨rfl, hends⟩
      have hno : endsKey (cs ++ []) = false := endsKey_eq_false hpair hlast
      rw [List.append_nil, hends] at hno
      cases hno
    rw [splitPlain?, if_neg hinside, ih (hasPair_tail hpair) (getLast?_tail_ne hlast)]
    rfl

theorem splitPlain?_of_notMem {cs : List Char} (h : ':' ∉ cs) : splitPlain? cs = none := by
  induction cs with
  | nil => rfl
  | cons c cs ih =>
    rw [List.mem_cons, not_or] at h
    rw [splitPlain?, if_neg (fun hc => h.1 hc.1.symm), ih h.2]
    rfl

theorem splitKey?_eq_splitPlain? {c : Char} (h : c ≠ '"') (cs : List Char) :
    splitKey? (c :: cs) = splitPlain? (c :: cs) := by
  unfold splitKey?
  split
  · next heq => exact absurd (List.cons.inj heq).1 h
  · rfl

theorem ne_quote_of_notMem {c : Char} (h : c ∉ indicators) : c ≠ '"' := by
  rintro rfl
  exact h (by decide)

/-- **A key comes back from its row,** and so does what stands behind its colon. -/
theorem splitKey?_entry (key : String) {rest : List Char} (hrest : endsKey rest = true) :
    splitKey? ((textScalar key).toList ++ ':' :: rest) = some (key.toList, rest) := by
  rcases textScalar_cases key with h | ⟨h, hplain⟩
  · have hread := readQuoted?_escape key.toList (':' :: rest)
    rw [h, toList_quoted, List.cons_append, List.append_assoc, List.singleton_append, splitKey?, hread]
    rfl
  · obtain ⟨c, cs, hcs, -, hind⟩ := hplain.head
    have hsplit := splitPlain?_key hplain.hasPair_eq hplain.getLast?_ne hrest
    rw [h]
    rw [hcs, List.cons_append] at hsplit ⊢
    rw [splitKey?_eq_splitPlain? (ne_quote_of_notMem hind), hsplit]

/-- **A text comes back from its scalar.** -/
theorem textScalar_inj {s t : String} (h : textScalar s = textScalar t) : s = t := by
  have hs : splitKey? ((textScalar s).toList ++ [':']) = some (s.toList, []) := splitKey?_entry s rfl
  rw [h, splitKey?_entry t rfl] at hs
  exact (String.toList_inj.1 (congrArg Prod.fst (Option.some.inj hs))).symm

theorem splitKey?_textScalar (s : String) : splitKey? (textScalar s).toList = none := by
  rcases textScalar_cases s with h | ⟨h, hplain⟩
  · rw [h, toList_quoted, splitKey?, readQuoted?_escape]
  · obtain ⟨c, cs, hcs, -, hind⟩ := hplain.head
    have hsplit := splitPlain?_eq_none hplain.hasPair_eq hplain.getLast?_ne
    rw [h]
    rw [hcs] at hsplit ⊢
    rw [splitKey?_eq_splitPlain? (ne_quote_of_notMem hind), hsplit]

/-! ## Texts that look like numbers -/

/-- The sign does not matter to whether a text is a number. -/
theorem isSome_readMagnitude? (negative other : Bool) (cs : List Char) :
    (Numeric.readMagnitude? negative cs).isSome = (Numeric.readMagnitude? other cs).isSome := by
  unfold Numeric.readMagnitude?
  split
  · rfl
  · rfl
  · rfl
  · simp only [Numeric.readDecimal?, apply_ite Option.isSome, Option.isSome_map]

theorem readMagnitude?_sign {c : Char} (h : c = '-' ∨ c = '+') (negative : Bool) (cs : List Char) :
    Numeric.readMagnitude? negative (c :: cs) = none := by
  have hword : ∀ word : String, word.toList.head? ≠ some '-' → word.toList.head? ≠ some '+' →
      String.ofList ((c :: cs).map Char.toLower) ≠ word := by
    rintro word hminus hplus rfl
    rw [String.toList_ofList] at hminus hplus
    rcases h with rfl | rfl
    · exact hminus rfl
    · exact hplus rfl
  unfold Numeric.readMagnitude?
  split
  · next heq => exact absurd heq (hword "inf" (by decide) (by decide))
  · next heq => exact absurd heq (hword "infinity" (by decide) (by decide))
  · next heq => exact absurd heq (hword "nan" (by decide) (by decide))
  · rcases h with rfl | rfl
    · rfl
    · rfl

/-- A number without a sign is a number. -/
theorem isSome_readFloat?_ofList {negative : Bool} {cs : List Char}
    (h : (Numeric.readMagnitude? negative cs).isSome = true) :
    (Numeric.readFloat? (String.ofList cs)).isSome = true := by
  rw [Numeric.readFloat?, String.toList_ofList]
  split
  · rw [readMagnitude?_sign (Or.inl rfl)] at h
    cases h
  · rw [readMagnitude?_sign (Or.inr rfl)] at h
    cases h
  · rwa [isSome_readMagnitude? false negative]

/-- A text that is read as a number is one behind its sign, too. -/
theorem looksNumeric_of_readFloat? {s : String} (h : (Numeric.readFloat? s).isSome = true) :
    looksNumeric s = true := by
  have hfloat : (Numeric.readFloat? (String.ofList (dropSign s.toList))).isSome = true := by
    unfold Numeric.readFloat? at h
    unfold dropSign
    split at h
    · next hs =>
      rw [hs]
      exact isSome_readFloat?_ofList h
    · next hs =>
      rw [hs]
      exact isSome_readFloat?_ofList h
    · next hminus hplus =>
      split
      · next hs => exact absurd hs (hplus _)
      · next hs => exact absurd hs (hminus _)
      · exact isSome_readFloat?_ofList h
  rw [looksNumeric, hfloat, Bool.true_or, Bool.true_or, Bool.true_or]

/-! ## Trees on one line -/

/-- Whether a tree is written on one line wherever it stands. -/
def isInline : Json → Bool
  | .array items => isFlow items
  | .object entries => entries.isEmpty
  | _ => true

/-- The kinds of trees. -/
inductive Shape where
  | null
  | bool
  | number
  | string
  | array
  | object
deriving DecidableEq, Repr

/-- The kind of a tree. -/
def shapeOf : Json → Shape
  | .null => .null
  | .bool _ => .bool
  | .number _ => .number
  | .string _ => .string
  | .array _ => .array
  | .object _ => .object

/-- The kind of the tree that stands on a line. -/
def shape (text : String) : Shape :=
  if text = "null" then .null
  else if text = "true" ∨ text = "false" then .bool
  else match text.toList.head? with
    | some '[' => .array
    | some '\x7b' => .object
    | some '"' => .string
    | _ => if (Numeric.readFloat? text).isSome then .number else .string

theorem shape_of_ne {text : String} (h : text ∉ ["null", "true", "false"]) :
    shape text = match text.toList.head? with
      | some '[' => .array
      | some '\x7b' => .object
      | some '"' => .string
      | _ => if (Numeric.readFloat? text).isSome then .number else .string := by
  simp only [List.mem_cons, List.not_mem_nil, or_false, not_or] at h
  rw [shape, if_neg h.1, if_neg (not_or.2 h.2)]

theorem shape_of_head {text : String} {c : Char} {cs : List Char} (htext : text.toList = c :: cs)
    (hwords : text ∉ ["null", "true", "false"]) (hc : c ∉ ['[', '\x7b', '"']) :
    shape text = if (Numeric.readFloat? text).isSome then .number else .string := by
  simp only [List.mem_cons, List.not_mem_nil, or_false, not_or] at hc
  rw [shape_of_ne hwords, htext, List.head?_cons]
  split
  · next heq => exact absurd (Option.some.inj heq) hc.1
  · next heq => exact absurd (Option.some.inj heq) hc.2.1
  · next heq => exact absurd (Option.some.inj heq) hc.2.2
  · rfl

/-- The words that stand for a truth value or for nothing. -/
theorem notMem_words_number {n : Number} (h : (Numeric.readFloat? n.text).isSome = true) :
    n.text ∉ ["null", "true", "false"] := by
  have hwords : ∀ word ∈ ["null", "true", "false"], (Numeric.readFloat? word).isSome = false := by
    decide
  intro hmem
  rw [hwords _ hmem] at h
  cases h

theorem notMem_words_textScalar (s : String) : textScalar s ∉ ["null", "true", "false"] := by
  have hreserved : ∀ word ∈ ["null", "true", "false"], Text.lower word ∈ reservedWords := by decide
  have hquote : ∀ word ∈ ["null", "true", "false"], word.toList.head? ≠ some '"' := by decide
  rcases textScalar_cases s with h | ⟨h, hplain⟩
  · rw [h]
    exact fun hmem => hquote _ hmem (head?_quoted s)
  · rw [h]
    exact fun hmem => hplain.notReserved (hreserved _ hmem)

theorem exists_head_number {n : Number} (h : (Numeric.readFloat? n.text).isSome = true) :
    ∃ c cs, n.text.toList = c :: cs ∧ Numeric.isNumberChar c = true := by
  cases hcs : n.text.toList with
  | nil =>
    have hempty : n.text = "" := String.toList_inj.1 hcs
    rw [hempty] at h
    exact absurd h (by decide)
  | cons c cs =>
    have hmem : c ∈ n.text.toList := by
      rw [hcs]
      exact List.mem_cons_self
    exact ⟨c, cs, rfl, isNumberChar_of_mem_text hmem⟩

theorem shape_number {n : Number} (h : (Numeric.readFloat? n.text).isSome = true) :
    shape n.text = .number := by
  obtain ⟨c, cs, hcs, hc⟩ := exists_head_number h
  rw [shape_of_head hcs (notMem_words_number h), if_pos h]
  intro hmem
  simp only [List.mem_cons, List.not_mem_nil, or_false] at hmem
  rcases hmem with rfl | rfl | rfl
  · exact absurd hc (by decide)
  · exact absurd hc (by decide)
  · exact absurd hc (by decide)

theorem shape_textScalar (s : String) : shape (textScalar s) = .string := by
  have hwords := notMem_words_textScalar s
  rcases textScalar_cases s with h | ⟨h, hplain⟩
  · rw [shape_of_ne hwords, h, head?_quoted]
    rfl
  · obtain ⟨c, cs, hcs, -, hind⟩ := hplain.head
    rw [h] at hwords
    rw [h, shape_of_head hcs hwords]
    · refine if_neg fun hfloat => ?_
      have hlooks := hplain.looksNumeric_eq
      rw [looksNumeric_of_readFloat? hfloat] at hlooks
      cases hlooks
    · have hmarks : ['[', '\x7b', '"'].all indicators.contains = true := by decide
      exact fun hmem => hind (List.contains_iff_mem.1 (List.all_eq_true.1 hmarks c hmem))

/-- **The kind of a tree shows in its line.** -/
theorem shape_inlineText (hleg : Legible leaves) {j : Json} (hj : j.leaves ⊆ leaves) :
    shape (inlineText j) = shapeOf j := by
  cases j with
  | null => decide
  | bool b => cases b <;> decide
  | number n => exact shape_number (hleg.isNumeral n (hj List.mem_cons_self))
  | string s => exact shape_textScalar s
  | array items =>
    rw [inlineText, String.append_assoc, shape_of_ne, String.toList_append]
    · rfl
    · intro hmem
      have hhead : ∀ word ∈ ["null", "true", "false"], word.toList.head? ≠ some '[' := by decide
      refine hhead _ hmem ?_
      rw [String.toList_append]
      rfl
  | object entries => exact (by decide : shape "\x7b\x7d" = .object)

/-! ## Sequences on one line -/

/-- The parts of a sequence come apart at its commas. -/
theorem splitOn_join_comma {part : String} {parts : List String} (hpart : ',' ∉ part.toList)
    (h : ∀ s ∈ parts, ',' ∉ s.toList) :
    splitOn ',' (join ", " (part :: parts)).toList
      = part.toList :: parts.map fun s => ' ' :: s.toList := by
  induction parts generalizing part with
  | nil => rw [join, String.intercalate_singleton, splitOn_eq_singleton hpart, List.map_nil]
  | cons next parts ih =>
    rw [List.forall_mem_cons] at h
    have hchars : (join ", " (part :: next :: parts)).toList
        = part.toList ++ ',' :: ' ' :: (join ", " (next :: parts)).toList := by
      simp [join, String.intercalate_cons_cons]
    rw [hchars, splitOn_append_cons hpart, splitOn, if_neg (by decide), ih h.1 h.2, List.map_cons]

/-- Only the characters of numbers stand between the commas. -/
theorem notMem_scalarItem {c : Char} (hc : Numeric.isNumberChar c = false) (j : Json) :
    c ∉ (inlineText.scalarItem j).toList := by
  cases j with
  | number n =>
    intro hmem
    rw [isNumberChar_of_mem_text hmem] at hc
    cases hc
  | _ => exact List.not_mem_nil

theorem notMem_scalarItems {c : Char} (hc : Numeric.isNumberChar c = false) (items : List Json) :
    ∀ s ∈ items.map inlineText.scalarItem, c ∉ s.toList :=
  List.forall_mem_map.2 fun j _ => notMem_scalarItem hc j

/-- **Sequences of numbers are equal if their texts are,** one by one. -/
theorem scalarItems_inj (hleg : Legible leaves) {items others : List Json}
    (hitems : Json.itemLeaves items ⊆ leaves) (hothers : Json.itemLeaves others ⊆ leaves)
    (hflow : isFlow items = true) (hflow' : isFlow others = true)
    (h : items.map inlineText.scalarItem = others.map inlineText.scalarItem) : items = others := by
  induction items generalizing others with
  | nil =>
    rw [List.map_nil, eq_comm, List.map_eq_nil_iff] at h
    exact h.symm
  | cons j items ih =>
    obtain ⟨j', others, rfl⟩ : ∃ j' rest, others = j' :: rest := by
      cases others with
      | nil => cases h
      | cons j' rest => exact ⟨j', rest, rfl⟩
    rw [isFlow, List.all_cons, Bool.and_eq_true] at hflow hflow'
    rw [Json.itemLeaves, List.append_subset] at hitems hothers
    rw [List.map_cons, List.map_cons, List.cons.injEq] at h
    have hrest : items = others := ih hitems.2 hothers.2 hflow.2 hflow'.2 h.2
    cases j with
    | number m =>
      cases j' with
      | number n =>
        rw [hrest, hleg.text_inj m n (hitems.1 List.mem_cons_self) (hothers.1 List.mem_cons_self) h.1]
      | _ => cases hflow'.1
    | _ => cases hflow.1

/-- The items of a sequence that is not empty do not come to the empty text. -/
theorem join_scalarItems_ne (hleg : Legible leaves) {j : Json} {items : List Json}
    (hitems : Json.itemLeaves (j :: items) ⊆ leaves) (hflow : isFlow (j :: items) = true) :
    join ", " ((j :: items).map inlineText.scalarItem) ≠ join ", " [] := by
  intro h
  have hpieces : splitOn ',' (join ", " ((j :: items).map inlineText.scalarItem)).toList = [[]] := by
    rw [h]
    rfl
  rw [List.map_cons, splitOn_join_comma (notMem_scalarItem (by decide) j)
    (notMem_scalarItems (by decide) items)] at hpieces
  rw [isFlow, List.all_cons, Bool.and_eq_true] at hflow
  rw [Json.itemLeaves, List.append_subset] at hitems
  cases j with
  | number n =>
    obtain ⟨c, cs, hcs, -⟩ := exists_head_number (hleg.isNumeral n (hitems.1 List.mem_cons_self))
    have hempty : n.text.toList = [] := (List.cons.inj hpieces).1
    rw [hcs] at hempty
    cases hempty
  | _ => cases hflow.1

theorem join_scalarItems_inj (hleg : Legible leaves) {items others : List Json}
    (hitems : Json.itemLeaves items ⊆ leaves) (hothers : Json.itemLeaves others ⊆ leaves)
    (hflow : isFlow items = true) (hflow' : isFlow others = true)
    (h : join ", " (items.map inlineText.scalarItem) = join ", " (others.map inlineText.scalarItem)) :
    items = others := by
  cases items with
  | nil =>
    cases others with
    | nil => rfl
    | cons j' others => exact absurd h.symm (join_scalarItems_ne hleg hothers hflow')
  | cons j items =>
    cases others with
    | nil => exact absurd h (join_scalarItems_ne hleg hitems hflow)
    | cons j' others =>
      refine scalarItems_inj hleg hitems hothers hflow hflow' ?_
      -- Neither list is empty, so their texts fall into as many pieces as they have items.
      have hcomma : Numeric.isNumberChar ',' = false := by decide
      have hpieces := congrArg (fun s : String => splitOn ',' s.toList) h
      simp only [List.map_cons, splitOn_join_comma (notMem_scalarItem hcomma _)
        (notMem_scalarItems hcomma _), List.cons.injEq] at hpieces
      have hspace : Function.Injective fun s : String => ' ' :: s.toList := fun s t hst =>
        String.toList_inj.1 (List.cons.inj hst).2
      rw [List.map_cons, List.map_cons, String.toList_inj.1 hpieces.1,
        List.map_injective_iff.2 hspace hpieces.2]

/-- **A tree on one line comes back from its text.** -/
theorem inlineText_inj (hleg : Legible leaves) {j j' : Json} (hj : j.leaves ⊆ leaves)
    (hj' : j'.leaves ⊆ leaves) (hin : isInline j = true) (hin' : isInline j' = true)
    (h : inlineText j = inlineText j') : j = j' := by
  have hshape : shapeOf j = shapeOf j' := by
    rw [← shape_inlineText hleg hj, ← shape_inlineText hleg hj', h]
  cases j with
  | null =>
    cases j' with
    | null => rfl
    | _ => cases hshape
  | bool b =>
    cases j' with
    | bool b' =>
      have hbool : ∀ b b' : Bool, inlineText (.bool b) = inlineText (.bool b') → b = b' := by decide
      rw [hbool b b' h]
    | _ => cases hshape
  | number m =>
    cases j' with
    | number n => rw [hleg.text_inj m n (hj List.mem_cons_self) (hj' List.mem_cons_self) h]
    | _ => cases hshape
  | string s =>
    cases j' with
    | string t => rw [textScalar_inj h]
    | _ => cases hshape
  | array items =>
    cases j' with
    | array others =>
      rw [inlineText, inlineText, String.append_left_inj, String.append_right_inj] at h
      rw [join_scalarItems_inj hleg hj hj' hin hin' h]
    | _ => cases hshape
  | object entries =>
    cases j' with
    | object others => rw [List.isEmpty_iff.1 hin, List.isEmpty_iff.1 hin']
    | _ => cases hshape

/-! ## Rows that start something -/

/-- Whether a row starts an entry or an item. -/
def isLead (body : String) : Bool :=
  "- ".toList.isPrefixOf body.toList || (splitKey? body.toList).isSome

theorem splitKey?_of_notMem {c : Char} {cs : List Char} (hc : c ≠ '"') (h : ':' ∉ c :: cs) :
    splitKey? (c :: cs) = none := by
  rw [splitKey?_eq_splitPlain? hc, splitPlain?_of_notMem h]

theorem isLead_eq_false {body : String} (hdash : ¬"- ".toList <+: body.toList)
    (hkey : splitKey? body.toList = none) : isLead body = false := by
  rw [isLead, hkey, Bool.or_eq_false_iff, ← Bool.not_eq_true, List.isPrefixOf_iff_prefix]
  exact ⟨hdash, rfl⟩

theorem not_dash_of_head {c : Char} {cs : List Char} (hc : c ≠ '-') : ¬"- ".toList <+: c :: cs :=
  fun hpre => hc (List.cons_prefix_cons.1 hpre).1.symm

/-- **A tree on one line starts neither an entry nor an item.** -/
theorem isLead_inlineText (hleg : Legible leaves) {j : Json} (hj : j.leaves ⊆ leaves)
    (hin : isInline j = true) : isLead (inlineText j) = false := by
  cases j with
  | null => decide
  | bool b => cases b <;> decide
  | number n =>
    obtain ⟨c, cs, hcs, hc⟩ := exists_head_number (hleg.isNumeral n (hj List.mem_cons_self))
    have hno : ∀ d, Numeric.isNumberChar d = false → d ∉ n.text.toList := fun d hd =>
      notMem_scalarItem hd (.number n)
    -- A number may start with a dash, but it has neither a space nor a colon.
    refine isLead_eq_false (fun hpre => hno ' ' (by decide) (hpre.subset (by decide))) ?_
    have hcolon := hno ':' (by decide)
    show splitKey? n.text.toList = none
    rw [hcs] at hcolon ⊢
    refine splitKey?_of_notMem ?_ hcolon
    rintro rfl
    exact absurd hc (by decide)
  | string s =>
    refine isLead_eq_false ?_ (splitKey?_textScalar s)
    obtain ⟨c, cs, hcs, -, hind⟩ := exists_head_textScalar s
    show ¬"- ".toList <+: (textScalar s).toList
    rw [hcs]
    refine not_dash_of_head ?_
    rintro rfl
    rcases hind with hquote | hind
    · exact absurd hquote (by decide)
    · exact hind (by decide)
  | array items =>
    have hcolon : ':' ∉ (inlineText (.array items)).toList := by
      have hitems : ':' ∉ (join ", " (items.map inlineText.scalarItem)).toList :=
        notMem_join (by decide) (notMem_scalarItems (by decide) items)
      rw [inlineText, String.toList_append, String.toList_append, List.mem_append, List.mem_append]
      rintro ((h | h) | h)
      · exact absurd h (by decide)
      · exact hitems h
      · exact absurd h (by decide)
    have hhead : (inlineText (.array items)).toList
        = '[' :: ((join ", " (items.map inlineText.scalarItem)).toList ++ [']']) := by
      rw [inlineText, String.append_assoc, String.toList_append, String.toList_append]
      rfl
    rw [hhead] at hcolon
    refine isLead_eq_false ?_ ?_
    · rw [hhead]
      exact not_dash_of_head (by decide)
    · rw [hhead, splitKey?_of_notMem (by decide) hcolon]
  | object entries => exact (by decide : isLead "\x7b\x7d" = false)

end Yaml

end DisplayLayout
