import DisplayLayout.Line
import DisplayLayout.Proofs.Keyed
import DisplayLayout.Proofs.Text.Words

/-!
# Comment lines read back

A marker is written on one line and read back as itself: the lexer finds the
key and the value of every field (`tokens_fieldChars`), the pairs of the tokens
are the fields (`pairs_fieldTokens`), and trimming the line takes nothing away. Facts about a page are read back in the same way.
Main statement: `classify_comment_line`.
-/

namespace DisplayLayout

/-! ## Character classes -/

namespace Text

theorem isBlank_of_isGap {c : Char} (h : Marker.isGap c = true) : isBlank c = true := by
  simp only [Marker.isGap, Bool.or_eq_true, beq_iff_eq] at h
  rcases h with ((rfl | rfl) | rfl) | rfl <;> decide

end Text

namespace Marker

theorem isWordPart_of_isWordChar {c : Char} (h : Text.isWordChar c = true) :
    isWordPart c = true := by
  have hgap : isGap c = false := by
    by_contra hc
    have := Text.isBlank_of_isGap (eq_true_of_ne_false hc)
    rw [Text.isBlank_eq_false_of_isWordChar h] at this
    exact Bool.noConfusion this
  have hquote : c ≠ '"' := Text.ne_of_isWordChar h (by decide)
  have hcolon : c ≠ ':' := Text.ne_of_isWordChar h (by decide)
  simp [isWordPart, hgap, hquote, hcolon]

/-- What may stand in a bare value may stand in a word. -/
theorem isWordPart_of_not_endsBare {c : Char} (h : endsBare c = false) : isWordPart c = true := by
  simp only [endsBare, Bool.or_eq_false_iff, beq_eq_false_iff_ne] at h
  obtain ⟨⟨⟨hblank, hquote⟩, hcolon⟩, -⟩ := h
  have hgap : isGap c = false := by
    by_contra hc
    rw [Text.isBlank_of_isGap (eq_true_of_ne_false hc)] at hblank
    exact Bool.noConfusion hblank
  simp [isWordPart, hgap, hquote, hcolon]

theorem not_isGap_of_isWordPart {c : Char} (h : isWordPart c = true) : isGap c = false := by
  simp only [isWordPart, Bool.and_eq_true, Bool.not_eq_true'] at h
  exact h.1.1

theorem ne_quote_of_isWordPart {c : Char} (h : isWordPart c = true) : c ≠ '"' := by
  rintro rfl
  exact absurd h (by decide)

theorem ne_colon_of_isWordPart {c : Char} (h : isWordPart c = true) : c ≠ ':' := by
  rintro rfl
  exact absurd h (by decide)

/-! ## The lexer on what is written -/

theorem tokens_nil : tokens [] = [] := by rw [tokens]

theorem tokens_cons (c : Char) (rest : List Char) :
    tokens (c :: rest) = (scan c rest).1 :: tokens (scan c rest).2 := by rw [tokens]

/-- A plain word with a colon behind it is a key. -/
theorem tokens_key {word : List Char} (h : Text.isWord word = true) (rest : List Char) :
    tokens (word ++ ':' :: rest) = ⟨.key, word ++ [':']⟩ :: tokens rest := by
  obtain ⟨hne, hall⟩ := Text.isWord_iff.1 h
  obtain ⟨c, cs, rfl⟩ := List.exists_cons_of_ne_nil hne
  have hpart : ∀ d ∈ c :: cs, isWordPart d = true := fun d hd =>
    isWordPart_of_isWordChar (hall d hd)
  have hc : isWordPart c = true := hpart c List.mem_cons_self
  have hcs : ∀ d ∈ cs, isWordPart d = true := fun d hd => hpart d (List.mem_cons_of_mem _ hd)
  have htake : (cs ++ ':' :: rest).takeWhile isWordPart = cs :=
    Text.takeWhile_append_cons hcs (by decide) rest
  have hdrop : (cs ++ ':' :: rest).dropWhile isWordPart = ':' :: rest :=
    Text.dropWhile_append_cons hcs (by decide) rest
  have hscan : scan c (cs ++ ':' :: rest) = (⟨.key, c :: cs ++ [':']⟩, rest) := by
    rw [scan, if_neg (by simp [not_isGap_of_isWordPart hc]), if_neg (ne_quote_of_isWordPart hc),
      if_neg (ne_colon_of_isWordPart hc)]
    simp only [htake, hdrop, List.all_eq_true.2 hall, if_true]
  rw [List.cons_append, tokens_cons, hscan]

/-- What follows a value: nothing, or a blank before the next field. -/
def StartsWithGap : List Char → Prop
  | [] => True
  | c :: _ => isGap c = true

/-- A bare value is one word. -/
theorem tokens_bare {value : List Char} (hne : value ≠ [])
    (h : ∀ c ∈ value, isWordPart c = true) {rest : List Char} (hrest : StartsWithGap rest) :
    tokens (value ++ rest) = ⟨.word, value⟩ :: tokens rest := by
  obtain ⟨c, cs, rfl⟩ := List.exists_cons_of_ne_nil hne
  have hc : isWordPart c = true := h c List.mem_cons_self
  have hcs : ∀ d ∈ cs, isWordPart d = true := fun d hd => h d (List.mem_cons_of_mem _ hd)
  have hstop : rest.takeWhile isWordPart = [] ∧ rest.dropWhile isWordPart = rest := by
    cases rest with
    | nil => exact ⟨rfl, rfl⟩
    | cons d rest =>
      have hd : ¬isWordPart d = true := by
        intro hd
        rw [StartsWithGap, not_isGap_of_isWordPart hd] at hrest
        exact Bool.noConfusion hrest
      exact ⟨List.takeWhile_cons_of_neg hd, List.dropWhile_cons_of_neg hd⟩
  have htake : (cs ++ rest).takeWhile isWordPart = cs := by
    rw [List.takeWhile_append_of_pos hcs, hstop.1, List.append_nil]
  have hdrop : (cs ++ rest).dropWhile isWordPart = rest := by
    rw [List.dropWhile_append_of_pos hcs, hstop.2]
  have hscan : scan c (cs ++ rest) = (⟨.word, c :: cs⟩, rest) := by
    rw [scan, if_neg (by simp [not_isGap_of_isWordPart hc]), if_neg (ne_quote_of_isWordPart hc),
      if_neg (ne_colon_of_isWordPart hc)]
    simp only [htake, hdrop]
    cases rest with
    | nil => rfl
    | cons d rest =>
      have hd : d ≠ ':' := by
        rintro rfl
        exact absurd (show isGap ':' = true from hrest) (by decide)
      split
      · next heq => exact absurd (List.cons.inj heq).1 hd
      · rfl
  rw [List.cons_append, tokens_cons, hscan]

/-- An escaped character does not end a quoted text. -/
theorem scanQuoted_escapeChar_append (c : Char) (rest : List Char) :
    scanQuoted (escapeChar c ++ rest)
      = (escapeChar c ++ (scanQuoted rest).1, (scanQuoted rest).2.1, (scanQuoted rest).2.2) := by
  have escaped : ∀ d : Char, isBreak d = false →
      scanQuoted ('\\' :: d :: rest)
        = ('\\' :: d :: (scanQuoted rest).1, (scanQuoted rest).2.1, (scanQuoted rest).2.2) := by
    intro d hd
    rw [scanQuoted.eq_def]
    simp [show isBreak '\\' = false by decide, hd]
  unfold escapeChar
  split
  · exact escaped '"' (by decide)
  split
  · exact escaped '\\' (by decide)
  split
  · exact escaped 'n' (by decide)
  split
  · exact escaped 'r' (by decide)
  · next hquote hslash hfeed hreturn =>
    have hbreak : isBreak c = false := by simp [isBreak, hfeed, hreturn]
    show scanQuoted (c :: rest) = _
    rw [scanQuoted.eq_def]
    simp [hquote, hbreak, hslash]

theorem scanQuoted_escape_append (cs rest : List Char) :
    scanQuoted (escape cs ++ '"' :: rest) = (escape cs ++ ['"'], true, rest) := by
  induction cs with
  | nil =>
    show scanQuoted ('"' :: rest) = _
    rw [scanQuoted.eq_def]
    rfl
  | cons c cs ih =>
    rw [escape, List.flatMap_cons, List.append_assoc, scanQuoted_escapeChar_append]
    rw [escape] at ih
    rw [ih, List.append_assoc]

theorem toList_quote (s : String) : (quote s).toList = '"' :: escape s.toList ++ ['"'] := by
  rw [quote, String.toList_ofList]

/-- A quoted value is one token. -/
theorem tokens_quote (s : String) (rest : List Char) :
    tokens ((quote s).toList ++ rest) = ⟨.quoted, (quote s).toList⟩ :: tokens rest := by
  have hscan : scan '"' (escape s.toList ++ '"' :: rest) = (⟨.quoted, (quote s).toList⟩, rest) := by
    rw [scan, if_neg (by decide), if_pos rfl, scanQuoted_escape_append, toList_quote]
    rfl
  have hbody : (quote s).toList ++ rest = '"' :: (escape s.toList ++ '"' :: rest) := by
    simp [toList_quote]
  rw [hbody, tokens_cons, hscan]

/-- A single blank before a word is a token of its own. -/
theorem tokens_space {c : Char} (h : isGap c = false) (rest : List Char) :
    tokens (' ' :: c :: rest) = ⟨.whitespace, [' ']⟩ :: tokens (c :: rest) := by
  have hscan : scan ' ' (c :: rest) = (⟨.whitespace, [' ']⟩, c :: rest) := by
    rw [scan, if_pos (by decide), List.takeWhile_cons_of_neg (by simp [h]),
      List.dropWhile_cons_of_neg (by simp [h])]
  rw [tokens_cons, hscan]

/-! ## Values -/

/-- A value that is written as it is. -/
def IsBare (s : String) : Prop := s ≠ "" ∧ ∀ c ∈ s.toList, endsBare c = false

instance (s : String) : Decidable (IsBare s) :=
  inferInstanceAs (Decidable (s ≠ "" ∧ ∀ c ∈ s.toList, endsBare c = false))

theorem encode_eq (s : String) : encode s = if IsBare s then s else quote s := by
  by_cases hne : s = ""
  · rw [hne]
    rfl
  · by_cases h : ∀ c ∈ s.toList, endsBare c = false
    · have hany : s.toList.any endsBare = false := by simpa using h
      rw [encode, String.isEmpty_eq_false_iff.2 hne, hany, if_pos (show IsBare s from ⟨hne, h⟩)]
      rfl
    · have hany : s.toList.any endsBare = true := by simpa using h
      rw [encode, hany, Bool.or_true, if_pos rfl, if_neg fun hb => h hb.2]

/-- The token of a value. -/
def valueToken (s : String) : Token :=
  if IsBare s then ⟨.word, s.toList⟩ else ⟨.quoted, (quote s).toList⟩

theorem tokens_encode (s : String) {rest : List Char} (hrest : StartsWithGap rest) :
    tokens ((encode s).toList ++ rest) = valueToken s :: tokens rest := by
  rw [encode_eq, valueToken]
  split
  · next h =>
    have hne : s.toList ≠ [] := by simpa using h.1
    exact tokens_bare hne (fun c hc => isWordPart_of_not_endsBare (h.2 c hc)) hrest
  · exact tokens_quote s rest

/-- No line break is among characters that are all found not to be one. -/
theorem unbroken_of_all {l : List Char} (h : l.all (!isBreak ·) = true) {c : Char} (hc : c ∈ l) :
    isBreak c = false := by
  simpa using List.all_eq_true.1 h c hc

theorem escapeChar_unbroken {c d : Char} (h : d ∈ escapeChar c) : isBreak d = false := by
  unfold escapeChar at h
  split at h
  · exact unbroken_of_all (by decide) h
  split at h
  · exact unbroken_of_all (by decide) h
  split at h
  · exact unbroken_of_all (by decide) h
  split at h
  · exact unbroken_of_all (by decide) h
  · next hfeed hreturn =>
    rw [List.mem_singleton.1 h]
    simp [isBreak, hfeed, hreturn]

/-- A value in quotes holds no line break. -/
theorem quote_unbroken {s : String} {c : Char} (h : c ∈ (quote s).toList) : isBreak c = false := by
  rw [toList_quote, List.mem_append, List.mem_cons, List.mem_singleton] at h
  rcases h with (rfl | h) | rfl
  · decide
  · obtain ⟨d, -, hd⟩ := List.mem_flatMap.1 h
    exact escapeChar_unbroken hd
  · decide

theorem isBlank_of_isBreak {c : Char} (h : isBreak c = true) : Text.isBlank c = true := by
  simp only [isBreak, Bool.or_eq_true, beq_iff_eq] at h
  rcases h with rfl | rfl <;> decide

theorem isBreak_eq_false_of_isBlank {c : Char} (h : Text.isBlank c = false) : isBreak c = false := by
  by_contra hc
  rw [isBlank_of_isBreak (eq_true_of_ne_false hc)] at h
  exact Bool.noConfusion h

theorem isBlank_of_not_endsBare {c : Char} (h : endsBare c = false) : Text.isBlank c = false := by
  simp only [endsBare, Bool.or_eq_false_iff] at h
  exact h.1.1.1

/-- No value brings a line break with it. -/
theorem encode_unbroken {s : String} {c : Char} (h : c ∈ (encode s).toList) : isBreak c = false := by
  rw [encode_eq] at h
  split at h
  · next hb => exact isBreak_eq_false_of_isBlank (isBlank_of_not_endsBare (hb.2 c h))
  · exact quote_unbroken h

theorem getLast?_quote (s : String) : (quote s).toList.getLast? = some '"' := by
  rw [toList_quote, List.getLast?_append, List.getLast?_singleton, Option.some_or]

theorem encode_toList_ne_nil (s : String) : (encode s).toList ≠ [] := by
  rw [encode_eq]
  split
  · next hb => simpa using hb.1
  · simp [toList_quote]

/-- A value ends in a quote, or in what may stand in a bare value. -/
theorem quote_or_bare_of_getLast?_encode {s : String} {c : Char}
    (h : (encode s).toList.getLast? = some c) : c = '"' ∨ endsBare c = false := by
  rw [encode_eq] at h
  split at h
  · next hb => exact Or.inr (hb.2 c (List.mem_of_getLast? h))
  · rw [getLast?_quote] at h
    exact Or.inl (Option.some.inj h).symm

/-! ## Fields -/

/-- The characters of fields behind a type. -/
def fieldChars (fields : Keyed String) : List Char :=
  fields.flatMap fun p => ' ' :: (renderPair p).toList

/-- The tokens of fields. -/
def fieldTokens (fields : Keyed String) : List Token :=
  fields.flatMap fun p =>
    [⟨.whitespace, [' ']⟩, ⟨.key, p.1.toList ++ [':']⟩, valueToken p.2]

theorem startsWithGap_fieldChars (fields : Keyed String) : StartsWithGap (fieldChars fields) := by
  cases fields with
  | nil => trivial
  | cons p fields => exact show isGap ' ' = true by decide

/-- **Fields are cut where they were put together.** -/
theorem tokens_fieldChars {fields : Keyed String}
    (h : ∀ k ∈ fields.keys, Text.isWord k.toList = true) :
    tokens (fieldChars fields) = fieldTokens fields := by
  induction fields with
  | nil => exact tokens_nil
  | cons p fields ih =>
    obtain ⟨k, v⟩ := p
    have hk : Text.isWord k.toList = true := h k List.mem_cons_self
    have ih := ih fun j hj => h j (List.mem_cons_of_mem _ hj)
    have hchars : fieldChars ((k, v) :: fields)
        = ' ' :: (k.toList ++ ':' :: ((encode v).toList ++ fieldChars fields)) := by
      simp [fieldChars, renderPair]
    obtain ⟨hne, hall⟩ := Text.isWord_iff.1 hk
    obtain ⟨c, cs, hcs⟩ := List.exists_cons_of_ne_nil hne
    have hgap : isGap c = false :=
      not_isGap_of_isWordPart (isWordPart_of_isWordChar (hall c (hcs ▸ List.mem_cons_self)))
    rw [hchars, hcs, List.cons_append, tokens_space hgap, ← List.cons_append, ← hcs, tokens_key hk,
      tokens_encode v (startsWithGap_fieldChars fields), ih]
    rfl

theorem pairs_nil : pairs [] = [] := by rw [pairs]

theorem pairs_key {t : Token} (h : t.kind = .key) (rest : List Token) :
    pairs (t :: rest) = (keyName t, (valueOf rest).1) :: pairs (valueOf rest).2 := by
  rw [pairs, if_pos h]

theorem pairs_skip {t : Token} (h : t.kind ≠ .key) (rest : List Token) :
    pairs (t :: rest) = pairs rest := by
  rw [pairs, if_neg h]

/-- A word in front of fields is a value of its own: the blank behind it does not count. -/
theorem valueOf_word {word : List Char} (h : ∀ c ∈ word, Text.isBlank c = false)
    (fields : Keyed String) :
    (valueOf (⟨.word, word⟩ :: fieldTokens fields)).1 = String.ofList word ∧
      pairs (valueOf (⟨.word, word⟩ :: fieldTokens fields)).2 = pairs (fieldTokens fields) := by
  have htrim : Text.trimChars word = word :=
    Text.trimChars_eq_self (fun c hc => h c (List.mem_of_mem_head? hc))
      (fun c hc => h c (List.mem_of_getLast? hc))
  have hword : TokenKind.isBarePart .word = true := rfl
  have hgap : TokenKind.isBarePart .whitespace = true := rfl
  have hkey : TokenKind.isBarePart .key = false := rfl
  rw [valueOf, if_neg fun hc => TokenKind.noConfusion hc.1]
  cases fields with
  | nil => simp [fieldTokens, hword, htrim]
  | cons p fields =>
    refine ⟨?_, ?_⟩
    · have hspace : Text.trimChars (word ++ [' ']) = word := by
        rw [Text.trimChars_append_blank (by decide), htrim]
      simp [fieldTokens, hword, hgap, hkey, hspace]
    · simp only [fieldTokens, List.flatMap_cons, List.cons_append, List.nil_append]
      rw [pairs_skip (t := ⟨.whitespace, [' ']⟩) (by decide)]
      simp [hword, hgap, hkey]

/-- A value in front of fields is read back. -/
theorem valueOf_valueToken (v : String) (fields : Keyed String) :
    (valueOf (valueToken v :: fieldTokens fields)).1 = v ∧
      pairs (valueOf (valueToken v :: fieldTokens fields)).2 = pairs (fieldTokens fields) := by
  rw [valueToken]
  split
  · next hb =>
    have h := valueOf_word (fun c hc => isBlank_of_not_endsBare (hb.2 c hc)) fields
    rwa [String.ofList_toList] at h
  · have hboundary : atBoundary (fieldTokens fields) = true := by
      cases fields <;> rfl
    rw [valueOf, if_pos ⟨rfl, hboundary⟩]
    exact ⟨by rw [String.ofList_toList, unquote_quote], rfl⟩

/-- **The pairs of the tokens of fields are the fields.** -/
theorem pairs_fieldTokens (fields : Keyed String) : pairs (fieldTokens fields) = fields := by
  induction fields with
  | nil => exact pairs_nil
  | cons p fields ih =>
    obtain ⟨k, v⟩ := p
    obtain ⟨hvalue, hrest⟩ := valueOf_valueToken v fields
    have hname : keyName ⟨.key, k.toList ++ [':']⟩ = k := by simp [keyName]
    rw [fieldTokens, List.flatMap_cons, ← fieldTokens, List.cons_append, List.cons_append,
      List.cons_append, List.nil_append, pairs_skip (by decide), pairs_key rfl, hvalue, hrest, ih,
      hname]

/-! ## Records -/

/-- A marker whose type and keys are plain words, with no key twice. -/
structure IsPlain (m : Marker) : Prop where
  type_word : Text.isWord m.type.toList = true
  keys_word : ∀ k ∈ m.fields.keys, Text.isWord k.toList = true
  keys_nodup : m.fields.keys.Nodup

theorem toList_render (m : Marker) :
    m.render.toList = "widget".toList ++ ':' :: (m.type.toList ++ fieldChars m.fields) := by
  have hjoin : (String.join (m.fields.map fun p => " " ++ renderPair p)).toList
      = fieldChars m.fields := by
    induction m.fields with
    | nil => rfl
    | cons p fields ih =>
      rw [List.map_cons, String.join_cons, String.toList_append, ih, String.toList_append]
      rfl
  rw [render, String.toList_append, String.toList_append, String.toList_append, hjoin, leadKey]
  simp

/-- **A marker is read back from its text,** its fields in their order. -/
theorem read?_render {m : Marker} (h : m.IsPlain) : read? m.render = some m := by
  obtain ⟨hne, hall⟩ := Text.isWord_iff.1 h.type_word
  have htokens : tokens m.render.toList
      = ⟨.key, "widget".toList ++ [':']⟩ :: ⟨.word, m.type.toList⟩ :: fieldTokens m.fields := by
    rw [toList_render, tokens_key (by decide),
      tokens_bare hne (fun c hc => isWordPart_of_isWordChar (hall c hc))
        (startsWithGap_fieldChars m.fields),
      tokens_fieldChars h.keys_word]
  obtain ⟨hvalue, hrest⟩ := valueOf_word
    (fun c hc => Text.isBlank_eq_false_of_isWordChar (hall c hc)) m.fields
  have hname : keyName ⟨.key, "widget".toList ++ [':']⟩ = leadKey := by decide
  rw [read?, htokens, pairs_key rfl, hvalue, hrest, pairs_fieldTokens, hname, String.ofList_toList]
  simp only [h.type_word, and_self, if_true, Keyed.ofPairsFirst_of_nodup h.keys_nodup]

/-- No field brings a line break with it. -/
theorem fieldChars_unbroken {fields : Keyed String}
    (h : ∀ k ∈ fields.keys, Text.isWord k.toList = true) {c : Char} (hc : c ∈ fieldChars fields) :
    isBreak c = false := by
  obtain ⟨⟨k, v⟩, hp, hc⟩ := List.mem_flatMap.1 hc
  have hk := (Text.isWord_iff.1 (h k (List.mem_map.2 ⟨(k, v), hp, rfl⟩))).2
  simp only [renderPair, String.toList_append, List.mem_cons, List.mem_append] at hc
  rcases hc with rfl | (hc | hc) | hc
  · decide
  · exact isBreak_eq_false_of_isBlank (Text.isBlank_eq_false_of_isWordChar (hk c hc))
  · rw [List.mem_singleton.1 hc]
    decide
  · exact encode_unbroken hc

theorem render_unbroken {m : Marker} (h : m.IsPlain) {c : Char} (hc : c ∈ m.render.toList) :
    isBreak c = false := by
  rw [toList_render, List.mem_append, List.mem_cons, List.mem_append] at hc
  rcases hc with hc | rfl | hc | hc
  · exact unbroken_of_all (by decide) hc
  · decide
  · have hall := (Text.isWord_iff.1 h.type_word).2
    exact isBreak_eq_false_of_isBlank (Text.isBlank_eq_false_of_isWordChar (hall c hc))
  · exact fieldChars_unbroken h.keys_word hc

/-- A marker ends in a quote, or in what may stand in a bare value. -/
theorem quote_or_bare_of_getLast?_render {m : Marker} (h : m.IsPlain) {c : Char}
    (hc : m.render.toList.getLast? = some c) : c = '"' ∨ endsBare c = false := by
  obtain ⟨hne, hall⟩ := Text.isWord_iff.1 h.type_word
  rw [toList_render] at hc
  -- A marker ends in its type, or in the value of its last field.
  rcases m.fields.eq_nil_or_concat with hnil | ⟨front, ⟨k, v⟩, hfields⟩
  · have hchars : fieldChars m.fields = [] := by rw [hnil, fieldChars, List.flatMap_nil]
    rw [hchars, List.append_nil, ← List.singleton_append, ← List.append_assoc,
      List.getLast?_append_of_ne_nil _ hne] at hc
    have hword := hall c (List.mem_of_getLast? hc)
    have hquote : c ≠ '"' := Text.ne_of_isWordChar hword (by decide)
    have hcolon : c ≠ ':' := Text.ne_of_isWordChar hword (by decide)
    have hslash : c ≠ '\\' := Text.ne_of_isWordChar hword (by decide)
    simp [endsBare, Text.isBlank_eq_false_of_isWordChar hword, hquote, hcolon, hslash]
  · have hchars : fieldChars m.fields
        = fieldChars front ++ (' ' :: k.toList ++ [':']) ++ (encode v).toList := by
      simp [hfields, fieldChars, renderPair]
    rw [hchars, ← List.singleton_append, ← List.append_assoc, ← List.append_assoc,
      ← List.append_assoc, List.getLast?_append_of_ne_nil _ (encode_toList_ne_nil v)] at hc
    exact quote_or_bare_of_getLast?_encode hc

theorem isBlank_getLast?_render {m : Marker} (h : m.IsPlain) {c : Char}
    (hc : m.render.toList.getLast? = some c) : Text.isBlank c = false := by
  rcases quote_or_bare_of_getLast?_render h hc with rfl | hbare
  · rfl
  · exact isBlank_of_not_endsBare hbare

/-- No marker ends in a backslash. -/
theorem getLast?_render_ne {m : Marker} (h : m.IsPlain) : m.render.toList.getLast? ≠ some '\\' := by
  intro hc
  rcases quote_or_bare_of_getLast?_render h hc with hquote | hbare
  · exact absurd hquote (by decide)
  · exact absurd hbare (by decide)

end Marker

end DisplayLayout
