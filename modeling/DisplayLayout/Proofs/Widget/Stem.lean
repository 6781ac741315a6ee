import DisplayLayout.Proofs.Text.Words
import DisplayLayout.Widget.Image
import Mathlib.Data.List.Chain

/-!
# Stems of files

The stem of a location is a clean part of an identifier, whatever the location
is, and it depends on the name of the file alone (`Image.stem_names_file`). What
the steps trim at either end are characters that a stem leaves out anyway, so
each step is followed for a text and for the same text between such characters
(`Image.IsPadded`); what is left of them at the end are underscores, which the
last step drops.
-/

namespace DisplayLayout.Image

open Text

/-! ## Squeezed underscores -/

/-- No underscore stands at an end, and none behind another one. -/
structure IsSqueezed (cs : List Char) : Prop where
  head : cs.head? ≠ some '_'
  last : cs.getLast? ≠ some '_'
  single : cs.IsChain fun c d => c = '_' → d ≠ '_'

namespace IsSqueezed

theorem nil : IsSqueezed [] := ⟨nofun, nofun, .nil⟩

theorem singleton {c : Char} (hc : c ≠ '_') : IsSqueezed [c] :=
  ⟨fun h => hc (Option.some.inj h), fun h => hc (Option.some.inj h), .singleton c⟩

theorem head_ne {c : Char} {cs : List Char} (h : IsSqueezed (c :: cs)) : c ≠ '_' :=
  fun hc => h.head (congrArg some hc)

/-- Behind another character, an underscore and what follows it may stand. -/
theorem cons {c : Char} {cs : List Char} (hc : c ≠ '_') (hlast : cs.getLast? ≠ some '_')
    (hsingle : cs.IsChain fun c d => c = '_' → d ≠ '_') : IsSqueezed (c :: cs) := by
  refine ⟨fun h => hc (Option.some.inj h), ?_, ?_⟩
  · cases cs with
    | nil => exact fun h => hc (Option.some.inj h)
    | cons d ds => rwa [List.getLast?_cons_cons]
  · exact List.isChain_cons.2 ⟨fun _ _ h => absurd h hc, hsingle⟩

theorem cons_cons {c : Char} {cs : List Char} (hc : c ≠ '_') (h : IsSqueezed cs) :
    IsSqueezed (c :: cs) :=
  cons hc h.last h.single

theorem cons_underscore {c d : Char} {ds : List Char} (hc : c ≠ '_') (h : IsSqueezed (d :: ds)) :
    IsSqueezed (c :: '_' :: d :: ds) := by
  refine cons hc ?_ ?_
  · rw [List.getLast?_cons_cons]
    exact h.last
  · exact List.isChain_cons_cons.2 ⟨fun _ => h.head_ne, h.single⟩

/-- What follows is squeezed if it does not begin with an underscore. -/
theorem tail {c d : Char} {ds : List Char} (hd : d ≠ '_') (h : IsSqueezed (c :: d :: ds)) :
    IsSqueezed (d :: ds) := by
  have hlast := h.last
  rw [List.getLast?_cons_cons] at hlast
  exact ⟨fun heq => hd (Option.some.inj heq), hlast, (List.isChain_cons_cons.1 h.single).2⟩

/-- An underscore stands before another character. -/
theorem behind_underscore {c : Char} {cs : List Char} (h : IsSqueezed (c :: '_' :: cs)) :
    ∃ d ds, cs = d :: ds ∧ IsSqueezed (d :: ds) := by
  have hlast := h.last
  cases cs with
  | nil => exact absurd rfl hlast
  | cons d ds =>
    rw [List.getLast?_cons_cons, List.getLast?_cons_cons] at hlast
    obtain ⟨hne, hsingle⟩ := List.isChain_cons_cons.1 (List.isChain_cons_cons.1 h.single).2
    exact ⟨d, ds, rfl, fun heq => hne rfl (Option.some.inj heq), hlast, hsingle⟩

end IsSqueezed

/-- **Squeezing leaves no underscore at an end and none behind another one.** -/
theorem isSqueezed_squeeze (cs : List Char) :
    IsSqueezed (squeeze cs) ∧ ∀ c, c ≠ '_' → IsSqueezed (c :: squeeze.keep cs) := by
  induction cs with
  | nil => exact ⟨.nil, fun c hc => .singleton hc⟩
  | cons d cs ih =>
    obtain ⟨hsqueeze, hkeep⟩ := ih
    rw [squeeze, squeeze.keep]
    by_cases hd : d = '_'
    · rw [if_pos hd, if_pos hd]
      refine ⟨hsqueeze, fun c hc => ?_⟩
      cases hrest : squeeze cs with
      | nil => exact .singleton hc
      | cons e more => exact .cons_underscore hc (hrest ▸ hsqueeze)
    · rw [if_neg hd, if_neg hd]
      exact ⟨hkeep d hd, fun c hc => .cons_cons hc (hkeep d hd)⟩

/-- Nothing is squeezed out of what is squeezed. -/
theorem squeeze_of_isSqueezed (cs : List Char) :
    (IsSqueezed cs → squeeze cs = cs) ∧ ∀ c, IsSqueezed (c :: cs) → squeeze.keep cs = cs := by
  induction cs with
  | nil => exact ⟨fun _ => rfl, fun _ _ => rfl⟩
  | cons d cs ih =>
    obtain ⟨hsqueeze, hkeep⟩ := ih
    refine ⟨fun h => ?_, fun c h => ?_⟩
    · rw [squeeze, if_neg h.head_ne, hkeep d h]
    · rw [squeeze.keep]
      by_cases hd : d = '_'
      · subst hd
        obtain ⟨e, more, rfl, hrest⟩ := h.behind_underscore
        rw [if_pos rfl, hsqueeze hrest]
      · rw [if_neg hd, hkeep d (h.tail hd)]

theorem mem_of_mem_squeeze {c : Char} (cs : List Char) :
    (c ∈ squeeze cs → c ∈ cs) ∧ (c ∈ squeeze.keep cs → c ∈ cs) := by
  induction cs with
  | nil => exact ⟨id, id⟩
  | cons d cs ih =>
    obtain ⟨hsqueeze, hkeep⟩ := ih
    rw [squeeze, squeeze.keep]
    by_cases hd : d = '_'
    · rw [if_pos hd, if_pos hd]
      refine ⟨fun h => List.mem_cons_of_mem d (hsqueeze h), fun h => ?_⟩
      cases hrest : squeeze cs with
      | nil =>
        rw [hrest] at h
        exact absurd h List.not_mem_nil
      | cons e more =>
        rw [hrest] at h hsqueeze
        rcases List.mem_cons.1 h with rfl | h
        · exact hd ▸ List.mem_cons_self
        · exact List.mem_cons_of_mem d (hsqueeze h)
    · rw [if_neg hd, if_neg hd, List.mem_cons]
      exact ⟨fun h => List.mem_cons.2 (h.imp_right hkeep), fun h => List.mem_cons.2 (h.imp_right hkeep)⟩

/-- Underscores in front are left out. -/
theorem squeeze_append_left {front : List Char} (h : ∀ c ∈ front, c = '_') (cs : List Char) :
    squeeze (front ++ cs) = squeeze cs := by
  induction front with
  | nil => rfl
  | cons c front ih =>
    rw [List.forall_mem_cons] at h
    rw [List.cons_append, squeeze, if_pos h.1, ih h.2]

/-- Underscores at the end are left out. -/
theorem squeeze_append_right {behind : List Char} (h : ∀ c ∈ behind, c = '_') (cs : List Char) :
    squeeze (cs ++ behind) = squeeze cs ∧ squeeze.keep (cs ++ behind) = squeeze.keep cs := by
  induction cs with
  | nil =>
    have hnone : ∀ {cs : List Char}, (∀ c ∈ cs, c = '_') → squeeze cs = [] := fun {cs} hcs => by
      rw [← List.append_nil cs, squeeze_append_left hcs]
      rfl
    refine ⟨hnone h, ?_⟩
    cases behind with
    | nil => rfl
    | cons c behind =>
      rw [List.forall_mem_cons] at h
      rw [List.nil_append, squeeze.keep, squeeze.keep, if_pos h.1, hnone h.2]
  | cons c cs ih =>
    rw [List.cons_append, squeeze, squeeze, squeeze.keep, squeeze.keep, ih.1, ih.2]
    exact ⟨rfl, rfl⟩

/-! ## Characters that count for nothing -/

/-- The characters at which a location is taken apart. -/
def breaks : List Char := ['?', '#', '/', '\\', '.']

theorem kept_by_beforeQuery {c : Char} (h : c ∉ breaks) : (c != '?' && c != '#') = true := by
  simp only [breaks, List.mem_cons, not_or] at h
  simp [h]

theorem kept_by_fileName {c : Char} (h : c ∉ breaks) : (c != '/' && c != '\\') = true := by
  simp only [breaks, List.mem_cons, not_or] at h
  simp [h]

/-- A character that a stem leaves out at its ends, and at which no location is taken apart. -/
def IsFiller (c : Char) : Prop := c.isAlphanum = false ∧ c ∉ breaks

instance (c : Char) : Decidable (IsFiller c) := inferInstanceAs (Decidable (_ ∧ _))

theorem isFiller_of_isBlank {c : Char} (h : isBlank c = true) : IsFiller c := by
  refine ⟨?_, fun hbreak => ?_⟩
  · by_contra halnum
    rw [Bool.not_eq_false] at halnum
    rw [isBlank_eq_false_of_isWordChar (isWordChar_of_isAlphanum halnum)] at h
    exact Bool.noConfusion h
  · simp only [breaks, List.mem_cons, List.not_mem_nil, or_false] at hbreak
    rcases hbreak with rfl | rfl | rfl | rfl | rfl <;> exact absurd h (by decide)

theorem isFiller_quote : IsFiller '"' := by decide

/-- A text between such characters. -/
def IsPadded (cs ds : List Char) : Prop :=
  ∃ before after, (∀ c ∈ before, IsFiller c) ∧ (∀ c ∈ after, IsFiller c) ∧ ds = before ++ cs ++ after

namespace IsPadded

variable {cs ds es : List Char} {p : Char → Bool}

theorem trans (h : IsPadded cs ds) (h' : IsPadded ds es) : IsPadded cs es := by
  obtain ⟨before, after, hbefore, hafter, rfl⟩ := h
  obtain ⟨before', after', hbefore', hafter', rfl⟩ := h'
  refine ⟨before' ++ before, after ++ after', ?_, ?_, by simp only [List.append_assoc]⟩
  · exact List.forall_mem_append.2 ⟨hbefore', hbefore⟩
  · exact List.forall_mem_append.2 ⟨hafter, hafter'⟩

theorem reverse (h : IsPadded cs ds) : IsPadded cs.reverse ds.reverse := by
  obtain ⟨before, after, hbefore, hafter, rfl⟩ := h
  refine ⟨after.reverse, before.reverse, fun c hc => hafter c (List.mem_reverse.1 hc),
    fun c hc => hbefore c (List.mem_reverse.1 hc), ?_⟩
  simp only [List.reverse_append, List.append_assoc]

/-- What is dropped at the front is filling. -/
theorem dropWhile (hp : ∀ c, p c = true → IsFiller c) (cs : List Char) :
    IsPadded (cs.dropWhile p) cs :=
  ⟨cs.takeWhile p, [], fun c hc => hp c (List.mem_takeWhile_imp hc), nofun,
    by rw [List.append_nil, List.takeWhile_append_dropWhile]⟩

/-- What is trimmed at both ends is filling. -/
theorem trim (hp : ∀ c, p c = true → IsFiller c) (cs : List Char) :
    IsPadded ((cs.dropWhile p).reverse.dropWhile p).reverse cs := by
  have hback := (dropWhile hp (cs.dropWhile p).reverse).reverse
  rw [List.reverse_reverse] at hback
  exact hback.trans (dropWhile hp cs)

/-- Where no filling stops it, a text is taken up to the same place. -/
theorem takeWhile (hp : ∀ c, IsFiller c → p c = true) (h : IsPadded cs ds) :
    IsPadded (cs.takeWhile p) (ds.takeWhile p) := by
  obtain ⟨before, after, hbefore, hafter, rfl⟩ := h
  rw [List.append_assoc, List.takeWhile_append_of_pos fun c hc => hp c (hbefore c hc),
    List.takeWhile_append]
  split
  · next hall =>
    have hafter' : after.takeWhile p = after :=
      List.takeWhile_eq_self_iff.2 fun c hc => hp c (hafter c hc)
    rw [hafter', (List.takeWhile_prefix p).eq_of_length hall]
    exact ⟨before, after, hbefore, hafter, (List.append_assoc _ _ _).symm⟩
  · exact ⟨before, [], hbefore, nofun, (List.append_nil _).symm⟩

theorem beforeQuery (h : IsPadded cs ds) : IsPadded (beforeQuery cs) (beforeQuery ds) :=
  h.takeWhile fun _ hc => kept_by_beforeQuery hc.2

theorem fileName (h : IsPadded cs ds) : IsPadded (fileName cs) (fileName ds) :=
  (h.reverse.takeWhile fun _ hc => kept_by_fileName hc.2).reverse

end IsPadded

theorem withoutExtension_append {extension : List Char} (h : '.' ∉ extension) (name : List Char) :
    withoutExtension (name ++ '.' :: extension) = name := by
  rw [withoutExtension, splitLast?_append h]

theorem withoutExtension_of_notMem {cs : List Char} (h : '.' ∉ cs) : withoutExtension cs = cs := by
  have hnone : cs.reverse.dropWhile (· ≠ '.') = [] :=
    List.dropWhile_eq_nil_iff.2 fun c hc =>
      decide_eq_true (ne_of_mem_of_not_mem (List.mem_reverse.1 hc) h)
  rw [withoutExtension, splitLast?, hnone]

theorem IsPadded.withoutExtension {cs ds : List Char} (h : IsPadded cs ds) :
    IsPadded (withoutExtension cs) (withoutExtension ds) := by
  obtain ⟨before, after, hbefore, hafter, rfl⟩ := h
  have hdot : ∀ {cs : List Char}, (∀ c ∈ cs, IsFiller c) → '.' ∉ cs :=
    fun hcs hmem => absurd (hcs '.' hmem) (by decide)
  by_cases hmem : '.' ∈ cs
  · -- the last dot of the text is that of the padded one
    obtain ⟨back, front, hback, hnot⟩ := List.eq_append_cons_of_mem (List.mem_reverse.2 hmem)
    have hsplit : cs = front.reverse ++ '.' :: back.reverse := by
      rw [← List.reverse_reverse cs, hback]
      simp
    have hpadded : before ++ cs ++ after
        = (before ++ front.reverse) ++ '.' :: (back.reverse ++ after) := by
      rw [hsplit]
      simp
    rw [hpadded, withoutExtension_append (by simp [hnot, hdot hafter]), hsplit,
      withoutExtension_append (by simp [hnot])]
    exact ⟨before, [], hbefore, nofun, (List.append_nil _).symm⟩
  · rw [withoutExtension_of_notMem hmem,
      withoutExtension_of_notMem (by simp [hmem, hdot hbefore, hdot hafter])]
    exact ⟨before, after, hbefore, hafter, rfl⟩

/-! ## From the location to the stem -/

/-- A character of an identifier for each character of a name. -/
def slugChar (c : Char) : Char := if c.isAlphanum then c.toLower else '_'

theorem slugChar_eq_underscore {c : Char} (h : IsFiller c) : slugChar c = '_' := by
  rw [slugChar, h.1, if_neg Bool.false_ne_true]

theorem toList_slug (raw : String) :
    (Identifier.slug raw).toList = (trimChars raw.toList).map slugChar := by
  rw [Identifier.slug, String.toList_ofList]
  rfl

/-- The characters of a stem, if there are any. -/
def stemChars (cs : List Char) : List Char :=
  squeeze ((withoutExtension (fileName (beforeQuery cs))).map slugChar)

/-- Filling turns into underscores, which are left out. -/
theorem IsPadded.squeeze_map {cs ds : List Char} (h : IsPadded cs ds) :
    squeeze (ds.map slugChar) = squeeze (cs.map slugChar) := by
  obtain ⟨before, after, hbefore, hafter, rfl⟩ := h
  have hunderscores : ∀ {cs : List Char}, (∀ c ∈ cs, IsFiller c) → ∀ c ∈ cs.map slugChar, c = '_' :=
    fun hcs => List.forall_mem_map.2 fun c hc => slugChar_eq_underscore (hcs c hc)
  rw [List.map_append, List.map_append, (squeeze_append_right (hunderscores hafter) _).1,
    squeeze_append_left (hunderscores hbefore)]

/-- **Filling around a location does not show in its stem.** -/
theorem IsPadded.stemChars_eq {cs ds : List Char} (h : IsPadded cs ds) : stemChars ds = stemChars cs :=
  h.beforeQuery.fileName.withoutExtension.squeeze_map

/-- So nothing of what is trimmed on the way does. -/
theorem stem_eq (location : String) :
    stem location = if (stemChars location.toList).isEmpty then "image"
      else String.ofList (stemChars location.toList) := by
  have hblanks : ∀ cs, IsPadded (trimChars cs) cs := IsPadded.trim fun _ => isFiller_of_isBlank
  have hquotes : ∀ cs, IsPadded (trimQuotes cs) cs :=
    IsPadded.trim fun c hc => beq_iff_eq.1 hc ▸ isFiller_quote
  have hslug : ∀ name, squeeze (Identifier.slug (String.ofList name)).toList
      = squeeze (name.map slugChar) := by
    intro name
    rw [toList_slug, String.toList_ofList, (hblanks name).squeeze_map]
  have htrim := ((hquotes _).trans (hblanks location.toList)).stemChars_eq
  rw [stem, hslug, htrim]
  rfl

/-! ## Fragments -/

/-- A character of a fragment: a lower-case letter, a digit or an underscore. -/
def IsFragmentChar (c : Char) : Prop := c.isLower = true ∨ c.isDigit = true ∨ c = '_'

/-- A part of an identifier: lower-case letters, digits, and single underscores between them. -/
structure IsFragment (s : String) : Prop where
  nonempty : s ≠ ""
  chars : ∀ c ∈ s.toList, IsFragmentChar c
  squeezed : IsSqueezed s.toList

theorem isFragmentChar_slugChar (c : Char) : IsFragmentChar (slugChar c) := by
  rw [slugChar]
  split
  · next h =>
    exact (isLower_or_isDigit_toLower h).elim Or.inl fun hdigit => Or.inr (Or.inl hdigit)
  · exact Or.inr (Or.inr rfl)

/-- A character of a fragment is an underscore, or a letter or digit that has no other lower case. -/
theorem IsFragmentChar.underscore_or_alphanum {c : Char} (h : IsFragmentChar c) :
    c = '_' ∨ c.isAlphanum = true ∧ c.toLower = c := by
  rcases h with h | h | h
  · exact Or.inr ⟨(isAlphanum_iff_kinds c).2 (Or.inl (Or.inr h)), toLower_eq_self (Or.inl h)⟩
  · exact Or.inr ⟨(isAlphanum_iff_kinds c).2 (Or.inr h), toLower_eq_self (Or.inr h)⟩
  · exact Or.inl h

theorem IsFragmentChar.slugChar_eq {c : Char} (h : IsFragmentChar c) : slugChar c = c := by
  rcases h.underscore_or_alphanum with rfl | ⟨halnum, hlower⟩
  · decide
  · rw [slugChar, if_pos halnum, hlower]

theorem IsFragmentChar.isWordChar {c : Char} (h : IsFragmentChar c) : isWordChar c = true := by
  rcases h.underscore_or_alphanum with rfl | ⟨halnum, -⟩
  · decide
  · exact isWordChar_of_isAlphanum halnum

/-- No location is taken apart at a character of a fragment. -/
theorem IsFragmentChar.notMem_breaks {c : Char} (h : IsFragmentChar c) : c ∉ breaks := by
  intro hbreak
  simp only [breaks, List.mem_cons, List.not_mem_nil, or_false] at hbreak
  have hword := h.isWordChar
  rcases hbreak with rfl | rfl | rfl | rfl | rfl <;> exact absurd hword (by decide)

theorem isFragment_of_squeeze {s : String} (hne : s ≠ "") (cs : List Char)
    (h : s.toList = squeeze (cs.map slugChar)) : IsFragment s := by
  refine ⟨hne, fun c hc => ?_, h ▸ (isSqueezed_squeeze _).1⟩
  rw [h] at hc
  obtain ⟨d, -, rfl⟩ := List.mem_map.1 ((mem_of_mem_squeeze _).1 hc)
  exact isFragmentChar_slugChar d

/-- **Every stem is a fragment.** -/
theorem isFragment_stem (location : String) : IsFragment (stem location) := by
  rw [stem_eq]
  split
  · exact isFragment_of_squeeze (by decide) "image".toList (by decide)
  · next hne =>
    refine isFragment_of_squeeze (fun hempty => hne ?_) _ String.toList_ofList
    rw [List.isEmpty_iff, ← String.toList_ofList (l := stemChars location.toList), hempty]
    rfl

theorem isWordText_stem (location : String) : IsWordText (stem location) :=
  fun c hc => ((isFragment_stem location).chars c hc).isWordChar

/-- A text without breaks is not taken apart. -/
theorem stemChars_of_notMem_breaks {cs : List Char} (h : ∀ c ∈ cs, c ∉ breaks) :
    stemChars cs = squeeze (cs.map slugChar) := by
  have hquery : beforeQuery cs = cs :=
    List.takeWhile_eq_self_iff.2 fun c hc => kept_by_beforeQuery (h c hc)
  have hfile : fileName cs = cs := by
    rw [fileName, List.takeWhile_eq_self_iff.2 fun c hc => kept_by_fileName (h c (List.mem_reverse.1 hc)),
      List.reverse_reverse]
  have hname : withoutExtension cs = cs :=
    withoutExtension_of_notMem fun hdot => h '.' hdot (by decide)
  rw [stemChars, hquery, hfile, hname]

/-- A fragment is its own stem. -/
theorem IsFragment.stem_eq_self {s : String} (h : IsFragment s) : stem s = s := by
  have hmap : s.toList.map slugChar = s.toList :=
    (List.map_congr_left fun c hc => (h.chars c hc).slugChar_eq).trans (List.map_id _)
  have hchars : stemChars s.toList = s.toList := by
    rw [stemChars_of_notMem_breaks fun c hc => (h.chars c hc).notMem_breaks, hmap,
      (squeeze_of_isSqueezed _).1 h.squeezed]
  have hne : ¬s.toList.isEmpty = true := by
    rw [List.isEmpty_iff]
    exact fun hnil => h.nonempty (String.toList_eq_nil_iff.1 hnil)
  rw [stem_eq, hchars, if_neg hne, String.ofList_toList]

/-! ## What does not show in a stem -/

/-- Blanks and quotes. -/
def IsWrapping (s : String) : Prop := ∀ c ∈ s.toList, isBlank c = true ∨ c = '"'

instance (s : String) : Decidable (IsWrapping s) :=
  List.decidableBAll (fun c => isBlank c = true ∨ c = '"') s.toList

/-- A directory part, with the separator at its end. -/
structure IsFolder (s : String) : Prop where
  closed : s.toList.getLast? = some '/' ∨ s.toList.getLast? = some '\\'
  plain : '?' ∉ s.toList ∧ '#' ∉ s.toList

/-- A query or a fragment of a location. -/
def IsQuery (s : String) : Prop := s.toList.head? = some '?' ∨ s.toList.head? = some '#'

theorem stem_congr {s t : String} (h : stemChars s.toList = stemChars t.toList) : stem s = stem t := by
  rw [stem_eq, stem_eq, h]

theorem IsWrapping.isFiller {s : String} (h : IsWrapping s) : ∀ c ∈ s.toList, IsFiller c :=
  fun c hc => (h c hc).elim isFiller_of_isBlank fun hquote => hquote ▸ isFiller_quote

theorem stemChars_append_query {query : String} (h : IsQuery query) (cs : List Char) :
    stemChars (cs ++ query.toList) = stemChars cs := by
  have hstop : ∀ c ∈ query.toList.head?, (c != '?' && c != '#') = false := by
    intro c hc
    rcases h with h | h <;> (rw [h] at hc; cases hc; decide)
  rw [stemChars, beforeQuery, takeWhile_append_of_head hstop, ← beforeQuery, ← stemChars]

theorem stemChars_append_folder {folder : String} (h : IsFolder folder) (cs : List Char) :
    stemChars (folder.toList ++ cs) = stemChars cs := by
  have hquery : ∀ c ∈ folder.toList, (c != '?' && c != '#') = true := by
    intro c hc
    simp only [Bool.and_eq_true, bne_iff_ne, ne_eq]
    exact ⟨ne_of_mem_of_not_mem hc h.plain.1, ne_of_mem_of_not_mem hc h.plain.2⟩
  have hstop : ∀ c ∈ folder.toList.reverse.head?, (c != '/' && c != '\\') = false := by
    intro c hc
    rw [List.head?_reverse] at hc
    rcases h.closed with h | h <;> (rw [h] at hc; cases hc; decide)
  have hfile : fileName (folder.toList ++ beforeQuery cs) = fileName (beforeQuery cs) := by
    rw [fileName, List.reverse_append, takeWhile_append_of_head hstop, ← fileName]
  rw [stemChars, beforeQuery, List.takeWhile_append_of_pos hquery, ← beforeQuery, hfile, ← stemChars]

/-- **The stem of a location is a fragment that depends on the name of the file alone.** Blanks and
quotes around the location, folders before it and a query behind it do not show in the stem; and the
stem of a location is the location itself just if that is a fragment. -/
theorem stem_names_file (location : String) :
    IsFragment (stem location)
      ∧ (∀ before after : String, IsWrapping before → IsWrapping after →
          stem (before ++ location ++ after) = stem location)
      ∧ (∀ folder : String, IsFolder folder → stem (folder ++ location) = stem location)
      ∧ (∀ query : String, IsQuery query → stem (location ++ query) = stem location)
      ∧ (stem location = location ↔ IsFragment location) := by
  refine ⟨isFragment_stem location, fun before after hbefore hafter => ?_, fun folder h => ?_,
    fun query h => ?_, fun h => ?_, IsFragment.stem_eq_self⟩
  · refine stem_congr (IsPadded.stemChars_eq ?_)
    exact ⟨before.toList, after.toList, hbefore.isFiller, hafter.isFiller, by
      rw [String.toList_append, String.toList_append]⟩
  · refine stem_congr ?_
    rw [String.toList_append, stemChars_append_folder h]
  · refine stem_congr ?_
    rw [String.toList_append, stemChars_append_query h]
  · exact h ▸ isFragment_stem location

/-- A file whose name needs cleaning. -/
theorem stem_names_file_photo :
    IsFragment (stem "__My Photo__.png") ∧ stem "__My Photo__.png" = "my_photo"
      ∧ stem (" \"" ++ "__My Photo__.png" ++ "\" ") = stem "__My Photo__.png"
      ∧ stem ("C:\\img\\" ++ "__My Photo__.png") = stem "__My Photo__.png"
      ∧ stem ("__My Photo__.png" ++ "?t=1") = stem "__My Photo__.png"
      ∧ stem "my_photo" = "my_photo" := by
  have hbefore : IsWrapping " \"" := by decide
  have hafter : IsWrapping "\" " := by decide
  have hfolder : IsFolder "C:\\img\\" := ⟨by decide, by decide⟩
  obtain ⟨hfragment, hwrapping, hfolders, hqueries, -⟩ := stem_names_file "__My Photo__.png"
  have hname : stem "__My Photo__.png" = "my_photo" := by decide
  exact ⟨hfragment, hname, hwrapping _ _ hbefore hafter, hfolders _ hfolder,
    hqueries _ (Or.inl (by decide)), (stem_names_file "my_photo").2.2.2.2.2 (hname ▸ hfragment)⟩

end DisplayLayout.Image
