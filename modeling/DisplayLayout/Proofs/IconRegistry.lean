import DisplayLayout.Proofs.FontRegistry
import Mathlib.Data.Finset.Card

/-!
# The icon registry

A call records a codepoint at a size. Sizes ascend in the registry, and so do
the codepoints of a size, in the order of texts; a registry in this order is
known by the pairs that it lists (`Icons.eq_of_lists`). So calls leave the same
registry just if they record the same pairs, in whatever order and spelling, and
what the registry answers and its manifest shows is said of these pairs alone
(`Icons.ofGlyphs_eq_iff`).
-/

namespace DisplayLayout

/-- What a call records, if it names a codepoint: its normal form, at a size of at least one. -/
def Glyph.recorded? (g : Glyph) : Option (String × Nat) :=
  (Icon.normalize? g.code).map (·, max 1 g.size)

namespace Icons

open FontManifest

/-- The pairs that calls record. -/
def recorded (glyphs : List Glyph) : Finset (String × Nat) :=
  (glyphs.filterMap Glyph.recorded?).toFinset

theorem mem_recorded {glyphs : List Glyph} {code : String} {size : Nat} :
    (code, size) ∈ recorded glyphs
      ↔ ∃ glyph ∈ glyphs, Icon.normalize? glyph.code = some code ∧ size = max 1 glyph.size := by
  simp only [recorded, List.mem_toFinset, List.mem_filterMap, Glyph.recorded?,
    Option.map_eq_some_iff, Prod.mk.injEq]
  constructor
  · rintro ⟨glyph, hglyph, c, hc, rfl, rfl⟩
    exact ⟨glyph, hglyph, hc, rfl⟩
  · rintro ⟨glyph, hglyph, hc, rfl⟩
    exact ⟨glyph, hglyph, code, hc, rfl, rfl⟩

theorem lists_ofGlyphs {glyphs : List Glyph} {size : Nat} {code : String} :
    (ofGlyphs glyphs).Lists size code ↔ (code, size) ∈ recorded glyphs := by
  have hstart : ¬Lists [] size code := fun ⟨_, hmem, _⟩ => List.not_mem_nil hmem
  rw [ofGlyphs, lists_foldl_track, mem_recorded, or_iff_right hstart]

/-! ## Registries in order -/

/-- A registry whose sizes ascend, and the codepoints of each of them, of which there are some. -/
structure Sorted (icons : Icons) : Prop where
  ascending : icons.Ascending
  nonempty : ∀ p ∈ icons, p.2 ≠ []
  codes : ∀ p ∈ icons, p.2.Pairwise (· < ·)

theorem insertCode_ne_nil (code : String) (codes : List String) : insertCode code codes ≠ [] :=
  List.ne_nil_of_mem (mem_insertCode_iff.2 (Or.inl rfl))

theorem pairwise_insertCode {codes : List String} (h : codes.Pairwise (· < ·)) (code : String) :
    (insertCode code codes).Pairwise (· < ·) := by
  induction codes with
  | nil => exact List.pairwise_singleton _ _
  | cons c codes ih =>
    obtain ⟨hfirst, hrest⟩ := List.pairwise_cons.1 h
    rw [insertCode]
    split
    · exact h
    · next hne =>
      split
      · next hlt =>
        refine List.pairwise_cons.2 ⟨fun d hd => ?_, h⟩
        rcases List.mem_cons.1 hd with rfl | hd
        · exact hlt
        · exact String.lt_trans hlt (hfirst d hd)
      · next hge =>
        have hlt : c < code := by
          by_contra hle
          exact hne (String.le_antisymm (String.not_lt.1 hle) (String.not_lt.1 hge))
        refine List.pairwise_cons.2 ⟨fun d hd => ?_, ih hrest⟩
        rcases mem_insertCode_iff.1 hd with rfl | hd
        · exact hlt
        · exact hfirst d hd

/-- An insertion changes the entry of its size only. -/
theorem mem_insertAt {icons : Icons} {size : Nat} {code : String} {p : Nat × List String}
    (h : p ∈ insertAt size code icons) :
    p ∈ icons ∨ p.2 = [code] ∨ ∃ q ∈ icons, p.2 = insertCode code q.2 := by
  induction icons with
  | nil => exact Or.inr (Or.inl (List.mem_singleton.1 h ▸ rfl))
  | cons q icons ih =>
    rw [insertAt] at h
    split at h
    · rcases List.mem_cons.1 h with rfl | h
      · exact Or.inr (Or.inr ⟨q, List.mem_cons_self, rfl⟩)
      · exact Or.inl (List.mem_cons_of_mem _ h)
    · split at h
      · rcases List.mem_cons.1 h with rfl | h
        · exact Or.inr (Or.inl rfl)
        · exact Or.inl h
      · rcases List.mem_cons.1 h with rfl | h
        · exact Or.inl List.mem_cons_self
        · rcases ih h with h | h | ⟨r, hr, h⟩
          · exact Or.inl (List.mem_cons_of_mem _ h)
          · exact Or.inr (Or.inl h)
          · exact Or.inr (Or.inr ⟨r, List.mem_cons_of_mem _ hr, h⟩)

theorem Sorted.insertAt {icons : Icons} (h : icons.Sorted) (size : Nat) (code : String) :
    (insertAt size code icons).Sorted where
  ascending := h.ascending.insertAt size code
  nonempty p hp := by
    rcases mem_insertAt hp with hp | hp | ⟨q, -, hp⟩
    · exact h.nonempty p hp
    · exact hp ▸ List.cons_ne_nil _ _
    · exact hp ▸ insertCode_ne_nil _ _
  codes p hp := by
    rcases mem_insertAt hp with hp | hp | ⟨q, hq, hp⟩
    · exact h.codes p hp
    · exact hp ▸ List.pairwise_singleton _ _
    · exact hp ▸ pairwise_insertCode (h.codes q hq) code

theorem Sorted.track {icons : Icons} (h : icons.Sorted) (text : String) (size : Nat) :
    (icons.track text size).Sorted := by
  unfold Icons.track
  split
  · exact h.insertAt _ _
  · exact h

/-- **Calls leave a registry in order.** -/
theorem sorted_ofGlyphs (glyphs : List Glyph) : (ofGlyphs glyphs).Sorted :=
  List.foldlRecOn (motive := Sorted) glyphs _
    ⟨List.Pairwise.nil, fun _ hp => absurd hp List.not_mem_nil, fun _ hp => absurd hp List.not_mem_nil⟩
    fun _ hicons _ _ => hicons.track _ _

/-! ## Registries as sets of pairs -/

/-- Lists in a strict order are equal if they have the same members. -/
theorem eq_of_pairwise_of_mem_iff {α : Type} {r : α → α → Prop} (hr : ∀ a b, r a b → ¬r b a)
    {as bs : List α} (ha : as.Pairwise r) (hb : bs.Pairwise r) (h : ∀ a, a ∈ as ↔ a ∈ bs) :
    as = bs := by
  have hne : ∀ {a b}, r a b → a ≠ b := by
    rintro a _ hab rfl
    exact hr a a hab hab
  have hperm : as.Perm bs := (List.perm_ext_iff_of_nodup (ha.imp hne) (hb.imp hne)).2 h
  exact hperm.eq_of_pairwise (fun a b _ _ hab hba => absurd hba (hr a b hab)) ha hb

theorem eq_of_mem_iff_of_lt {as bs : List String} (ha : as.Pairwise (· < ·)) (hb : bs.Pairwise (· < ·))
    (h : ∀ a, a ∈ as ↔ a ∈ bs) : as = bs :=
  eq_of_pairwise_of_mem_iff (fun _ _ => String.lt_asymm) ha hb h

/-- The entry of a size has the codepoints that are listed at it. -/
theorem Sorted.lists_iff {icons : Icons} (h : icons.Sorted) {size : Nat} {codes : List String}
    (hmem : (size, codes) ∈ icons) {code : String} : icons.Lists size code ↔ code ∈ codes := by
  refine ⟨?_, fun hcode => ⟨codes, hmem, hcode⟩⟩
  rintro ⟨others, hothers, hcode⟩
  have hnodup : (icons.map Prod.fst).Nodup := h.ascending.imp Nat.ne_of_lt
  have hsame := List.inj_on_of_nodup_map hnodup hothers hmem rfl
  cases hsame
  exact hcode

/-- An entry of a registry is one of every other that lists the same. -/
theorem Sorted.mem_of_lists {a b : Icons} (ha : a.Sorted) (hb : b.Sorted)
    (h : ∀ size code, a.Lists size code ↔ b.Lists size code) {p : Nat × List String} (hp : p ∈ a) :
    p ∈ b := by
  obtain ⟨size, codes⟩ := p
  obtain ⟨code, hcode⟩ := List.exists_mem_of_ne_nil codes (ha.nonempty _ hp)
  obtain ⟨others, hothers, -⟩ := (h size code).1 ⟨codes, hp, hcode⟩
  have hsame : codes = others := by
    refine eq_of_mem_iff_of_lt (ha.codes _ hp) (hb.codes _ hothers) fun c => ?_
    rw [← ha.lists_iff hp, h, hb.lists_iff hothers]
  exact hsame ▸ hothers

/-- **A registry in order is known by what it lists.** -/
theorem eq_of_lists {a b : Icons} (ha : a.Sorted) (hb : b.Sorted)
    (h : ∀ size code, a.Lists size code ↔ b.Lists size code) : a = b := by
  have hsizes : ∀ {icons : Icons}, icons.Sorted → icons.Pairwise fun p q => p.1 < q.1 :=
    fun hicons => List.pairwise_map.1 hicons.ascending
  refine eq_of_pairwise_of_mem_iff (fun _ _ => Nat.lt_asymm) (hsizes ha) (hsizes hb) fun p => ?_
  exact ⟨ha.mem_of_lists hb h, hb.mem_of_lists ha fun size code => (h size code).symm⟩

/-- The pairs of a registry, one behind the other. -/
def pairs (icons : Icons) : List (String × Nat) := icons.flatMap fun p => p.2.map (·, p.1)

theorem mem_pairs {icons : Icons} {code : String} {size : Nat} :
    (code, size) ∈ icons.pairs ↔ icons.Lists size code := by
  simp only [pairs, List.mem_flatMap, List.mem_map, Prod.mk.injEq]
  constructor
  · rintro ⟨p, hp, c, hc, rfl, rfl⟩
    exact ⟨p.2, hp, hc⟩
  · rintro ⟨codes, hmem, hcode⟩
    exact ⟨(size, codes), hmem, code, hcode, rfl, rfl⟩

theorem Sorted.nodup_pairs {icons : Icons} (h : icons.Sorted) : icons.pairs.Nodup := by
  refine List.nodup_flatMap.2 ⟨fun p hp => ?_, ?_⟩
  · have hcodes : p.2.Nodup := by
      refine (h.codes p hp).imp ?_
      rintro c _ hlt rfl
      exact String.lt_irrefl c hlt
    exact hcodes.map fun _ _ heq => (Prod.mk.inj heq).1
  · refine (List.pairwise_map.1 h.ascending).imp fun {p q} hlt => ?_
    rintro ⟨code, size⟩ hp hq
    obtain ⟨_, -, hp⟩ := List.mem_map.1 hp
    obtain ⟨_, -, hq⟩ := List.mem_map.1 hq
    exact absurd ((Prod.mk.inj hp).2.trans (Prod.mk.inj hq).2.symm) (Nat.ne_of_lt hlt)

theorem count_eq (icons : Icons) : icons.count = icons.pairs.length := by
  have hrun : ∀ n, icons.foldl (fun n p => n + p.2.length) n = n + icons.pairs.length := by
    induction icons with
    | nil => exact fun n => rfl
    | cons p icons ih =>
      intro n
      have hpairs : pairs (p :: icons) = p.2.map (·, p.1) ++ pairs icons := List.flatMap_cons
      rw [List.foldl_cons, ih, hpairs, List.length_append, List.length_map, Nat.add_assoc]
  rw [count, hrun, Nat.zero_add]

/-! ## What calls leave -/

/-- A registry of pairs: it counts them, answers by them, and its manifest has an entry for each of
their sizes in order, with the codepoints of the size in order. -/
structure Holds (icons : Icons) (pairs : Finset (String × Nat)) : Prop where
  count : icons.count = pairs.card
  contains : ∀ text size, icons.contains text size = true
    ↔ ∃ code, Icon.normalize? text = some code ∧ (code, size) ∈ pairs
  manifest : ∃ rows : List (Nat × List String), icons.manifestLines = rows.flatMap entry
    ∧ (rows.map Prod.fst).Pairwise (· < ·)
    ∧ (∀ row ∈ rows, row.2 ≠ [] ∧ row.2.Pairwise (· < ·))
    ∧ ∀ code size, (code, size) ∈ pairs ↔ ∃ codes, (size, codes) ∈ rows ∧ code ∈ codes

theorem holds_ofGlyphs (glyphs : List Glyph) : (ofGlyphs glyphs).Holds (recorded glyphs) where
  count := by
    have hpairs : recorded glyphs = (ofGlyphs glyphs).pairs.toFinset := by
      ext ⟨code, size⟩
      rw [List.mem_toFinset, mem_pairs, lists_ofGlyphs]
    rw [hpairs, count_eq, List.toFinset_card_of_nodup (sorted_ofGlyphs glyphs).nodup_pairs]
  contains text size := by
    rw [contains_iff]
    exact exists_congr fun code => and_congr_right fun _ => lists_ofGlyphs
  manifest := by
    have hsorted := sorted_ofGlyphs glyphs
    refine ⟨ofGlyphs glyphs, rfl, hsorted.ascending, fun row hrow => ?_, fun code size => ?_⟩
    · exact ⟨hsorted.nonempty row hrow, hsorted.codes row hrow⟩
    · exact lists_ofGlyphs.symm

/-- **Calls leave the same registry just if they record the same pairs,** and it holds these pairs. A
pair is recorded in every spelling of its codepoint, and a normal form is its own. -/
theorem ofGlyphs_eq_iff (as bs : List Glyph) :
    (ofGlyphs as = ofGlyphs bs ↔ recorded as = recorded bs)
      ∧ (ofGlyphs as).Holds (recorded as)
      ∧ (∀ lead ∈ "" :: Icon.leads, ∀ digits : List Char,
          digits.length = 4 ∨ digits.length = 5 → (∀ c ∈ digits, Numeric.isHexDigit c = true) →
          Icon.normalize? (lead ++ String.ofList digits) = some (Text.upper (String.ofList digits)))
      ∧ ∀ text code, Icon.normalize? text = some code → Icon.normalize? code = some code := by
  refine ⟨⟨fun h => ?_, fun h => ?_⟩, holds_ofGlyphs as, ?_, fun _ _ => Icon.normalize?_idem⟩
  · ext ⟨code, size⟩
    rw [← lists_ofGlyphs, h, lists_ofGlyphs]
  · refine eq_of_lists (sorted_ofGlyphs as) (sorted_ofGlyphs bs) fun size code => ?_
    rw [lists_ofGlyphs, h, lists_ofGlyphs]
  · exact fun _ hlead _ hlength => Icon.normalize?_append hlead hlength

/-- Other calls, in another order and other spellings, leave the same registry. -/
theorem ofGlyphs_eq_respelled :
    let first : List Glyph := [⟨"mdi:f0595", 48⟩, ⟨"F0599", 48⟩, ⟨"F0595", 24⟩, ⟨"sunny", 24⟩, ⟨"E88A", 0⟩]
    let second : List Glyph := [⟨"U+E88A", 1⟩, ⟨" 0xF0595 ", 24⟩, ⟨"f0595", 48⟩, ⟨"F0595", 48⟩, ⟨"u+f0599", 48⟩]
    recorded first = recorded second ∧ ofGlyphs first = ofGlyphs second
      ∧ (ofGlyphs first).count = (recorded first).card ∧ (recorded first).card = 4
      ∧ Icon.normalize? ("mdi:" ++ String.ofList ['f', '0', '5', '9', '5'])
        = some (Text.upper (String.ofList ['f', '0', '5', '9', '5'])) := by
  intro first second
  have hsame : recorded first = recorded second := by decide +kernel
  obtain ⟨hiff, hholds, hspelled, -⟩ := ofGlyphs_eq_iff first second
  have hdigits : ['f', '0', '5', '9', '5'].all Numeric.isHexDigit = true := by decide
  exact ⟨hsame, hiff.2 hsame, hholds.count, by decide +kernel,
    hspelled "mdi:" (by decide) _ (Or.inr rfl) (List.all_eq_true.1 hdigits)⟩

end Icons

end DisplayLayout
