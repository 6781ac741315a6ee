import DisplayLayout.Proofs.Fonts
import DisplayLayout.Proofs.Icon

/-!
# The font manifest

What a font section declares, read off its rows: an entry begins at a dash, and
has the identifier of a font and its glyphs. A run declares every font that it
takes in, each by one entry (`WellKept.declares_text`), and the entry of an icon
font lists every glyph that the run takes in at its size
(`WellKept.lists_icon`).
-/

namespace DisplayLayout

open Text

/-! ## Reading a manifest -/

namespace FontManifest

/-- Whether an entry begins with a row. -/
def opensEntry (row : String) : Bool := (Line.after? "  - " row.toList).isSome

/-- The entries of a manifest, each up to the next one. -/
def entries : List String → List (List String)
  | [] => []
  | row :: rows =>
    if opensEntry row then (row :: rows.takeWhile (!opensEntry ·)) :: entries rows else entries rows

/-- The identifier in a row. -/
def id? (row : String) : Option String := (Line.after? "    id: " row.toList).map String.ofList

/-- The glyph in a row; none inside if it cannot be read. -/
def glyph? (row : String) : Option (Option Nat) :=
  (Line.after? "      - \"" row.toList).map fun cs =>
    if cs.getLast? = some '"' then Icon.codepoint? cs.dropLast else none

/-- The identifiers in an entry. -/
def ids (entry : List String) : List String := entry.filterMap id?

/-- The glyphs in an entry. -/
def glyphs (entry : List String) : List (Option Nat) := entry.filterMap glyph?

/-- The entries that declare a font. -/
def declaring (manifest : List String) (id : String) : List (List String) :=
  (entries manifest).filter (id ∈ ids ·)

/-- A font that just one entry declares. -/
def Declares (manifest : List String) (id : String) : Prop :=
  ∃ entry, declaring manifest id = [entry]

/-- A glyph that an entry of a font lists. -/
def Lists (manifest : List String) (id : String) (n : Nat) : Prop :=
  ∃ entry ∈ declaring manifest id, some n ∈ glyphs entry

/-! ### Entries one behind the other -/

/-- The rows of one entry. -/
structure IsEntry (entry : List String) : Prop where
  head : ∃ row, entry.head? = some row ∧ opensEntry row = true
  tail : ∀ row ∈ entry.tail, opensEntry row = false

theorem IsEntry.exists_eq_cons {entry : List String} (h : IsEntry entry) :
    ∃ head tail, entry = head :: tail ∧ opensEntry head = true
      ∧ ∀ row ∈ tail, opensEntry row = false := by
  obtain ⟨head, hhead, hopens⟩ := h.head
  obtain ⟨tail, rfl⟩ := List.head?_eq_some_iff.1 hhead
  exact ⟨head, tail, rfl, hopens, h.tail⟩

theorem entries_append {front : List String} (h : ∀ row ∈ front, opensEntry row = false)
    (rows : List String) : entries (front ++ rows) = entries rows := by
  induction front with
  | nil => rfl
  | cons row front ih =>
    rw [List.forall_mem_cons] at h
    rw [List.cons_append, entries, if_neg (by simp [h.1]), ih h.2]

/-- **Entries are told apart by their first rows.** -/
theorem entries_flatten {groups : List (List String)} (h : ∀ entry ∈ groups, IsEntry entry) :
    entries groups.flatten = groups := by
  induction groups with
  | nil => rfl
  | cons entry groups ih =>
    rw [List.forall_mem_cons] at h
    obtain ⟨hentry, hgroups⟩ := h
    obtain ⟨head, tail, rfl, hhead, htail⟩ := hentry.exists_eq_cons
    have htake : (tail ++ groups.flatten).takeWhile (!opensEntry ·) = tail := by
      refine takeWhile_append_stop (fun row hrow => by simp [htail row hrow]) fun row hrow => ?_
      cases groups with
      | nil => cases hrow
      | cons next groups =>
        obtain ⟨first, rest, rfl, hfirst, -⟩ := (hgroups next List.mem_cons_self).exists_eq_cons
        cases hrow
        simp [hfirst]
    rw [List.flatten_cons, List.cons_append, entries, if_pos hhead, htake, entries_append htail,
      ih hgroups]

/-- Entries with one identifier each, and no identifier twice. -/
structure Distinct (groups : List (List String)) (names : List String) : Prop where
  isEntry : ∀ entry ∈ groups, IsEntry entry
  ids : groups.map ids = names.map ([·])
  nodup : names.Nodup

theorem Distinct.declaring {groups : List (List String)} {names : List String}
    (h : Distinct groups names) {entry : List String} (hentry : entry ∈ groups) {id : String}
    (hid : FontManifest.ids entry = [id]) : declaring groups.flatten id = [entry] := by
  rw [FontManifest.declaring, entries_flatten h.isEntry]
  obtain ⟨-, hids, hnodup⟩ := h
  induction groups generalizing names with
  | nil => exact absurd hentry List.not_mem_nil
  | cons first groups ih =>
    cases names with
    | nil => cases hids
    | cons name names =>
      rw [List.map_cons, List.map_cons, List.cons.injEq] at hids
      obtain ⟨hfirst, hids⟩ := hids
      rw [List.nodup_cons] at hnodup
      have hnames : ∀ other ∈ groups, ∃ n ∈ names, FontManifest.ids other = [n] := by
        intro other hother
        have hmem : FontManifest.ids other ∈ names.map ([·]) := hids ▸ List.mem_map_of_mem hother
        obtain ⟨n, hn, heq⟩ := List.mem_map.1 hmem
        exact ⟨n, hn, heq.symm⟩
      rcases List.mem_cons.1 hentry with rfl | hentry
      · have hname : id = name := List.singleton_inj.1 (hid.symm.trans hfirst)
        rw [List.filter_cons_of_pos (by simp [hid]), List.filter_eq_nil_iff.2]
        intro other hother
        obtain ⟨n, hn, heq⟩ := hnames other hother
        rw [heq, decide_eq_true_eq, List.mem_singleton]
        rintro rfl
        exact hnodup.1 (hname ▸ hn)
      · obtain ⟨n, hn, heq⟩ := hnames entry hentry
        have hother : id ≠ name := by
          rintro rfl
          rw [hid, List.singleton_inj] at heq
          exact hnodup.1 (heq ▸ hn)
        rw [List.filter_cons_of_neg (by simp [hfirst, hother])]
        exact ih hentry hids hnodup.2

/-- A manifest of such entries declares their identifiers. -/
theorem Distinct.ids_flatten {groups : List (List String)} {names : List String}
    (h : Distinct groups names) : FontManifest.ids groups.flatten = names := by
  have hids : groups.map (List.filterMap id?) = names.map ([·]) := h.ids
  rw [FontManifest.ids, List.filterMap_flatten, hids, ← List.flatMap_def, List.flatMap_singleton']

/-! ### Rows of entries -/

theorem opensEntry_append {lead : String} (h : Line.clash "  - ".toList lead.toList = true)
    (rest : String) : opensEntry (lead ++ rest) = false := by
  rw [opensEntry, String.toList_append, Line.after?_of_clash h]
  rfl

theorem id?_append {lead : String} (h : Line.clash "    id: ".toList lead.toList = true)
    (rest : String) : id? (lead ++ rest) = none := by
  rw [id?, String.toList_append, Line.after?_of_clash h]
  rfl

theorem id?_idRow (id : String) : id? ("    id: " ++ id) = some id := by
  have hafter : Line.after? "    id: " ("    id: " ++ id).toList = some id.toList :=
    Line.after?_eq_some_iff.2 String.toList_append
  rw [id?, hafter, Option.map_some, String.ofList_toList]

/-- An entry with one row of an identifier. -/
theorem ids_append_cons {front back : List String} (hfront : ∀ row ∈ front, id? row = none)
    (hback : ∀ row ∈ back, id? row = none) (id : String) :
    ids (front ++ ("    id: " ++ id) :: back) = [id] := by
  rw [ids, List.filterMap_append, List.filterMap_eq_nil_iff.2 hfront,
    List.filterMap_cons_some (id?_idRow id), List.filterMap_eq_nil_iff.2 hback, List.nil_append]

/-- The row of a glyph. -/
def glyphRow (code : String) : String := "      - \"" ++ Icon.escape code ++ "\""

theorem glyph?_glyphRow {code : String} (h : Icon.normalize? code = some code) :
    glyph? (glyphRow code) = some (Numeric.readHex? code.toList) := by
  have hafter : Line.after? "      - \"" (glyphRow code).toList
      = some ((Icon.escape code).toList ++ ['"']) := by
    rw [Line.after?_eq_some_iff, glyphRow, String.toList_append, String.toList_append,
      List.append_assoc]
    rfl
  rw [glyph?, hafter, Option.map_some, List.getLast?_concat, if_pos rfl, List.dropLast_concat,
    Icon.codepoint?_escape h]

end FontManifest

/-! ## The entries of fonts -/

open FontManifest

theorem Font.isEntry_manifestLines (f : Font) : IsEntry f.manifestLines where
  head := ⟨"  - file:", rfl, by decide⟩
  tail := by
    unfold manifestLines
    simp only [List.cons_append, List.tail_cons, List.nil_append, List.forall_mem_append,
      List.forall_mem_cons]
    refine ⟨by decide, opensEntry_append (by decide) _, opensEntry_append (by decide) _, ?_,
      opensEntry_append (by decide) _, opensEntry_append (by decide) _, by decide, by decide,
      List.forall_mem_nil _⟩
    split
    · exact List.forall_mem_singleton.2 (by decide)
    · exact List.forall_mem_nil _

theorem Font.ids_manifestLines (f : Font) : ids f.manifestLines = [f.id] := by
  refine ids_append_cons ?_ ?_ f.id
  · simp only [List.forall_mem_append, List.forall_mem_cons]
    refine ⟨⟨by decide, by decide, id?_append (by decide) _, id?_append (by decide) _,
      List.forall_mem_nil _⟩, ?_⟩
    split
    · exact List.forall_mem_singleton.2 (by decide)
    · exact List.forall_mem_nil _
  · simp only [List.forall_mem_cons]
    exact ⟨id?_append (by decide) _, by decide, by decide, List.forall_mem_nil _⟩

/-- The entry of an icon font. -/
def Icons.entry (p : Nat × List String) : List String :=
  ["  - file: \"fonts/materialdesignicons-webfont.ttf\"", "    id: " ++ Icon.fontId p.1,
    s!"    size: {p.1}", "    glyphs:"] ++ p.2.map glyphRow

theorem Icons.isEntry_entry (p : Nat × List String) : IsEntry (entry p) where
  head := ⟨_, rfl, by decide⟩
  tail := by
    unfold entry
    simp only [List.cons_append, List.tail_cons, List.nil_append, List.forall_mem_cons,
      List.forall_mem_map]
    refine ⟨opensEntry_append (by decide) _, opensEntry_append (by decide) _, by decide,
      fun code _ => ?_⟩
    rw [glyphRow, String.append_assoc]
    exact opensEntry_append (by decide) _

theorem Icons.ids_entry (p : Nat × List String) : ids (entry p) = [Icon.fontId p.1] := by
  have hrows : entry p = ["  - file: \"fonts/materialdesignicons-webfont.ttf\""]
      ++ ("    id: " ++ Icon.fontId p.1)
        :: (s!"    size: {p.1}" :: "    glyphs:" :: p.2.map glyphRow) := rfl
  rw [hrows]
  refine ids_append_cons (List.forall_mem_singleton.2 (by decide)) ?_ _
  simp only [List.forall_mem_cons, List.forall_mem_map]
  refine ⟨id?_append (by decide) _, by decide, fun code _ => ?_⟩
  rw [glyphRow, String.append_assoc]
  exact id?_append (by decide) _

theorem Icons.mem_glyphs_entry {p : Nat × List String} {code : String} (hcode : code ∈ p.2)
    (hnormal : Icon.normalize? code = some code) : Numeric.readHex? code.toList ∈ glyphs (entry p) :=
  List.mem_filterMap.2 ⟨glyphRow code, List.mem_append_right _ (List.mem_map_of_mem hcode),
    glyph?_glyphRow hnormal⟩

/-! ## The identifiers of fonts -/

theorem Numeric.count_underscore_toString (n : Nat) : (toString n).toList.count '_' = 0 :=
  List.count_eq_zero.2 fun hmem => absurd (isDigit_of_mem_toString hmem) (by decide)

/-- An identifier of an icon font has two underscores, and one of a text font has more. -/
theorem Icon.count_underscore_fontId (size : Nat) : (Icon.fontId size).toList.count '_' = 2 := by
  have hlead : "font_mdi_".toList.count '_' = 2 := by decide
  have htext : Icon.fontId size = "font_mdi_" ++ toString size := rfl
  rw [htext, String.toList_append, List.count_append, hlead, Numeric.count_underscore_toString]

theorem Font.lt_count_underscore_id (f : Font) : 2 < f.id.toList.count '_' := by
  have hlead : "font_".toList.count '_' = 1 := by decide
  have hmark : "_".toList.count '_' = 1 := by decide
  have htext : f.id = "font_" ++ Identifier.slug f.family
      ++ ("_" ++ toString f.weight ++ "_" ++ toString f.size) ++ if f.italic then "_italic" else "" := rfl
  rw [htext]
  simp only [String.toList_append, List.count_append, hlead, hmark, Numeric.count_underscore_toString]
  omega

theorem Font.id_ne_fontId (f : Font) (size : Nat) : f.id ≠ Icon.fontId size := by
  intro h
  have hcount := f.lt_count_underscore_id
  rw [h, Icon.count_underscore_fontId] at hcount
  exact Nat.lt_irrefl _ hcount

theorem Icon.fontId_injective : Function.Injective Icon.fontId := by
  intro a b h
  have htext : ∀ n : Nat, (Icon.fontId n).toList = "font_mdi_".toList ++ (toString n).toList := fun n =>
    String.toList_append
  have hdigits := congrArg String.toList h
  rw [htext, htext, List.append_cancel_left_eq] at hdigits
  have hread := congrArg Numeric.readDigits? hdigits
  rw [Numeric.readDigits?_toString, Numeric.readDigits?_toString] at hread
  exact Option.some.inj hread

/-! ## Registries -/

namespace Fonts

/-- Fonts under their own identifiers, and none of them twice. -/
structure WellKept (fonts : Fonts) : Prop where
  keyed : ∀ p ∈ fonts, p.1 = p.2.id
  nodup : (Keyed.keys fonts).Nodup

theorem keys_add (fonts : Fonts) (f : Font) :
    Keyed.keys (fonts.add f)
      = if f.id ∈ Keyed.keys fonts then Keyed.keys fonts else Keyed.keys fonts ++ [f.id] := by
  by_cases hmem : f.id ∈ Keyed.keys fonts
  · have hsome : Keyed.contains fonts f.id = true := by
      rw [Keyed.contains, Option.isSome_iff_ne_none]
      exact fun hnone => Keyed.get?_eq_none_iff.1 hnone hmem
    rw [add, Keyed.putNew, if_pos hsome, if_pos hmem]
  · rw [add, Keyed.putNew_of_notMem hmem, if_neg hmem, Keyed.keys_append]
    rfl

theorem mem_keys_add {fonts : Fonts} {f : Font} {id : String} :
    id ∈ Keyed.keys (fonts.add f) ↔ id ∈ Keyed.keys fonts ∨ id = f.id := by
  rw [keys_add]
  split
  · next hmem =>
    refine ⟨Or.inl, ?_⟩
    rintro (h | rfl)
    · exact h
    · exact hmem
  · rw [List.mem_append, List.mem_singleton]

theorem WellKept.add {fonts : Fonts} (h : fonts.WellKept) (f : Font) : (fonts.add f).WellKept where
  keyed p hp := by
    rcases mem_add hp with hp | rfl
    · exact h.keyed p hp
    · rfl
  nodup := by
    rw [keys_add]
    split
    · exact h.nodup
    · next hnew => exact h.nodup.append (List.nodup_singleton _) (by simpa using hnew)

end Fonts

namespace Icons

/-- The sizes of icon fonts ascend. -/
def Ascending (icons : Icons) : Prop := (icons.map Prod.fst).Pairwise (· < ·)

theorem mem_sizes_insertAt {icons : Icons} {size s : Nat} {code : String} :
    s ∈ (insertAt size code icons).map Prod.fst ↔ s = size ∨ s ∈ icons.map Prod.fst := by
  induction icons with
  | nil => simp [insertAt]
  | cons p icons ih =>
    rw [insertAt]
    split
    · next heq => simp [heq]
    · split
      · simp
      · rw [List.map_cons, List.mem_cons, ih, List.map_cons, List.mem_cons]
        exact or_left_comm

theorem Ascending.insertAt {icons : Icons} (h : icons.Ascending) (size : Nat) (code : String) :
    (insertAt size code icons).Ascending := by
  unfold Ascending at h ⊢
  induction icons with
  | nil => exact List.pairwise_singleton _ _
  | cons p icons ih =>
    rw [List.map_cons, List.pairwise_cons] at h
    rw [Icons.insertAt]
    split
    · exact List.pairwise_cons.2 h
    · next hne =>
      split
      · next hlt =>
        rw [List.map_cons, List.pairwise_cons, List.map_cons, List.pairwise_cons]
        refine ⟨fun s hs => ?_, h⟩
        rcases List.mem_cons.1 hs with rfl | hs
        · exact hlt
        · exact hlt.trans (h.1 s hs)
      · next hge =>
        rw [List.map_cons, List.pairwise_cons]
        refine ⟨fun s hs => ?_, ih h.2⟩
        rcases mem_sizes_insertAt.1 hs with rfl | hs
        · exact lt_of_le_of_ne (not_lt.1 hge) (Ne.symm hne)
        · exact h.1 s hs

theorem Ascending.track {icons : Icons} (h : icons.Ascending) (code : String) (size : Nat) :
    (icons.track code size).Ascending := by
  unfold Icons.track
  split
  · exact h.insertAt _ _
  · exact h

end Icons

/-! ## The manifest of a run -/

namespace Generation

/-- Registries in good order. -/
structure WellKept (g : Generation) : Prop where
  fonts : g.fonts.WellKept
  icons : g.icons.Ascending

theorem WellKept.absorb {g : Generation} (h : g.WellKept) (d : Drawing) : (g.absorb d).WellKept where
  fonts := List.foldlRecOn (motive := Fonts.WellKept) d.fonts _ h.fonts fun _ hfonts f _ => hfonts.add f
  icons := List.foldlRecOn (motive := Icons.Ascending) d.glyphs _ h.icons fun _ hicons _ _ =>
    hicons.track _ _

/-- The entries of the font section. -/
def fontEntries (g : Generation) : List (List String) :=
  (if g.fonts.isEmpty && g.icons.isEmpty then
      [(Font.of Font.defaultFamily 400 20 false).manifestLines]
    else [])
    ++ g.fonts.map (fun p => p.2.manifestLines) ++ g.icons.map Icons.entry

/-- The identifiers that the font section declares. -/
def fontIds (g : Generation) : List String :=
  (if g.fonts.isEmpty && g.icons.isEmpty then [(Font.of Font.defaultFamily 400 20 false).id] else [])
    ++ g.fonts.map (fun p => p.2.id) ++ g.icons.map fun p => Icon.fontId p.1

theorem fontLines_eq (g : Generation) : g.fontLines = g.fontEntries.flatten := by
  have hicons : g.icons.manifestLines = (g.icons.map Icons.entry).flatten := by
    rw [Icons.manifestLines, List.flatMap_def]
    rfl
  rw [fontLines, Fonts.manifestLines, fontEntries, List.flatten_append, List.flatten_append, hicons,
    List.flatMap_def]
  split
  · rw [List.flatten_singleton]
  · rfl

/-- **No two entries of a font section declare the same font.** -/
theorem WellKept.distinct {g : Generation} (h : g.WellKept) : Distinct g.fontEntries g.fontIds where
  isEntry := by
    unfold fontEntries
    simp only [List.forall_mem_append, List.forall_mem_map]
    refine ⟨⟨?_, fun p _ => p.2.isEntry_manifestLines⟩, fun p _ => Icons.isEntry_entry p⟩
    split
    · exact List.forall_mem_singleton.2 (Font.isEntry_manifestLines _)
    · exact List.forall_mem_nil _
  ids := by
    unfold fontEntries fontIds
    simp only [List.map_append, List.map_map, Function.comp_def, Font.ids_manifestLines,
      Icons.ids_entry]
    split
    · rw [List.map_singleton, List.map_singleton, Font.ids_manifestLines]
    · rfl
  nodup := by
    have hfonts : (g.fonts.map fun p => p.2.id).Nodup := by
      rw [← List.map_congr_left h.fonts.keyed]
      exact h.fonts.nodup
    have hicons : (g.icons.map fun p => Icon.fontId p.1).Nodup := by
      have hsizes : (g.icons.map Prod.fst).Nodup := h.icons.imp Nat.ne_of_lt
      have hids := hsizes.map Icon.fontId_injective
      rwa [List.map_map] at hids
    have hboth : ((g.fonts.map fun p => p.2.id) ++ g.icons.map fun p => Icon.fontId p.1).Nodup := by
      refine hfonts.append hicons fun id htext hicon => ?_
      obtain ⟨p, -, rfl⟩ := List.mem_map.1 htext
      obtain ⟨q, -, hq⟩ := List.mem_map.1 hicon
      exact p.2.id_ne_fontId q.1 hq.symm
    unfold fontIds
    split
    · next hempty =>
      rw [Bool.and_eq_true, List.isEmpty_iff, List.isEmpty_iff] at hempty
      rw [hempty.1, hempty.2]
      exact List.nodup_singleton _
    · exact hboth

section

variable {g : Generation} (h : g.WellKept)

include h

/-- **A registered text font is declared once.** -/
theorem WellKept.declares_text {f : Font} (hf : f.id ∈ Keyed.keys g.fonts) :
    Declares g.fontLines f.id := by
  obtain ⟨p, hp, hid⟩ := List.mem_map.1 hf
  refine ⟨p.2.manifestLines, ?_⟩
  rw [fontLines_eq]
  refine h.distinct.declaring ?_ ?_
  · exact List.mem_append_left _ (List.mem_append_right _ (List.mem_map_of_mem hp))
  · rw [p.2.ids_manifestLines, ← h.fonts.keyed p hp, hid]

theorem WellKept.declaring_icon {p : Nat × List String} (hp : p ∈ g.icons) :
    declaring g.fontLines (Icon.fontId p.1) = [Icons.entry p] := by
  rw [fontLines_eq]
  refine h.distinct.declaring ?_ (Icons.ids_entry p)
  exact List.mem_append_right _ (List.mem_map_of_mem hp)

/-- **A registered glyph is listed by the icon font of its size,** which is declared once. -/
theorem WellKept.lists_icon {size : Nat} {code : String} {n : Nat} (hlists : g.icons.Lists size code)
    (hnormal : Icon.normalize? code = some code) (hread : Numeric.readHex? code.toList = some n) :
    Declares g.fontLines (Icon.fontId size) ∧ Lists g.fontLines (Icon.fontId size) n := by
  obtain ⟨codes, hmem, hcode⟩ := hlists
  have hdeclaring := h.declaring_icon hmem
  refine ⟨⟨_, hdeclaring⟩, Icons.entry (size, codes), ?_, ?_⟩
  · rw [hdeclaring]
    exact List.mem_singleton_self _
  · rw [← hread]
    exact Icons.mem_glyphs_entry hcode hnormal

end

/-! ### Runs -/

section

variable {α : Type} (config : Config) {pages : List (VisitedPage α)}

theorem wellKept_registries : (registries config pages).WellKept :=
  registries_induct config
    ⟨⟨fun _ hp => absurd hp List.not_mem_nil, List.nodup_nil⟩, List.Pairwise.nil⟩
    fun _ _ e _ _ hg => hg.absorb e.uses

variable {page : VisitedPage α} (hpage : page ∈ pages) {e : Emission α} (he : e ∈ page.emissions)

include hpage he

/-- What holds after an emission has been taken in, and stays so, holds at the end of a run. -/
theorem registries_of_mem {motive : Generation → Prop}
    (hhit : ∀ g : Generation, motive (g.absorb e.uses))
    (hkeep : ∀ (g : Generation) d, motive g → motive (g.absorb d)) : motive (registries config pages) := by
  have hmem : e ∈ pages.flatMap VisitedPage.emissions := List.mem_flatMap.2 ⟨page, hpage, he⟩
  obtain ⟨front, back, hsplit⟩ := List.append_of_mem hmem
  unfold registries
  rw [hsplit, List.foldl_append, List.foldl_cons]
  exact List.foldlRecOn back _ (hhit _) fun g hg f _ => hkeep g f.uses hg

theorem mem_keys_registries {f : Font} (hf : f ∈ e.uses.fonts) :
    f.id ∈ Keyed.keys (registries config pages).fonts := by
  have hrun : ∀ {fonts : Fonts} {fs : List Font}, f.id ∈ Keyed.keys fonts ∨ f ∈ fs →
      f.id ∈ Keyed.keys (fs.foldl Fonts.add fonts) := by
    intro fonts fs h
    induction fs generalizing fonts with
    | nil => exact h.resolve_right List.not_mem_nil
    | cons first fs ih =>
      refine ih ?_
      rcases h with h | h
      · exact Or.inl (Fonts.mem_keys_add.2 (Or.inl h))
      · rcases List.mem_cons.1 h with rfl | h
        · exact Or.inl (Fonts.mem_keys_add.2 (Or.inr rfl))
        · exact Or.inr h
  exact registries_of_mem config hpage he (motive := fun g => f.id ∈ Keyed.keys g.fonts)
    (fun g => hrun (Or.inr hf)) fun g d hg => hrun (Or.inl hg)

theorem lists_registries {code : String} {size : Nat} (hsize : 0 < size)
    (hcode : Icon.normalize? code = some code) (hmem : ⟨code, size⟩ ∈ e.uses.glyphs) :
    (registries config pages).icons.Lists size code :=
  registries_of_mem config hpage he (motive := fun g => g.icons.Lists size code)
    (fun _ => Icons.lists_foldl_track.2 (Or.inr ⟨_, hmem, hcode, (Nat.max_eq_right hsize).symm⟩))
    fun _ _ hg => Icons.lists_foldl_track.2 (Or.inl hg)

end

end Generation

end DisplayLayout
