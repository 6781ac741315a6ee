import DisplayLayout.Proofs.Artifact.Sections
import DisplayLayout.Proofs.FontManifest
import DisplayLayout.Proofs.Widget.Entries
import DisplayLayout.Proofs.Widget.Glyphs
import DisplayLayout.Qr.Symbol
import Mathlib.Data.Nat.Digits.Defs

/-!
# Identifiers of an artifact

An artifact declares identifiers in its sections, and a page tree has one for
each of its nodes. All of them are words, and those that are cut fit the firmware
compiler. Three kinds of them are not cut as a whole: a component puts a lead
before the identifier of its widget, an asset has the name of a file, and a text
font that of its family (`Project.wellFormed_identifiers`).
-/

namespace DisplayLayout

open Text

/-! ## Lengths -/

/-- A numeral of 32 bits has ten digits at most. -/
theorem Numeric.length_toString_le {n : Nat} (h : n ≤ maxWord32) : (toString n).length ≤ 10 :=
  Nat.repr_length n 10 (by decide) (lt_of_le_of_lt h (by decide))

theorem Icon.utf8ByteSize_fontId {size : Nat} (h : size ≤ Numeric.maxWord32) :
    (fontId size).utf8ByteSize ≤ Identifier.maxLength := by
  have hlead : "font_mdi_".length = 9 := by decide
  have htext : fontId size = "font_mdi_" ++ toString size := rfl
  have hdigits := Numeric.length_toString_le h
  have hmax : Identifier.maxLength = 63 := rfl
  rw [(isWordText_fontId size).utf8ByteSize_eq, htext, String.length_append, hlead]
  omega

/-! ## Sizes of icon fonts -/

/-- Icon fonts whose sizes are 32 bits. -/
def Icons.Bounded (icons : Icons) : Prop := ∀ q ∈ icons, q.1 ≤ Numeric.maxWord32

theorem Icons.Bounded.track {icons : Icons} (h : icons.Bounded) (code : String) {size : Nat}
    (hsize : size ≤ Numeric.maxWord32) : (icons.track code size).Bounded := by
  unfold Icons.track
  split
  · next c _ =>
    have hmax : max 1 size ≤ Numeric.maxWord32 := max_le (by decide) hsize
    intro q hq
    rcases mem_sizes_insertAt.1 (List.mem_map_of_mem hq) with hq | hq
    · exact hq ▸ hmax
    · obtain ⟨r, hr, heq⟩ := List.mem_map.1 hq
      exact heq ▸ h r hr
  · exact h

theorem Icons.Bounded.absorb {g : Generation} (h : g.icons.Bounded) {d : Drawing}
    (hd : ∀ glyph ∈ d.glyphs, glyph.size ≤ Numeric.maxWord32) : (g.absorb d).icons.Bounded :=
  List.foldlRecOn (motive := Icons.Bounded) d.glyphs _ h fun _ hicons glyph hglyph =>
    hicons.track glyph.code (hd glyph hglyph)

section

variable [Qr.Encoder]

/-- A form that asks for no glyphs but those that a type requires leaves all sizes within bounds. -/
theorem Project.bounded_registries {α : Type} {form : Form α}
    (hform : ∀ (k : Kind) (v : View) (s : Surface), (form k.behaviour v s).uses.glyphs = [])
    (p : Project) (config : Config) : (registries config (p.visit form config)).icons.Bounded := by
  let motive (g : Generation) : Prop := g.icons.Bounded
  have hstart : Icons.Bounded [] := fun _ hq => absurd hq List.not_mem_nil
  refine registries_induct (motive := motive) config hstart fun visited hvisited e he g hg => ?_
  obtain ⟨page, -, rfl⟩ := List.mem_map.1 hvisited
  obtain ⟨w, -, k, -, rfl⟩ := VisitedPage.exists_of_mem_emissions form config p.dark page he
  refine hg.absorb ?_
  -- an emission has what its form asks for behind what its type requires
  show ∀ glyph ∈ _ ++ _, _
  rw [hform, List.append_nil]
  exact k.size_requirements _

theorem Project.bounded_icons (p : Project) (config : Config) : (p.generation config).icons.Bounded := by
  unfold generation
  split
  · exact bounded_registries (fun k v s => k.glyphs_direct v s) p config
  · exact bounded_registries (fun k v s => k.glyphs_retained v s) p config

/-! ## Identifiers in sections -/

/-- The identifiers of which a part is not cut: those of components, which put a lead before that of
their widget, those of assets, which have the name of a file, and those of text fonts, which have
the name of a family. -/
inductive Project.Uncut (p : Project) (config : Config) : String → Prop
  | component {w : Widget} (hw : w ∈ p.widgets) {k : Kind} (htype : w.type = k.tag) {lead : String}
      (hlead : (k, lead) ∈ Component.leads) : Uncut p config (lead ++ (w.view k.behaviour).ident)
  | asset {w : Widget} (hw : w ∈ p.widgets) {s : Image.Source} {location : String}
      (hshows : s.Shows w location) : Uncut p config (s.assetId w location)
  | font {f : Font} (hf : f ∈ (p.generation config).fonts.map Prod.snd) : Uncut p config f.id

/-- A project whose widgets have no negative size. -/
def Project.Sized (p : Project) : Prop := ∀ w ∈ p.widgets, 0 ≤ w.width ∧ 0 ≤ w.height

/-- What has been read is one: no size is left below one. -/
theorem Project.IsLoaded.sized {p : Project} (h : p.IsLoaded) : p.Sized := by
  intro w hw
  obtain ⟨page, hpage, hw⟩ := List.mem_flatMap.1 hw
  have hnormal := (h.isNormal page hpage).widgets w hw
  exact ⟨Int.le_trans (by decide) hnormal.width_pos, Int.le_trans (by decide) hnormal.height_pos⟩

omit [Qr.Encoder] in
theorem Numeric.isWordText_toString_int {n : Int} (h : 0 ≤ n) : IsWordText (toString n) := by
  obtain ⟨k, rfl⟩ := Int.eq_ofNat_of_zero_le h
  rw [toString_natCast]
  exact isWordText_toString k

theorem Image.Source.isWordText_assetId (s : Source) {w : Widget} (h : 0 ≤ w.width ∧ 0 ≤ w.height)
    (location : String) : IsWordText (s.assetId w location) := by
  have hfamily : IsWordText s.store.family := by cases s <;> decide
  have hresize : IsWordText (resizeText (s.view w)) := by
    simp only [resizeText, isWordText_append]
    exact ⟨⟨Numeric.isWordText_toString_int h.1, by decide⟩, Numeric.isWordText_toString_int h.2⟩
  simp only [assetId_eq, isWordText_append]
  exact ⟨⟨hfamily, by decide⟩, isWordText_stem location, by decide, hresize⟩

section Names

variable {p : Project} {config : Config} {id : String}

/-- Global variables have known identifiers. -/
theorem Project.wellFormed_global {g : Global}
    (hg : g ∈ (p.declare config.mode config.device).globals) :
    IsWordText g.id ∧ g.id.utf8ByteSize ≤ Identifier.maxLength := by
  have hfixed : ∀ g ∈ fixedGlobals,
      IsWordText g.id ∧ g.id.utf8ByteSize ≤ Identifier.maxLength := by decide
  rcases mem_requests_of_global hg with hg | hg
  · exact hfixed g hg
  · obtain ⟨around, w, k, -, -, -, -, hasks⟩ := asks_of_mem_requests hg
    cases hasks with
    | globalVariable hg =>
      rw [Image.Source.id_of_globals hg]
      decide

theorem Project.Names.isWordText (h : p.Names config id) (hsized : p.Sized) : IsWordText id := by
  cases h with
  | time => decide
  | signal => decide
  | globalVariable hg => exact (wellFormed_global hg).1
  | @sensor s hs =>
    obtain ⟨raw, hid⟩ := (made_of_requests (mem_requests_of_sensor hs)).exists_sanitize
    exact hid ▸ Identifier.isWordText_sanitize s.kind.isWordText_suffix raw
  | component hw htype hlead =>
    have hword : ∀ q ∈ Component.leads, IsWordText q.2 := by decide
    exact isWordText_append.2 ⟨hword _ hlead, View.isWordText_ident _⟩
  | asset hw hshows => exact Image.Source.isWordText_assetId _ (hsized _ hw) _
  | defaultFont => exact Font.isWordText_id _
  | font hf => exact Font.isWordText_id _
  | icons hq => exact Icon.isWordText_fontId _

theorem Project.Names.fits (h : p.Names config id) :
    id.utf8ByteSize ≤ Identifier.maxLength ∨ p.Uncut config id := by
  cases h with
  | time => exact Or.inl (by decide)
  | signal => exact Or.inl (by decide)
  | globalVariable hg => exact Or.inl (wellFormed_global hg).2
  | @sensor s hs =>
    obtain ⟨raw, hid⟩ := (made_of_requests (mem_requests_of_sensor hs)).exists_sanitize
    have hsuffix : s.kind.suffix.utf8ByteSize ≤ Identifier.maxLength := by
      cases s.kind <;> decide
    exact Or.inl (hid ▸ Identifier.utf8ByteSize_sanitize raw hsuffix)
  | component hw htype hlead => exact Or.inr (.component hw htype hlead)
  | asset hw hshows => exact Or.inr (.asset hw hshows)
  | defaultFont => exact Or.inl (by decide +kernel)
  | font hf => exact Or.inr (.font hf)
  | icons hq => exact Or.inl (Icon.utf8ByteSize_fontId (p.bounded_icons config _ hq))

end Names

/-- The identifiers that the rows of a section declare. -/
def Section.ids (s : Section) : List String := s.lines.filterMap declaredId?

theorem Project.names_of_mem_ids {p : Project} {config : Config} {s : Section}
    (hs : s ∈ p.declarationSections config) {id : String} (h : id ∈ s.ids) : p.Names config id := by
  obtain ⟨row, hrow, hid⟩ := List.mem_filterMap.1 h
  exact ((p.isMadeOf_declarationSections config s hs).lines row hrow).named id hid

/-! ## Identifiers of nodes -/

/-- An identifier in a node is that of the widget with a suffix. -/
theorem Kind.mem_ids_nodeOf {k : Kind} {s : Surface} {w : Widget} {id : String}
    (h : id ∈ PageTree.ids (PageTree.nodeOf k.behaviour s w)) :
    ∃ suffix ∈ Node.suffixes, id = (w.view k.behaviour).identWith suffix := by
  let Q (key : String) (j : Json) : Prop :=
    key = "id" → ∃ suffix ∈ Node.suffixes, j = .string ((w.view k.behaviour).identWith suffix)
  have hallows : Node.Allows Q (w.view k.behaviour) :=
    ⟨fun _ _ hid _ hkey => absurd hkey hid, fun suffix hsuffix _ => ⟨suffix, hsuffix, rfl⟩⟩
  have hkeeps := k.keeps_nodeOf s hallows fun _ hkey => absurd hkey (by decide)
  obtain ⟨entries, hentries, hid⟩ := List.mem_filterMap.1 h
  have hmem : ("id", .string id) ∈ entries := by
    unfold PageTree.idOf? at hid
    split at hid
    · next other hget =>
      cases hid
      exact Keyed.mem_of_get? hget
    · cases hid
  obtain ⟨suffix, hsuffix, heq⟩ := hkeeps entries hentries _ hmem rfl
  exact ⟨suffix, hsuffix, Json.string.inj heq⟩

/-- The identifiers of nodes are words, and they fit. -/
theorem PageTree.fits_of_mem_nodeIds {p : Project} {config : Config} (hmode : config.mode = .retained)
    {id : String} (h : id ∈ nodeIds (p.compile config).artifact.document) :
    IsWordText id ∧ id.utf8ByteSize ≤ Identifier.maxLength := by
  obtain ⟨node, hnode, hid⟩ := List.mem_flatMap.1 h
  obtain ⟨page, -, w, -, b, hb, rfl⟩ := (mem_nodes_compile hmode).1 hnode
  obtain ⟨k, -, rfl, -⟩ := Widget.exists_kind_of_behaviourIn? (Option.mem_def.1 hb)
  obtain ⟨suffix, hsuffix, rfl⟩ := Kind.mem_ids_nodeOf hid
  have hsuffixes : ∀ suffix ∈ Node.suffixes,
      IsWordText suffix ∧ suffix.utf8ByteSize ≤ Identifier.maxLength := by decide
  exact ⟨View.isWordText_identWith _ (hsuffixes suffix hsuffix).1,
    View.utf8ByteSize_identWith _ (hsuffixes suffix hsuffix).2⟩

/-! ## Whole artifacts -/

/-- The identifiers that an artifact declares: in its sections, and in the nodes of its tree. -/
def Project.identifiers (p : Project) (config : Config) : List String :=
  (p.declarationSections config).flatMap Section.ids
    ++ PageTree.nodeIds (p.compile config).artifact.document

/-- A display lambda has no nodes. -/
theorem DisplayLambda.nodeIds_compile {p : Project} {config : Config} (hmode : config.mode = .direct) :
    PageTree.nodeIds (p.compile config).artifact.document = [] := by
  rw [Project.compile, hmode]
  rfl

/-- **Every identifier of an artifact is a word, and it fits unless a part of it is not cut.** The
size of a widget, which is in the identifier of its asset, must not be negative. -/
theorem Project.wellFormed_identifiers (p : Project) {config : Config}
    (hmode : config.mode = .direct ∨ config.mode = .retained) :
    ∀ id ∈ p.identifiers config, (p.Sized → IsWordText id)
      ∧ (id.utf8ByteSize ≤ Identifier.maxLength ∨ p.Uncut config id) := by
  intro id hid
  rcases List.mem_append.1 hid with hid | hid
  · obtain ⟨s, hs, hid⟩ := List.mem_flatMap.1 hid
    have hnames := names_of_mem_ids hs hid
    exact ⟨hnames.isWordText, hnames.fits⟩
  · rcases hmode with hmode | hmode
    · rw [DisplayLambda.nodeIds_compile hmode] at hid
      exact absurd hid List.not_mem_nil
    · obtain ⟨hword, hfits⟩ := PageTree.fits_of_mem_nodeIds hmode hid
      exact ⟨fun _ => hword, Or.inl hfits⟩

end

/-- A tree with a picture has a font, the file of the picture and a node. -/
theorem Project.wellFormed_identifiers_logo :
    let w : Widget :=
      { id := "sign", type := "image", width := 100, height := 20, props := [("path", .string "/logo.png")] }
    let tree : Config := { mode := .retained }
    "img_logo_100x20" ∈ (single w).identifiers tree ∧ "sign" ∈ (single w).identifiers tree
      ∧ ∀ id ∈ (single w).identifiers tree, IsWordText id
        ∧ (id.utf8ByteSize ≤ Identifier.maxLength ∨ (single w).Uncut tree id) := by
  intro w tree
  have hsized : (single w).Sized := List.forall_mem_singleton.2 (by decide)
  refine ⟨by decide +kernel, by decide +kernel, fun id hid => ?_⟩
  obtain ⟨hword, hfits⟩ := @wellFormed_identifiers _ (single w) tree (Or.inr rfl) id hid
  exact ⟨hword hsized, hfits⟩

/-- **An identifier may be too long for the compiler.** The identifier of a widget may have all the
bytes that there are, and a component puts a lead before it; the name of a file and that of a family
may have any number of them. -/
theorem Project.exists_uncut_identifier :
    let long : Nat → String := fun n => String.ofList (List.replicate n 'q')
    let code : Widget := { id := long 63, type := "qr_code" }
    let history : Widget := { id := long 63, type := "graph", entityId := some "sensor.a" }
    let picture : Widget :=
      { id := "a", type := "image", props := [("path", .string ("/" ++ long 60 ++ ".png"))] }
    let caption : Widget := { id := "t", type := "text", props := [("font_family", .string (long 60))] }
    let tree : Config := { mode := .retained }
    (∀ w ∈ [code, history, picture, caption], ∃ id ∈ (single w).identifiers {},
        Identifier.maxLength < id.utf8ByteSize)
      ∧ ∀ w ∈ [picture, caption], ∃ id ∈ (single w).identifiers tree,
          Identifier.maxLength < id.utf8ByteSize := by
  decide +kernel

end DisplayLayout
