import DisplayLayout.Proofs.FontManifest

/-!
# The font registry

A call asks the registry for a font and gets an identifier back. Two fonts have
the same identifier just if they are the same up to the slug of the family
(`Font.id_eq_iff`): a slug may hold underscores and digits itself, but the
weight and the size are read off the end. The registry keeps the first font of
each identifier, and no identifier of a manifest comes twice
(`Fonts.serves_requestAll`).
-/

namespace DisplayLayout

/-! ## Identifiers of text fonts -/

namespace Font

/-- An identifier up to the style of the font. -/
def uprightId (f : Font) : String :=
  "font_" ++ Identifier.slug f.family ++ s!"_{f.weight}" ++ s!"_{f.size}"

theorem id_eq (f : Font) : f.id = f.uprightId ++ if f.italic then "_italic" else "" := by
  rw [id, uprightId, ← String.toList_inj]
  simp only [String.toList_append, List.append_assoc]

/-- The last character tells the style: a size ends in a digit. -/
theorem getLast?_id (f : Font) :
    ∃ c, f.id.toList.getLast? = some c ∧ (c.isDigit = true ↔ f.italic = false) := by
  cases hstyle : f.italic with
  | true =>
    refine ⟨'c', ?_, by decide⟩
    rw [id_eq, hstyle, if_pos rfl, String.toList_append, List.getLast?_append]
    rfl
  | false =>
    have hlast := List.getLast?_eq_some_getLast (Numeric.toString_ne_nil f.size)
    have hdigit := Numeric.isDigit_of_mem_toString (List.mem_of_getLast? hlast)
    refine ⟨_, ?_, iff_of_true hdigit rfl⟩
    have hsize : s!"_{f.size}" = "_" ++ toString f.size := rfl
    rw [id_eq, hstyle, if_neg Bool.false_ne_true, String.append_empty, uprightId, hsize,
      ← String.append_assoc, String.toList_append, List.getLast?_append, hlast, Option.some_or]

/-- **An identifier tells the slug of the family, the weight, the size and the style.** -/
theorem id_eq_iff (f g : Font) :
    f.id = g.id ↔ Identifier.slug f.family = Identifier.slug g.family ∧ f.weight = g.weight
      ∧ f.size = g.size ∧ f.italic = g.italic := by
  constructor
  · intro h
    have hstyle : f.italic = g.italic := by
      obtain ⟨c, hc, hf⟩ := f.getLast?_id
      obtain ⟨d, hd, hg⟩ := g.getLast?_id
      rw [h, hd, Option.some_inj] at hc
      subst hc
      rw [Bool.eq_iff_iff, ← not_iff_not, Bool.not_eq_true, Bool.not_eq_true, ← hf, ← hg]
    -- Behind the slug stand two numbers, which are read off the end one after the other.
    rw [id_eq, id_eq, hstyle, String.append_left_inj, uprightId, uprightId] at h
    obtain ⟨hfront, hsize⟩ := Numeric.numbered_inj h
    obtain ⟨hslug, hweight⟩ := Numeric.numbered_inj hfront
    exact ⟨(String.append_right_inj _).1 hslug, hweight, hsize, hstyle⟩
  · rintro ⟨hslug, hweight, hsize, hstyle⟩
    rw [id, id, hslug, hweight, hsize, hstyle]

end Font

/-! ## Calls -/

/-- What a call asks for. -/
structure FontRequest where
  family : String
  weight : Nat
  size : Nat
  italic : Bool

namespace FontRequest

/-- The font that is asked for. -/
def font (r : FontRequest) : Font := Font.of r.family r.weight r.size r.italic

/-- The family that is meant: a blank one is the default. -/
def meantFamily (r : FontRequest) : String :=
  if Text.trim r.family = "" then "Roboto" else Text.trim r.family

/-- The weight that is meant: none is the normal one. -/
def meantWeight (r : FontRequest) : Nat := if r.weight = 0 then 400 else r.weight

/-- The size that is meant: at least one pixel. -/
def meantSize (r : FontRequest) : Nat := if r.size < 1 then 1 else r.size

/-- Calls that mean the same font, up to the slug of the family. -/
structure Agrees (a b : FontRequest) : Prop where
  family : Identifier.slug a.meantFamily = Identifier.slug b.meantFamily
  weight : a.meantWeight = b.meantWeight
  size : a.meantSize = b.meantSize
  italic : a.italic = b.italic

theorem font_eq (r : FontRequest) : r.font = ⟨r.meantFamily, r.meantWeight, r.meantSize, r.italic⟩ := by
  have hblank : (Text.trim r.family).isEmpty = true ↔ Text.trim r.family = "" := String.isEmpty_iff
  have hsize : max 1 r.size = r.meantSize := by
    unfold meantSize
    split <;> omega
  simp only [font, Font.of, hblank, hsize]
  rfl

theorem id_font_eq_iff (a b : FontRequest) : a.font.id = b.font.id ↔ a.Agrees b := by
  rw [Font.id_eq_iff, font_eq, font_eq]
  dsimp only
  exact ⟨fun ⟨hfamily, hweight, hsize, hitalic⟩ => ⟨hfamily, hweight, hsize, hitalic⟩,
    fun h => ⟨h.family, h.weight, h.size, h.italic⟩⟩

end FontRequest

/-- Families that are written alike but for case and separators share their fonts. -/
example : FontRequest.Agrees ⟨"Open Sans", 0, 0, false⟩ ⟨" open-sans ", 400, 1, false⟩ :=
  ⟨by decide +kernel, rfl, rfl, rfl⟩

namespace Fonts

/-- A call: the identifier that comes back, and the registry after it. -/
def request (fonts : Fonts) (r : FontRequest) : String × Fonts := (r.font.id, fonts.add r.font)

/-- Calls one after the other. -/
def requestAll (fonts : Fonts) : List FontRequest → List String × Fonts
  | [] => ([], fonts)
  | r :: rs =>
    let (id, next) := fonts.request r
    let (ids, last) := next.requestAll rs
    (id :: ids, last)

theorem requestAll_eq (fonts : Fonts) (rs : List FontRequest) :
    fonts.requestAll rs
      = (rs.map (·.font.id), (rs.map FontRequest.font).foldl Fonts.add fonts) := by
  induction rs generalizing fonts with
  | nil => rfl
  | cons r rs ih =>
    rw [requestAll, request]
    dsimp only
    rw [ih]
    rfl

/-! ## What a registry holds -/

theorem get?_add (fonts : Fonts) (f : Font) (id : String) :
    (fonts.add f).get? id = (fonts.get? id).or (if f.id = id then some f else none) := by
  rw [add, Keyed.putNew, Keyed.contains]
  split
  · next hknown =>
    split
    · next heq => rw [← heq, Option.or_of_isSome hknown]
    · rw [Option.or_none]
  · rw [Keyed.get?_append]
    rfl

/-- **A registry finds the first font of an identifier.** -/
theorem get?_foldl_add (fonts : Fonts) (fs : List Font) (id : String) :
    (fs.foldl Fonts.add fonts).get? id = (fonts.get? id).or (fs.find? (·.id = id)) := by
  -- By the first call: a font that is kept hides all later ones of its identifier.
  induction fs generalizing fonts with
  | nil => rw [List.foldl_nil, List.find?_nil, Option.or_none]
  | cons f fs ih =>
    rw [List.foldl_cons, ih, get?_add, Option.or_assoc, List.find?_cons]
    by_cases heq : f.id = id
    · simp [heq]
    · simp [heq]

/-- **A registry has an entry for every identifier, in the order of the first calls.** -/
theorem keys_foldl_add (fs : List Font) :
    Keyed.keys (fs.foldl Fonts.add []) = (fs.map Font.id).eraseDups := by
  -- By the last call: both sides get its identifier at the end, or neither of them.
  induction fs using List.reverseRecOn with
  | nil => rfl
  | append_singleton fs f ih =>
    rw [List.foldl_append, List.foldl_cons, List.foldl_nil, keys_add, ih, List.map_append,
      List.map_singleton, Keyed.eraseDups_concat]
    simp only [List.mem_eraseDups]

theorem wellKept_foldl_add (fs : List Font) : (fs.foldl Fonts.add []).WellKept :=
  List.foldlRecOn (motive := WellKept) fs _ ⟨fun _ hp => absurd hp List.not_mem_nil, List.nodup_nil⟩
    fun _ hfonts f _ => hfonts.add f

end Fonts

/-- The registry of glyphs that have been tracked. -/
def Icons.ofGlyphs (glyphs : List Glyph) : Icons :=
  glyphs.foldl (fun icons glyph => icons.track glyph.code glyph.size) []

theorem Icons.ascending_ofGlyphs (glyphs : List Glyph) : (ofGlyphs glyphs).Ascending :=
  List.foldlRecOn (motive := Ascending) glyphs _ List.Pairwise.nil fun _ hicons _ _ => hicons.track _ _

namespace Fonts

/-- **The identifiers that a manifest declares,** none of them twice. -/
theorem WellKept.ids_manifestLines {fonts : Fonts} {icons : Icons} (hfonts : fonts.WellKept)
    (hicons : icons.Ascending) :
    FontManifest.ids (fonts.manifestLines icons)
        = (if fonts = [] ∧ icons = [] then ["font_roboto_400_20"] else [])
          ++ Keyed.keys fonts ++ icons.map (fun p => Icon.fontId p.1)
      ∧ (FontManifest.ids (fonts.manifestLines icons)).Nodup := by
  let g : Generation := { mode := .direct, device := default, fonts := fonts, icons := icons }
  have hdistinct := Generation.WellKept.distinct (g := g) ⟨hfonts, hicons⟩
  have hids : FontManifest.ids (fonts.manifestLines icons) = g.fontIds := by
    rw [← hdistinct.ids_flatten, ← Generation.fontLines_eq]
    rfl
  have hkeys : fonts.map (fun p => p.2.id) = Keyed.keys fonts :=
    (List.map_congr_left hfonts.keyed).symm
  have hdefault : (Font.of Font.defaultFamily 400 20 false).id = "font_roboto_400_20" := by
    decide +kernel
  rw [hids]
  refine ⟨?_, hdistinct.nodup⟩
  simp only [Generation.fontIds, g, hkeys, hdefault, Bool.and_eq_true, List.isEmpty_iff]

/-- A registry after calls, and the identifiers that came back. -/
structure Serves (fonts : Fonts) (rs : List FontRequest) (ids : List String) : Prop where
  /-- Every call gets an identifier. -/
  answered : ids.length = rs.length
  /-- Two calls get the same one if they mean the same font, and only then. -/
  told : ∀ i j : Fin rs.length, ids[(i : Nat)]? = ids[(j : Nat)]? ↔ (rs.get i).Agrees (rs.get j)
  /-- The identifiers are kept once each, in the order in which they first came back. -/
  kept : Keyed.keys fonts = ids.eraseDups
  once : (Keyed.keys fonts).Nodup
  /-- An identifier stands for the first font that had it. -/
  first : ∀ id, fonts.get? id = (rs.map FontRequest.font).find? (·.id = id)
  /-- A manifest declares a default font if there is nothing else to declare, the text fonts of
  the registry, and the icon fonts. -/
  declared : ∀ glyphs : List Glyph, FontManifest.ids (fonts.manifestLines (Icons.ofGlyphs glyphs))
    = (if fonts = [] ∧ Icons.ofGlyphs glyphs = [] then ["font_roboto_400_20"] else [])
      ++ Keyed.keys fonts ++ (Icons.ofGlyphs glyphs).map fun p => Icon.fontId p.1
  distinct : ∀ glyphs : List Glyph,
    (FontManifest.ids (fonts.manifestLines (Icons.ofGlyphs glyphs))).Nodup

/-- **Calls on a new registry.** -/
theorem serves_requestAll (rs : List FontRequest) :
    (requestAll [] rs).2.Serves rs (requestAll [] rs).1 := by
  rw [requestAll_eq]
  dsimp only
  have hids : (rs.map FontRequest.font).map Font.id = rs.map (·.font.id) := List.map_map
  have hkeys := keys_foldl_add (rs.map FontRequest.font)
  rw [hids] at hkeys
  have hkept := wellKept_foldl_add (rs.map FontRequest.font)
  exact
    { answered := List.length_map _
      told := fun i j => by
        rw [List.getElem?_map, List.getElem?_map, List.getElem?_eq_getElem i.isLt,
          List.getElem?_eq_getElem j.isLt, Option.map_some, Option.map_some, Option.some_inj]
        exact FontRequest.id_font_eq_iff _ _
      kept := hkeys
      once := hkept.nodup
      first := fun id => get?_foldl_add [] _ id
      declared := fun glyphs => (hkept.ids_manifestLines (Icons.ascending_ofGlyphs glyphs)).1
      distinct := fun glyphs => (hkept.ids_manifestLines (Icons.ascending_ofGlyphs glyphs)).2 }

end Fonts

end DisplayLayout
