import DisplayLayout.Proofs.Artifact.Balanced
import DisplayLayout.Proofs.FontManifest
import DisplayLayout.Proofs.Widget.Labelled
import DisplayLayout.Qr.Symbol

/-!
# Fonts and glyphs are declared

Whatever the widgets of a project are, its font section declares every font that
the code and the nodes of the artifact name, each by one entry, and under an
icon font nothing can be shown that its entry does not list
(`Project.serves_compile`).
-/

namespace DisplayLayout

open Text Lambda

/-! ## What a manifest has to serve -/

/-- The text calls on a line of code; a call without a font if it cannot be read. -/
def Lambda.lineCalls (line : String) : List TextCall :=
  match scan line with
  | some pieces => textCalls [] pieces
  | none => [⟨none, []⟩]

namespace FontManifest

/-- A manifest stands in an artifact: in the text as the section of the fonts, and so in the
document. -/
structure Of (a : Artifact) (manifest : List String) : Prop where
  text : ∃ front back, a.text = Section.renderAll (front ++ ⟨"font", manifest⟩ :: back)
  document : (a.document.get? "sections").bind (Json.get? "font") = some (.array (manifest.map .string))

/-- A text call takes a font that a manifest declares. -/
def ServesCall (manifest : List String) (call : TextCall) : Prop :=
  ∃ id, call.font? = some id ∧ Declares manifest id

/-- Lines that draw with fonts of a manifest. If one of them takes an icon font, then it draws
glyphs of that font, and all lines, whichever of them is run, name only such glyphs. -/
structure ServesLines (manifest : List String) (lines : List String) : Prop where
  fonts : ∀ line ∈ lines, ∀ call ∈ lineCalls line, ServesCall manifest call
  glyphs : ∀ line ∈ lines, ∀ call ∈ lineCalls line, ∀ size, call.font? = some (Icon.fontId size) →
    (∀ text ∈ call.literals, IsGlyph (Lists manifest (Icon.fontId size)) text)
      ∧ ∀ other ∈ lines, ∀ e ∈ lineGlyphs other.toList,
          ∃ n, e = some n ∧ Lists manifest (Icon.fontId size) n

/-- An object whose font a manifest declares. If it is an icon font, then the object shows only
glyphs of that font. -/
structure ServesObject (manifest : List String) (entries : Node.Entries) : Prop where
  fonts : ∀ font, ("text_font", font) ∈ entries → ∃ id, font = .string id ∧ Declares manifest id
  glyphs : ∀ size, ("text_font", .string (Icon.fontId size)) ∈ entries →
    ∀ text, ("text", text) ∈ entries → ∃ t, text = .string t
      ∧ ∀ e ∈ Node.shownGlyphs t, ∃ n, e = some n ∧ Lists manifest (Icon.fontId size) n

end FontManifest

open FontManifest

/-! ## The font section of an artifact -/

theorem Keyed.get?_ofPairs_append_singleton {α : Type} (pairs : List (String × α)) (k : String) (v : α) :
    get? (ofPairs (pairs ++ [(k, v)])) k = some v := by
  rw [ofPairs, List.foldl_append]
  exact get?_put_self _ k v

/-- The last section with a name is the one in a document. -/
theorem Section.get?_document_append_singleton (front : List Section) (s : Section) :
    (Section.document (front ++ [s])).get? s.name = some (.array (s.lines.map .string)) := by
  rw [Section.document, List.map_append]
  exact Keyed.get?_ofPairs_append_singleton _ _ _

theorem FontManifest.of_sections {a : Artifact} {g : Generation} {front : List Section} {last : Section}
    {rest : List (String × Json)}
    (htext : a.text = Section.renderAll (front ++ [fontSection g] ++ [last]))
    (hdocument : a.document
      = .object (("sections", Section.document (front ++ [fontSection g])) :: rest)) :
    FontManifest.Of a g.fontLines where
  text := by
    rw [List.append_assoc] at htext
    exact ⟨front, [last], htext⟩
  document := by
    rw [hdocument]
    exact Section.get?_document_append_singleton front (fontSection g)

theorem DisplayLambda.of_compile [Qr.Encoder] {p : Project} {config : Config}
    (hmode : config.mode = .direct) :
    FontManifest.Of (p.compile config).artifact (registries config (p.visit form config)).fontLines := by
  have hcompile : p.compile config = .withDeclarations p config form write := by
    rw [Project.compile, hmode]
  rw [hcompile]
  exact of_sections rfl rfl

theorem PageTree.of_compile [Qr.Encoder] {p : Project} {config : Config}
    (hmode : config.mode = .retained) :
    FontManifest.Of (p.compile config).artifact (registries config (p.visit form config)).fontLines := by
  have hcompile : p.compile config = .withDeclarations p config form write := by
    rw [Project.compile, hmode]
  rw [hcompile]
  exact of_sections rfl rfl

/-! ## What an emission asks for -/

section

variable {α : Type} (config : Config) {pages : List (VisitedPage α)} {page : VisitedPage α}
  (hpage : page ∈ pages) {e : Emission α} (he : e ∈ page.emissions)

include hpage he

theorem Generation.declares_registries {f : Font} (hf : f ∈ e.uses.fonts) :
    Declares (registries config pages).fontLines f.id :=
  (wellKept_registries config).declares_text (mem_keys_registries config hpage he hf)

theorem Generation.serves_registries {size n : Nat} (hsize : 0 < size) (h : e.uses.ShowsAt size n) :
    Declares (registries config pages).fontLines (Icon.fontId size)
      ∧ Lists (registries config pages).fontLines (Icon.fontId size) n := by
  obtain ⟨code, hmem, hcode, hn⟩ := h
  exact (wellKept_registries config).lists_icon (lists_registries config hpage he hsize hcode hmem)
    hcode hn

end

/-! ## Code -/

namespace DisplayLambda

/-- What the texts of a block take, whose glyphs are drawn at a size. -/
def BlockText (manifest : List String) (size : Nat) (call : TextCall) : Prop :=
  ∃ id, call.font? = some id ∧ Declares manifest id
    ∧ ∀ other, id = Icon.fontId other → other = size ∧ 0 < size
        ∧ ∀ text ∈ call.literals, IsGlyph (Lists manifest (Icon.fontId size)) text

/-- What the calls of a block take; a helper takes nothing of a manifest. -/
def BlockCall (manifest : List String) (size : Nat) : Call → Prop
  | .text call => BlockText manifest size call
  | .helper _ => True

/-- The glyphs of a block. -/
def BlockGlyph (manifest : List String) (size n : Nat) : Prop :=
  0 < size → Lists manifest (Icon.fontId size) n

theorem servesLines_of_passage {manifest lines : List String} {size a b : Nat}
    (h : Passage (BlockCall manifest size) (BlockGlyph manifest size) a b lines) :
    ServesLines manifest lines := by
  have hcalls : ∀ line ∈ lines, ∀ call ∈ lineCalls line, BlockText manifest size call := by
    intro line hline call hcall
    obtain ⟨pieces, hscan, hcalls, -⟩ := h.reads line hline
    rw [lineCalls, hscan] at hcall
    exact hcalls [] _ (text_mem_calls.2 hcall)
  have hglyphs : ∀ line ∈ lines, ∀ e ∈ lineGlyphs line.toList,
      ∃ n, e = some n ∧ BlockGlyph manifest size n := by
    intro line hline e he
    obtain ⟨pieces, hscan, -, hshows⟩ := h.reads line hline
    rw [scan] at hscan
    rw [lineGlyphs, hscan] at he
    obtain ⟨text, htext, he⟩ := List.mem_flatMap.1 he
    exact hshows text htext e he
  refine ⟨fun line hline call hcall => ?_, fun line hline call hcall other hfont => ?_⟩
  · obtain ⟨id, hid, hdeclares, -⟩ := hcalls line hline call hcall
    exact ⟨id, hid, hdeclares⟩
  · obtain ⟨id, hid, -, hicon⟩ := hcalls line hline call hcall
    obtain ⟨rfl, hsize, htexts⟩ := hicon other (Option.some.inj (hid.symm.trans hfont))
    refine ⟨htexts, fun line hline e he => ?_⟩
    obtain ⟨n, hn, hlists⟩ := hglyphs line hline e he
    exact ⟨n, hn, hlists hsize⟩

section

variable [Qr.Encoder] {p : Project} {config : Config}

/-- **The blocks of a page** take what the run has registered. -/
theorem passage_contents {page : VisitedPage (List String)} (hpage : page ∈ p.visit form config)
    {rows : List String} (hrows : rows ∈ page.contents) :
    ∃ size, let manifest := (registries config (p.visit form config)).fontLines
      Passage (BlockCall manifest size) (BlockGlyph manifest size) 0 0 rows := by
  obtain ⟨e, he, rfl⟩ := List.mem_map.1 hrows
  have hsource := hpage
  obtain ⟨source, -, rfl⟩ := List.mem_map.1 hsource
  obtain ⟨w, -, k, htype, rfl⟩ := VisitedPage.exists_of_mem_emissions form config p.dark source he
  obtain ⟨size, hcovers⟩ := k.covers_direct (w.view k.behaviour) _
  refine ⟨size, passage_block htype (hcovers.mono ?calls ?glyphs)⟩
  case calls =>
    rintro (call | h) hcall
    swap
    · trivial
    rcases hcall with ⟨f, hf, hfont⟩ | ⟨hfont, hsize, ⟨n, hn⟩, htexts⟩
    · refine ⟨f.id, hfont, Generation.declares_registries config hpage he hf, fun other hid => ?_⟩
      exact absurd hid (f.id_ne_fontId other)
    · refine ⟨_, hfont, (Generation.serves_registries config hpage he hsize hn).1, fun other hid => ?_⟩
      refine ⟨Icon.fontId_injective hid.symm, hsize, fun text htext => ?_⟩
      obtain ⟨m, hread, hm⟩ := htexts text htext
      exact ⟨m, hread, (Generation.serves_registries config hpage he hsize hm).2⟩
  case glyphs =>
    intro n hn hsize
    exact (Generation.serves_registries config hpage he hsize hn).2

/-- The code of a display takes only fonts that are declared. -/
theorem serves_lines :
    let pages := p.visit form config
    let g := registries config pages
    ∀ line ∈ lines g pages, ∀ call ∈ lineCalls line, ServesCall g.fontLines call := by
  intro pages g
  have hlambda : Passage (fun call => ∀ text, call = .text text → ServesCall g.fontLines text)
      (fun _ => True) 0 0 (lines g pages) := by
    refine passage_lines fun page hpage rows hrows => ?_
    obtain ⟨size, h⟩ := passage_contents hpage hrows
    refine h.mono ?_ fun _ _ => trivial
    rintro _ hcall text rfl
    obtain ⟨id, hid, hdeclares, -⟩ := hcall
    exact ⟨id, hid, hdeclares⟩
  intro line hline call hcall
  obtain ⟨pieces, hscan, hcalls, -⟩ := hlambda.reads line hline
  rw [lineCalls, hscan] at hcall
  exact hcalls [] _ (text_mem_calls.2 hcall) call rfl

end

end DisplayLambda

/-! ## Nodes -/

namespace PageTree

/-- **The nodes of a tree** take what the run has registered. -/
theorem serves_nodes [Qr.Encoder] {p : Project} {config : Config} (hmode : config.mode = .retained)
    {node : Json} (hnode : node ∈ nodes (p.compile config).artifact.document) :
    ∀ entries ∈ node.objects,
      ServesObject (registries config (p.visit form config)).fontLines entries := by
  obtain ⟨page, hpage, w, hw, b, hb, rfl⟩ := (mem_nodes_compile hmode).1 hnode
  obtain ⟨k, -, rfl, -⟩ := Widget.exists_kind_of_behaviourIn? (Option.mem_def.1 hb)
  have hvisited : VisitedPage.ofPage form config p.dark page ∈ p.visit form config :=
    List.mem_map_of_mem hpage
  have he : form.emission ⟨config.device, page.theme.isDark p.dark⟩ k.behaviour w
      ∈ (VisitedPage.ofPage form config p.dark page).emissions := by
    rw [VisitedPage.emissions_ofPage, List.mem_filterMap]
    refine ⟨w, hw, ?_⟩
    rw [hmode, Option.mem_def.1 hb]
    rfl
  intro entries hentries
  have hlabels := k.labelled_nodeOf ⟨config.device, page.theme.isDark p.dark⟩ w entries hentries
  refine ⟨fun font hfont => ?_, fun size hfont text htext => ?_⟩
  · rcases hlabels font hfont with ⟨f, hf, rfl⟩ | ⟨size, rfl, hsize, ⟨n, hn⟩, -⟩
    · exact ⟨f.id, rfl, Generation.declares_registries config hvisited he hf⟩
    · exact ⟨_, rfl, (Generation.serves_registries config hvisited he hsize hn).1⟩
  · rcases hlabels _ hfont with ⟨f, -, hid⟩ | ⟨other, hid, hsize, -, htexts⟩
    · exact absurd (Json.string.inj hid).symm (f.id_ne_fontId size)
    · have hother : size = other := Icon.fontId_injective (Json.string.inj hid)
      obtain ⟨t, rfl, hshown⟩ := htexts text htext
      refine ⟨t, rfl, fun e hmem => ?_⟩
      obtain ⟨n, hn, hused⟩ := hshown e hmem
      rw [hother]
      exact ⟨n, hn, (Generation.serves_registries config hvisited he hsize hused).2⟩

end PageTree

/-! ## Whole projects -/

/-- **Every font and every glyph is declared.** The font section that stands in the text and in the
document of an artifact serves the whole display lambda and each of its blocks, or every object in
every node of its tree. -/
theorem Project.serves_compile [Qr.Encoder] (p : Project) (config : Config) :
    let a := (p.compile config).artifact
    (config.mode = .direct →
      let pages := p.visit DisplayLambda.form config
      let g := registries config pages
      let lambda := DisplayLambda.lines g pages
      FontManifest.Of a g.fontLines
        ∧ a.document.get? "lambda" = some (.array (lambda.map .string))
        ∧ (∀ line ∈ lambda, ∀ call ∈ lineCalls line, ServesCall g.fontLines call)
        ∧ ∀ page ∈ pages, ∀ rows ∈ page.contents, ServesLines g.fontLines rows)
      ∧ (config.mode = .retained →
        let g := registries config (p.visit PageTree.form config)
        FontManifest.Of a g.fontLines
          ∧ ∀ node ∈ PageTree.nodes a.document, ∀ entries ∈ node.objects,
              ServesObject g.fontLines entries) := by
  intro a
  constructor
  · intro hmode pages g lambda
    refine ⟨DisplayLambda.of_compile hmode, ?_, DisplayLambda.serves_lines, fun page hpage rows hrows => ?_⟩
    · show (p.compile config).artifact.document.get? "lambda" = _
      rw [Project.compile, hmode]
      rfl
    · obtain ⟨size, h⟩ := DisplayLambda.passage_contents hpage hrows
      exact DisplayLambda.servesLines_of_passage h
  · intro hmode g
    exact ⟨PageTree.of_compile hmode, fun node hnode => PageTree.serves_nodes hmode hnode⟩

/-- A display with every sort of font: a text, a symbol, and a gauge that chooses its glyph. -/
theorem Project.serves_compile_gauge :
    let p : Project := { pages := [{ id := "home", name := "Home", widgets := [
      { id := "a", type := "text", x := 0, y := 0, width := 90, height := 30,
        props := [("text", .string "Hello")] },
      { id := "b", type := "icon", x := 0, y := 40, width := 60, height := 60,
        props := [("code", .string "F0493"), ("size", .number (.int 48))] },
      { id := "c", type := "battery_icon", x := 0, y := 120, width := 60, height := 60,
        entityId := some "sensor.phone_battery" }] }] }
    let tree : Config := { mode := .retained }
    (∃ manifest, FontManifest.Of (p.compile {}).artifact manifest
      ∧ ∀ page ∈ p.visit DisplayLambda.form {}, ∀ rows ∈ page.contents, ServesLines manifest rows)
      ∧ ∃ manifest, FontManifest.Of (p.compile tree).artifact manifest
          ∧ ∀ node ∈ PageTree.nodes (p.compile tree).artifact.document, ∀ entries ∈ node.objects,
              ServesObject manifest entries := by
  intro p tree
  obtain ⟨hdirect, -⟩ := serves_compile p {}
  obtain ⟨-, hretained⟩ := serves_compile p tree
  obtain ⟨hof, -, -, hblocks⟩ := hdirect rfl
  exact ⟨⟨_, hof, hblocks⟩, ⟨_, hretained rfl⟩⟩

end DisplayLayout
