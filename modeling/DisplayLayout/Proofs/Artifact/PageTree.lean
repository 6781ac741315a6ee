import DisplayLayout.Proofs.Artifact.Emitted
import DisplayLayout.Proofs.Widget.Copied
import DisplayLayout.Qr.Symbol
import Mathlib.Algebra.Group.Nat.Defs

/-!
# The page tree is read back

A page is an item of a sequence, with the facts about it and a marker before
each node. The nodes are written by a writer of trees that copies texts of the
widgets, and what these texts say is read with them (`PageTree.read_nodeLines`).
So every page comes back with its widgets if the copied texts are mute
(`PageTree.ofAnyText_compile`), and an option like the identifier of a page, which
is not, makes another page (`PageTree.exists_two_pages`).
-/

namespace DisplayLayout

open Yaml

/-- A widget whose node copies only texts that are mute. -/
def Widget.IsMute [Qr.Encoder] (w : Widget) : Prop :=
  ∀ k : Kind, w.type = k.tag → ∀ held ∈ k.copied (w.view k.behaviour), held.IsMute

theorem Widget.isMute_of_type [Qr.Encoder] {w : Widget} {k : Kind} (htype : w.type = k.tag)
    (h : ∀ held ∈ k.copied (w.view k.behaviour), held.IsMute) : w.IsMute := by
  intro j hj
  obtain rfl : j = k := Kind.tag_injective (hj.symm.trans htype)
  exact h

/-- The identifier of a page starts the page. -/
theorem Line.classify_pageId {index : Nat} (h : index ≤ Numeric.maxWord32) :
    classify ("    - id: " ++ PageTree.pageId index) = .pageHeader index := by
  have hrow : "    - id: " ++ PageTree.pageId index
      = "    " ++ ("- id:" ++ (" " ++ ("page_" ++ toString index))) := by
    rw [← String.append_assoc, ← String.append_assoc]
    rfl
  have htrim : Text.trimChars (" " ++ ("page_" ++ toString index)).toList
      = "page_".toList ++ (toString index).toList := by
    have hword : Text.IsWordText ("page_" ++ toString index) :=
      Text.isWordText_append.2 ⟨by decide, Text.isWordText_toString index⟩
    have hblank : ∀ c ∈ " ".toList, Text.isBlank c = true := List.all_eq_true.1 (by decide)
    rw [String.toList_append, Text.trimChars_append_left hblank, hword.trimChars_eq,
      String.toList_append]
  rw [hrow, classify_id (by decide), htrim, after?_eq_some_iff.2 rfl, Option.bind_some,
    String.ofList_toList, Numeric.readWord32?_toString h]

namespace PageTree

open Recovery

theorem oneLine_header (index : Nat) : Text.OneLine ("    - id: " ++ pageId index) := by
  rw [pageId, Text.oneLine_append, Text.oneLine_append]
  exact ⟨by decide, by decide, Numeric.oneLine_toString_nat index⟩

/-! ## Nodes -/

/-- A node is written as the marker of its widget and an item. -/
theorem nodeLines_eq (n : MarkedNode) :
    nodeLines n = Line.comment 8 "#" n.marker.render :: (itemRows 8 n.node).map Row.text := by
  have hmarker : "        # " ++ n.marker.render = Line.comment 8 "#" n.marker.render := by
    rw [← String.toList_inj]
    simp [Line.comment, Text.spaces]
  have hitem : sequenceRows 8 [n.node] = itemRows 8 n.node := List.append_nil (itemRows 8 n.node)
  rw [nodeLines, hmarker, hitem]

/-- A node whose copied texts are mute has quiet rows. -/
theorem quiet_itemRows {copied : List Held} {node : Json} (h : CopiesItem copied node)
    (hmute : ∀ held ∈ copied, held.IsMute) (indent : Nat) :
    ∀ row ∈ (itemRows indent node).map Row.text, Line.Quiet row := by
  refine (says_itemRows indent node h.isItem).quiet fun line hline => ?_
  obtain ⟨held, hheld, hline⟩ := List.mem_flatMap.1 hline
  rcases h.texts held hheld with hmade | hcopied
  · exact hmade line hline
  · exact hmute held hcopied line hline

/-- **The node of a widget yields the widget.** -/
theorem yields_nodeLines [Qr.Encoder] {w : Widget} {k : Kind} (htype : w.type = k.tag)
    (hplaced : w.IsPlaced) (hmute : w.IsMute) (s : Surface) :
    Yields (nodeLines (form.emission s k.behaviour w).content) [w.recovered] := by
  rw [nodeLines_eq]
  refine Widget.yields_marker htype hplaced 8 (Or.inr rfl) ?_
  exact quiet_itemRows (k.copies_retained _ s) (hmute k htype) 8

/-! ## Pages -/

theorem factRow_eq (fact : String × String) :
    "      # " ++ Page.factText fact = Line.comment 6 "#" (Page.factText fact) := by
  rw [← String.toList_inj]
  simp [Line.comment, Text.spaces]

/-- The color of a page is written in one row, which says nothing. -/
theorem silent_background (s : Surface) (token : String) :
    ∀ row ∈ (entryRows 6 "bg_color" (.string (s.retained token))).map Row.text, Line.Silent row := by
  have hsays := says_entryRows 6 (by decide : isKey "bg_color" = true) (.string (s.retained token)) rfl
  have hcode : code? (s.retained token) = none :=
    code?_of_clash (by decide : Line.clash _ "0x".toList = true) _
  have hsaid : (texts (.string (s.retained token))).flatMap Held.said = [] := by
    rw [texts_string, List.flatMap_singleton, Held.said, hcode]
    rfl
  rw [hsaid] at hsays
  exact hsays.silent

/-- The rows of a page: its header, the facts about it, and what is shown. -/
theorem pageLines_eq (index : Nat) (visited : VisitedPage MarkedNode) :
    pageLines index visited = ("    - id: " ++ pageId index) :: visited.page.factRows 6 "#"
      ++ ((entryRows 6 "bg_color" (.string (background visited))).map Row.text
        ++ if visited.contents.isEmpty then ["      widgets: []"]
          else "      widgets:" :: visited.contents.flatMap nodeLines) := by
  rw [pageLines, Page.factRows, List.append_assoc]
  simp only [← factRow_eq]

/-- **The item of a page makes the page.** -/
theorem makes_pageLines [Qr.Encoder] {page : Page} (hpage : page.IsNormal)
    (hmute : ∀ w ∈ page.widgets, w.IsMute) (config : Config) (dark : Bool)
    (hmode : config.mode = .retained) {index : Nat} (hindex : index ≤ Numeric.maxWord32) :
    Makes (pageLines index (VisitedPage.ofPage form config dark page)) index
      (page.roundTrip .retained index) := by
  let visited := VisitedPage.ofPage form config dark page
  have hnodes : List.Forall₂ (fun rows w => Yields rows [w]) (visited.contents.map nodeLines)
      ((page.supported .retained).map Widget.recovered) := by
    rw [VisitedPage.contents, List.forall₂_map_left_iff, List.forall₂_map_left_iff,
      List.forall₂_map_right_iff, ← hmode]
    refine List.Forall₂.flip (VisitedPage.forall₂_emissions form config dark page ?_)
    intro w hw k htype
    exact yields_nodeLines htype (hpage.widgets w hw).toIsPlaced (hmute w hw) _
  have hwidgets : Yields (if visited.contents.isEmpty then ["      widgets: []"]
      else "      widgets:" :: visited.contents.flatMap nodeLines)
      ((page.supported .retained).map Widget.recovered) := by
    cases hcontents : visited.contents with
    | nil =>
      -- Without a node there is no widget that the mode supports.
      rw [hcontents] at hnodes
      rw [List.forall₂_nil_left_iff.1 hnodes]
      exact Yields.silent (List.forall_mem_singleton.2 (by decide))
    | cons node nodes =>
      rw [hcontents] at hnodes
      have hkey : Yields ["      widgets:"] [] :=
        Yields.silent (List.forall_mem_singleton.2 (by decide))
      exact hkey.append (Yields.flatten hnodes)
  have hrows := (Yields.silent (silent_background visited.surface visited.surface.backgroundToken)).append
    hwidgets
  rw [pageLines_eq]
  refine Makes.of_rows ?_ (Line.classify_pageId hindex) (page.classify_factRows (Or.inr rfl)) hrows
  rw [List.forall_mem_cons]
  exact ⟨oneLine_header index, page.oneLine_factRows (Or.inr rfl)⟩

/-! ## The whole tree -/

/-- A form of output whose fonts are those of the widgets. -/
theorem plainFonts_form [Qr.Encoder] : form.PlainFonts :=
  fun k _ s hfamily => k.plainFonts_retained hfamily s

/-- The rows before the pages. -/
def frontRows (device : Device) : List String :=
  ["lvgl:", "  displays:", "    - " ++ device.displayId, "  pages:"]

theorem silent_frontRows {device : Device} (hdisplay : device.IsNamed) :
    ∀ row ∈ frontRows device, Line.Silent row := by
  have hword := hdisplay.isWordText
  have hid : ¬"id:".toList <+: device.displayId.toList := fun hpre =>
    absurd (hword _ (hpre.subset (by decide : ':' ∈ "id:".toList))) (by decide)
  have hname : Line.Silent ("    " ++ ("- " ++ device.displayId)) :=
    (Line.silent_dash hid hword.oneLine).indent (by decide)
  rw [← String.append_assoc] at hname
  unfold frontRows
  simp only [List.forall_mem_cons]
  exact ⟨by decide, by decide, hname, by decide, List.forall_mem_nil _⟩

theorem render_treeSection (device : Device) (pages : List (VisitedPage MarkedNode)) :
    (treeSection device pages).render
      = frontRows device ++ (pages.mapIdx pageLines).flatten.map ("" ++ ·) := by
  have hsame : (pages.mapIdx pageLines).flatten.map ("" ++ ·) = (pages.mapIdx pageLines).flatten := by
    simp
  rw [hsame]
  rfl

section

variable [Qr.Encoder]

/-- The text of a project in the form of a page tree. -/
theorem text_compile {p : Project} {config : Config} (hmode : config.mode = .retained) :
    (p.compile config).artifact.text
      = let pages := p.visit form config
        let g := registries config pages
        Section.renderAll ((p.declare .retained config.device).sections ++ [fontSection g]
          ++ [treeSection config.device pages]) := by
  rw [Project.compile, hmode]
  dsimp only [Compilation.withDeclarations, Compilation.assemble, write]
  rw [device_registries, hmode]

/-- **A project is read back from its page tree** if what its nodes copy is mute. -/
theorem ofAnyText_compile {p : Project} {config : Config} (hp : p.IsNormal) (hpages : p.pages ≠ [])
    (hcount : p.pages.length ≤ 2 ^ 32) (hunbroken : ∀ w ∈ p.widgets, w.IsUnbroken .retained)
    (hmute : ∀ w ∈ p.widgets, w.IsMute) (hmode : config.mode = .retained)
    (hdisplay : config.device.IsNamed) :
    ∃ l, Project.ofAnyText (p.compile config).artifact.text = .ok l
      ∧ l.project = p.roundTrip .retained := by
  have hmakes : ∀ page ∈ p.pages, ∀ index ≤ Numeric.maxWord32,
      Makes (pageLines index (VisitedPage.ofPage form config p.dark page)) index
        (page.roundTrip config.mode index) := by
    intro page hpage index hindex
    have hmutePage : ∀ w ∈ page.widgets, w.IsMute := fun w hw =>
      hmute w (List.mem_flatMap.2 ⟨page, hpage, hw⟩)
    rw [hmode]
    exact makes_pageLines (hp page hpage) hmutePage config p.dark hmode hindex
  rw [text_compile hmode]
  rw [← hmode] at hunbroken ⊢
  exact Project.ofAnyText_of_pages plainFonts_form hp hpages hcount hunbroken hdisplay hmakes
    (render_treeSection _ _) (by decide) (silent_frontRows hdisplay)

/-- **A project comes back from its page tree** if what its nodes copy is mute. Every page comes back
with what is said about it and with just those of its widgets that a page tree shows, in order and
each with its place, entity and marker. The index of a page is read as 32 bits. -/
theorem comesBack_of_mute {p : Project} {config : Config} (hloaded : p.IsLoaded)
    (hpages : p.pages ≠ []) (hcount : p.pages.length ≤ 2 ^ 32)
    (hunbroken : ∀ w ∈ p.widgets, w.IsUnbroken .retained) (hmute : ∀ w ∈ p.widgets, w.IsMute)
    (hmode : config.mode = .retained) (hdisplay : config.device.IsNamed) :
    ∃ l, Project.ofAnyText (p.compile config).artifact.text = .ok l
      ∧ List.Forall₂ (Page.ComesBack .retained Widget.ComesBack) p.pages l.project.pages := by
  obtain ⟨l, hl, hproject⟩ :=
    ofAnyText_compile hloaded.isNormal hpages hcount hunbroken hmute hmode hdisplay
  refine ⟨l, hl, ?_⟩
  rw [hproject]
  exact p.forall₂_comesBack fun w k htype _ => Widget.comesBack_recovered htype

end

/-- A page whose name looks like a header, with an option and a text that look like a header and a
marker, but are no item and no code that would be read as such. -/
theorem comesBack_of_mute_lookalike :
    let p : Project := { pages := [{ id := "home", name := "- id: page_3", widgets := [
      { id := "a", type := "lvgl_dropdown", x := 1, y := 2, width := 30, height := 40,
        props := [("options", .string "id: page_7\n# page:name x")] }] }] }
    p.IsLoaded ∧ ∃ l, Project.ofAnyText (p.compile { mode := .retained }).artifact.text = .ok l
      ∧ List.Forall₂ (Page.ComesBack .retained Widget.ComesBack) p.pages l.project.pages := by
  intro p
  let document : Json := .object [("pages", .array [.object [("id", .string "home"),
    ("name", .string "- id: page_3"), ("widgets", .array [.object [("id", .string "a"),
      ("type", .string "lvgl_dropdown"), ("x", .number (.int 1)), ("y", .number (.int 2)),
      ("width", .number (.int 30)), ("height", .number (.int 40)),
      ("props", .object [("options", .string "id: page_7\n# page:name x")])]])]])]
  have hloaded : p.IsLoaded := Or.inl ⟨document, ⟨p, []⟩, rfl, rfl⟩
  refine ⟨hloaded, comesBack_of_mute hloaded (by decide) (by decide) ?_ ?_ rfl ⟨by decide, by decide⟩⟩
  · intro w hw
    cases List.mem_singleton.1 hw
    exact ⟨by decide, by decide, by decide, by decide⟩
  · intro w hw
    cases List.mem_singleton.1 hw
    exact Widget.isMute_of_type (by rfl : _ = Kind.dropdown.tag) (by decide)

/-! ## Texts that are not mute -/

section

variable [Qr.Encoder]

/-- What is read of rows is what they say. -/
theorem read_eq_foldl_said (r : Recovery) (rows : List String) :
    r.read rows = (Line.said rows).foldl step r := by
  induction rows generalizing r with
  | nil => rfl
  | cons row rows ih =>
    rw [read_cons, ih, Line.said, Line.said, List.map_cons]
    by_cases hother : Line.classify row = .other
    · rw [hother, List.filter_cons_of_neg (by decide)]
      rfl
    · rw [List.filter_cons_of_pos (by simpa using hother), List.foldl_cons]

/-- **A node is read as its marker and then as all that its texts say**, mute or not. -/
theorem read_nodeLines {n : MarkedNode} (hplain : n.marker.IsPlain) (hnode : isItem n.node = true)
    (r : Recovery) :
    r.read (nodeLines n)
      = ((itemTexts n.node).flatMap Held.said).foldl step (r.step (.marker n.marker)) := by
  rw [nodeLines_eq, read_cons, Line.classify_marker (Or.inr rfl) hplain, read_eq_foldl_said,
    (says_itemRows 8 n.node hnode).said_eq]

omit [Qr.Encoder] in
theorem oneLine_nodeLines {n : MarkedNode} (hplain : n.marker.IsPlain)
    (hnode : isItem n.node = true) : ∀ row ∈ nodeLines n, Text.OneLine row := by
  rw [nodeLines_eq, List.forall_mem_cons]
  exact ⟨Line.oneLine_marker 8 (Or.inr rfl) hplain, (says_itemRows 8 n.node hnode).oneLine⟩

/-- The only page of a project with a single node, whose texts say that the next page starts, makes
two pages. -/
theorem collected_of_said {visited : VisitedPage MarkedNode} {n : MarkedNode} {w : Widget}
    (hcontents : visited.contents = [n]) (hplain : n.marker.IsPlain) (hnode : isItem n.node = true)
    (hwidget : Widget.ofMarker? n.marker = some w)
    (hsaid : (itemTexts n.node).flatMap Held.said = [.pageHeader 1]) :
    (∀ row ∈ pageLines 0 visited, Text.OneLine row)
      ∧ (read {} (pageLines 0 visited)).Collected [visited.page.recovered 0 [w], blankPage 1] := by
  have hback := silent_background visited.surface visited.surface.backgroundToken
  have hkey : Line.Silent "      widgets:" := by decide
  have hcomment : Line.IsCommentLead "#" := Or.inr rfl
  have hfacts : (visited.page.factRows 6 "#").map Line.classify = visited.page.facts.map factLine :=
    visited.page.classify_factRows hcomment
  have hlines : pageLines 0 visited = ("    - id: " ++ pageId 0) :: visited.page.factRows 6 "#"
      ++ ((entryRows 6 "bg_color" (.string (background visited))).map Row.text
        ++ "      widgets:" :: nodeLines n) := by
    rw [pageLines_eq, hcontents]
    simp
  rw [hlines]
  constructor
  · simp only [List.forall_mem_append, List.forall_mem_cons]
    exact ⟨⟨oneLine_header 0, visited.page.oneLine_factRows hcomment⟩,
      fun row hrow => (hback row hrow).oneLine, hkey.oneLine, oneLine_nodeLines hplain hnode⟩
  · -- The facts and the marker fill the first page, and what the node says opens the second one.
    have hopen := collected_nil.header.read_facts hfacts
    rw [List.length_nil, foldl_noteFact_facts] at hopen
    have hnext := (hopen.marker hwidget).collected.header.collected
    rw [background, List.cons_append, read_cons, Line.classify_pageId (Nat.zero_le _), read_append,
      read_append, read_silent hback, read_cons, hkey.classify_eq, read_nodeLines hplain hnode, hsaid]
    exact hnext

/-- **A text of the only node that is read as the next page makes it a page of the project.** -/
theorem exists_two_pages {page : Page} {w : Widget} {k : Kind} {config : Config}
    (hwidgets : page.widgets = [w]) (htype : w.type = k.tag)
    (hsupported : k.behaviour.modes.contains .retained = true) (hplaced : w.IsPlaced)
    (hunbroken : w.IsUnbroken .retained) (hmode : config.mode = .retained)
    (hdisplay : config.device.IsNamed)
    (hsaid : (itemTexts (form.emission (VisitedPage.ofPage form config false page).surface
      k.behaviour w).content.node).flatMap Held.said = [.pageHeader 1]) :
    ∃ l, Project.ofAnyText (Project.compile { pages := [page] } config).artifact.text = .ok l
      ∧ l.project.pages.length = 2 := by
  let p : Project := { pages := [page] }
  let visited := VisitedPage.ofPage form config p.dark page
  have hall : ∀ v ∈ p.widgets, v.IsUnbroken config.mode := by
    intro v hv
    rw [Project.widgets, List.flatMap_singleton, hwidgets, List.mem_singleton] at hv
    rw [hv, hmode]
    exact hunbroken
  have hbehaviour : w.behaviourIn? config.mode = some k.behaviour := by
    rw [Widget.behaviourIn?, Widget.behaviour?_of_type htype, Option.filter_some, hmode, if_pos hsupported]
  have hcontents : visited.contents = [(form.emission visited.surface k.behaviour w).content] := by
    rw [VisitedPage.contents, VisitedPage.emissions_ofPage, hwidgets, List.filterMap_cons_some,
      List.filterMap_nil]
    · rfl
    · rw [hbehaviour]
      rfl
  obtain ⟨honeLine, hcollected⟩ := collected_of_said hcontents (Widget.isPlain_marker htype)
    (k.copies_retained _ visited.surface).isItem (Widget.ofMarker?_marker htype hplaced) hsaid
  have hrender : (treeSection config.device (p.visit form config)).render
      = frontRows config.device ++ pageLines 0 visited := by
    rw [render_treeSection, Project.visit, List.map_singleton, List.mapIdx_singleton]
    simp
    rfl
  obtain ⟨l, hl, hproject⟩ := Project.ofAnyText_of_artifact hall hdisplay.isWordText.oneLine
    (Project.plainFonts_registries plainFonts_form hall) hrender (silent_frontRows hdisplay) honeLine
    (List.cons_ne_nil _ _) hcollected
  refine ⟨l, ?_, ?_⟩
  · rw [text_compile hmode, ← hmode]
    exact hl
  · rw [hproject]
    rfl

end

/-- A list of two options, the second of which is the identifier of a page. -/
theorem exists_additional_page :
    ∃ (p : Project) (config : Config) (l : Project.Loaded), p.IsLoaded ∧ p.pages.length = 1
      ∧ (∀ w ∈ p.widgets, w.IsUnbroken .retained) ∧ config.mode = .retained ∧ config.device.IsNamed
      ∧ Project.ofAnyText (p.compile config).artifact.text = .ok l ∧ l.project.pages.length = 2 := by
  let w : Widget :=
    { id := "mode", type := "lvgl_dropdown", width := 150, height := 40,
      props := [("options", .string "Off\nid:page_1")] }
  let page : Page := { id := "home", name := "Home", widgets := [w] }
  let config : Config := { mode := .retained }
  let document : Json := .object [("pages", .array [.object [("id", .string "home"),
    ("name", .string "Home"), ("widgets", .array [.object [("id", .string "mode"),
      ("type", .string "lvgl_dropdown"), ("width", .number (.int 150)), ("height", .number (.int 40)),
      ("props", .object [("options", .string "Off\nid:page_1")])]])]])]
  have hloaded : Project.IsLoaded { pages := [page] } :=
    Or.inl ⟨document, ⟨{ pages := [page] }, []⟩, rfl, rfl⟩
  have hunbroken : w.IsUnbroken .retained := ⟨by decide, by decide, by decide, by decide⟩
  have hdisplay : config.device.IsNamed := ⟨by decide, by decide⟩
  have hsaid : (itemTexts (form.emission (VisitedPage.ofPage form config false page).surface
      Kind.dropdown.behaviour w).content.node).flatMap Held.said = [.pageHeader 1] := by
    decide +kernel
  obtain ⟨l, hl, hlength⟩ := exists_two_pages rfl (rfl : w.type = Kind.dropdown.tag) (by decide)
    ⟨by decide, by decide, by decide, by decide⟩ hunbroken rfl hdisplay hsaid
  exact ⟨{ pages := [page] }, config, l, hloaded, rfl, List.forall_mem_singleton.2 hunbroken, rfl,
    hdisplay, hl, hlength⟩

end PageTree

end DisplayLayout
