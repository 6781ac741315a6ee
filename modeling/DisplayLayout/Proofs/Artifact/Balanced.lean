import DisplayLayout.Proofs.Artifact.DisplayLambda
import DisplayLayout.Proofs.Widget.Supplied
import DisplayLayout.Qr.Symbol

/-!
# The display lambda is balanced

No text of a project leaves its literal, its comment or its block: every line of
a display lambda can be read on its own, and every widget and every page closes
the blocks that it opens (`DisplayLambda.balanced_compile`).
-/

namespace DisplayLayout

open Text Lambda

/-- Lines that close what they open, at any depth. -/
def Lambda.Balanced (lines : List String) : Prop := ∀ d, nest d lines = some d

/-- A line that can be read on its own: no line feed is in it, it does not go on on the next line,
and its literals end on it. -/
structure Lambda.ReadsAlone (line : String) : Prop where
  oneLine : '\n' ∉ line.toList
  last : line.toList.getLast? ≠ some '\\'
  scans : ∃ pieces, scan line = some pieces

theorem Lambda.Passage.balanced {P : Call → Prop} {G : Nat → Prop} {lines : List String}
    (h : Passage P G 0 0 lines) : Balanced lines := h.leads

theorem Lambda.Passage.readsAlone {P : Call → Prop} {G : Nat → Prop} {a b : Nat}
    {lines : List String} (h : Passage P G a b lines) (honeLine : ∀ line ∈ lines, OneLine line) :
    ∀ line ∈ lines, ReadsAlone line := fun line hline =>
  have ⟨pieces, hscan, _⟩ := h.reads line hline
  ⟨honeLine line hline, h.last line hline, pieces, hscan⟩

theorem List.mem_or_eq_of_mem_intersperse {α : Type} {x sep : α} {xs : List α}
    (h : x ∈ xs.intersperse sep) : x ∈ xs ∨ x = sep := by
  fun_induction List.intersperse sep xs with
  | case1 => exact Or.inl h
  | case2 first => exact Or.inl h
  | case3 first second xs ih =>
    rcases List.mem_cons.1 h with rfl | h
    · exact Or.inl List.mem_cons_self
    rcases List.mem_cons.1 h with rfl | h
    · exact Or.inr rfl
    · exact (ih h).imp_left (List.mem_cons_of_mem _)

namespace DisplayLambda

/-! ## Blocks -/

variable {P : Call → Prop} {G : Nat → Prop}

theorem passage_close : Passage P G 1 0 ["\x7d"] := .known (by decide)

theorem passage_guarded (w : Widget) {body : List String} (h : Passage P G 0 0 body) :
    Passage P G 0 0 (guarded w body) := by
  rw [guarded]
  split
  · next c _ =>
    have hopen : Passage P G 0 1 [("if (" ++ c.check ++ ") \x7b")] := .opening c.fragment_check
    exact (hopen.append (h.lift 1).indent).append passage_close
  · exact h

theorem passage_block [Qr.Encoder] {w : Widget} {k : Kind} (htype : w.type = k.tag)
    {body : List String} (h : Passage P G 0 0 body) :
    Passage P G 0 0 (block (w.view k.behaviour) body) :=
  (Passage.comment (Marker.getLast?_render_ne (Widget.isPlain_marker htype))).append
    (passage_guarded w h)

theorem oneLine_block [Qr.Encoder] {w : Widget} {k : Kind} (htype : w.type = k.tag)
    {body : List String} (h : ∀ line ∈ body, Line.Quiet line) :
    ∀ line ∈ block (w.view k.behaviour) body, OneLine line := by
  rw [block, List.forall_mem_cons]
  constructor
  · have hmarker := Line.oneLine_marker 0 (Or.inl rfl) (Widget.isPlain_marker htype)
    rwa [Line.comment_zero, String.append_assoc] at hmarker
  · exact fun line hline => (quiet_guarded w h line hline).oneLine

/-! ## Pages -/

section

variable {index : Nat} {page : VisitedPage (List String)}

/-- **The branch of a page** is a passage if its blocks are. -/
theorem passage_pageLines (h : ∀ block ∈ page.contents, Passage P G 0 0 block) :
    Passage P G 0 0 (pageLines index page) := by
  have hopen : Passage P G 0 1 ["if (currentPage == " ++ toString index ++ ") \x7b"] :=
    .opening (.append (.bare (by decide)) (.nat index))
  have hfacts : Passage P G 0 0 (page.page.facts.map fun fact => "// " ++ Page.factText fact) := by
    refine Passage.ofLines fun line hline => ?_
    obtain ⟨fact, -, rfl⟩ := List.mem_map.1 hline
    refine Passage.comment ?_
    rw [Line.getLast?_factText]
    decide
  have hcolor := page.surface.isColor_direct page.surface.backgroundToken
  have hfill : Passage P G 0 0 ["it.fill(" ++ page.surface.background ++ ");"] :=
    .ofFragment (.insert (.bare (by decide)) hcolor.fragment (.bare (by decide)))
  have hrule : Passage P G 0 0 [rule] := .known (by decide)
  have hblocks : Passage P G 0 0 (page.contents.intersperse [rule]).flatten := by
    refine Passage.flatten fun rows hrows => ?_
    rcases List.mem_or_eq_of_mem_intersperse hrows with hrows | rfl
    · exact h rows hrows
    · exact hrule
  have hinside := (hfacts.append hfill).append hblocks
  exact (hopen.append (hinside.lift 1).indent).append passage_close

theorem oneLine_pageLines (h : ∀ block ∈ page.contents, ∀ line ∈ block, OneLine line) :
    ∀ line ∈ pageLines index page, OneLine line := by
  have hindent : ∀ {lines : List String}, (∀ line ∈ lines, OneLine line) →
      ∀ line ∈ lines.map Lambda.indent, OneLine line := by
    intro lines hlines line hline
    obtain ⟨inner, hinner, rfl⟩ := List.mem_map.1 hline
    exact oneLine_append.2 ⟨by decide, hlines inner hinner⟩
  have hfacts : ∀ line ∈ page.page.facts.map fun fact => "// " ++ Page.factText fact, OneLine line := by
    intro line hline
    obtain ⟨fact, hfact, rfl⟩ := List.mem_map.1 hline
    refine oneLine_append.2 ⟨by decide, ?_⟩
    exact (Line.break_notMem (Line.factText_unbroken (Page.isWord_of_mem_facts hfact) fact.2)).2
  have hfill : OneLine ("it.fill(" ++ page.surface.background ++ ");") :=
    oneLine_append.2 ⟨oneLine_append.2 ⟨by decide, page.surface.oneLine_background⟩, by decide⟩
  have hblocks : ∀ line ∈ (page.contents.intersperse [rule]).flatten, OneLine line := by
    intro line hline
    obtain ⟨block, hblock, hline⟩ := List.mem_flatten.1 hline
    rcases List.mem_or_eq_of_mem_intersperse hblock with hblock | rfl
    · exact h block hblock line hline
    · rw [List.mem_singleton.1 hline]
      exact silent_rule.oneLine
  have hinside := List.forall_mem_append.2
    ⟨List.forall_mem_append.2 ⟨hfacts, List.forall_mem_singleton.2 hfill⟩, hblocks⟩
  rw [pageLines, List.cons_append, List.forall_mem_cons, List.forall_mem_append]
  exact ⟨Line.oneLine_branch index, hindent hinside, List.forall_mem_singleton.2 (by decide)⟩

end

/-! ## The whole lambda -/

theorem passage_insideRoundedRect : Passage P G 1 1 DrawHelper.insideRoundedRect := by
  refine .cons 2 ?_ (.cons 2 ?_ (.cons 2 ?_ (.cons 2 ?_ (.cons 2 ?_ (.cons 2 ?_ (.cons 2 ?_
    (.cons 2 ?_ (.known ?_))))))))
  all_goals decide +kernel

theorem passage_definition (h : DrawHelper) : Passage P G 0 0 h.definition := by
  cases h with
  | ditherRect =>
    refine .cons 1 ?_ (.cons 2 ?_ (.cons 3 ?_ (.cons 3 ?_ (.cons 2 ?_ (.cons 1 ?_ (.known ?_))))))
    all_goals decide +kernel
  | ditherRoundedRect =>
    refine .append (.cons 1 ?_ passage_insideRoundedRect) (.cons 2 ?_ (.cons 3 ?_ (.cons 3 ?_
      (.cons 3 ?_ (.cons 3 ?_ (.cons 2 ?_ (.cons 1 ?_ (.known ?_))))))))
    all_goals decide +kernel
  | ditherCircle =>
    refine .cons 1 ?_ (.cons 1 ?_ (.cons 2 ?_ (.cons 3 ?_ (.cons 3 ?_ (.cons 3 ?_ (.cons 3 ?_
      (.cons 3 ?_ (.cons 2 ?_ (.cons 1 ?_ (.known ?_))))))))))
    all_goals decide +kernel
  | filledRoundedRect =>
    refine .cons 1 ?_ (.cons 1 ?_ (.cons 1 ?_ (.cons 1 ?_ (.cons 1 ?_ (.cons 1 ?_ (.cons 1 ?_
      (.cons 1 ?_ (.cons 1 ?_ (.known ?_)))))))))
    all_goals decide +kernel
  | roundedRectBorder =>
    refine .append (.cons 1 ?_ passage_insideRoundedRect) (.cons 2 ?_ (.cons 3 ?_ (.cons 3 ?_
      (.cons 2 ?_ (.cons 1 ?_ (.known ?_))))))
    all_goals decide +kernel

theorem passage_constantLines : Passage P G 0 0 Color.constantLines := by
  have hname : ∀ p ∈ Color.constants, IsWordText p.1 := by decide
  refine Passage.ofFragments fun line hline => ?_
  obtain ⟨⟨name, c⟩, hp, rfl⟩ := List.mem_map.1 hline
  have htext : ∀ parts : String, "const auto " ++ name ++ " = Color" ++ parts ++ ";"
      = "const auto " ++ name ++ " = " ++ ("Color" ++ parts) ++ ";" := by
    intro parts
    rw [← String.toList_inj]
    simp
  dsimp only
  rw [htext]
  exact .insert (.insert (.bare (by decide)) (.word (hname _ hp)) (.bare (by decide)))
    (.triple _ _ _) (.bare (by decide))

theorem passage_lines {g : Generation} {pages : List (VisitedPage (List String))}
    (h : ∀ page ∈ pages, ∀ block ∈ page.contents, Passage P G 0 0 block) :
    Passage P G 0 0 (lines g pages) := by
  have hprelude : Passage P G 0 0 g.prelude := by
    refine Passage.flatten fun definition hdefinition => ?_
    obtain ⟨helper, -, rfl⟩ := List.mem_map.1 hdefinition
    exact passage_definition helper
  have hcurrent : Passage P G 0 0 ["int currentPage = id(display_page);"] := .known (by decide)
  have hpages : Passage P G 0 0 (pages.mapIdx pageLines).flatten := by
    refine Passage.flatten fun rows hrows => ?_
    obtain ⟨index, hindex, rfl⟩ := List.mem_mapIdx.1 hrows
    exact passage_pageLines (h _ (List.getElem_mem hindex))
  exact ((passage_constantLines.append hprelude).append hcurrent).append hpages

theorem oneLine_lines {g : Generation} {pages : List (VisitedPage (List String))}
    (h : ∀ page ∈ pages, ∀ block ∈ page.contents, ∀ line ∈ block, OneLine line) :
    ∀ line ∈ lines g pages, OneLine line := by
  simp only [lines, List.forall_mem_append, List.forall_mem_singleton]
  refine ⟨⟨⟨fun line hline => ?_, fun line hline => ?_⟩, by decide⟩, fun line hline => ?_⟩
  · exact (silent_constantLines line hline).oneLine
  · exact (silent_prelude g.helpers line hline).oneLine
  · obtain ⟨rows, hrows, hline⟩ := List.mem_flatten.1 hline
    obtain ⟨index, hindex, rfl⟩ := List.mem_mapIdx.1 hrows
    exact oneLine_pageLines (h _ (List.getElem_mem hindex)) line hline

/-! ## Whole projects -/

section

variable [Qr.Encoder] {p : Project} {config : Config}

/-- A block on a page of a project is the block of a widget. -/
theorem exists_of_mem_contents {page : VisitedPage (List String)} (hpage : page ∈ p.visit form config)
    {rows : List String} (hrows : rows ∈ page.contents) :
    ∃ (w : Widget) (k : Kind) (s : Surface), w.type = k.tag
      ∧ rows = block (w.view k.behaviour) (k.behaviour.direct (w.view k.behaviour) s).lines := by
  obtain ⟨source, -, rfl⟩ := List.mem_map.1 hpage
  obtain ⟨e, he, rfl⟩ := List.mem_map.1 hrows
  obtain ⟨w, -, k, htype, rfl⟩ := VisitedPage.exists_of_mem_emissions form config p.dark source he
  exact ⟨w, k, _, htype, rfl⟩

/-- **No text leaves its place in a display lambda.** Whatever the texts of a project are, the
display lambda stands in the last section of the artifact and in its document, every line of it can
be read on its own, and every widget, every page and the whole of it close the blocks that they open
and no others. -/
theorem balanced_compile (hmode : config.mode = .direct) :
    let pages := p.visit form config
    let lambda := lines (registries config pages) pages
    (∃ front, (p.compile config).artifact.text
        = Section.renderAll (front ++ [displaySection config.device lambda]))
      ∧ (p.compile config).artifact.document.get? "lambda" = some (.array (lambda.map .string))
      ∧ (∀ line ∈ lambda, ReadsAlone line)
      ∧ Balanced lambda
      ∧ ∀ page ∈ pages, (∀ index, Balanced (pageLines index page))
          ∧ ∀ rows ∈ page.contents, Balanced rows := by
  intro pages lambda
  have hblocks : ∀ page ∈ pages, ∀ rows ∈ page.contents,
      Passage (fun _ => True) (fun _ => True) 0 0 rows ∧ ∀ line ∈ rows, OneLine line := by
    intro page hpage rows hrows
    obtain ⟨w, k, s, htype, rfl⟩ := exists_of_mem_contents hpage hrows
    obtain ⟨size, hcovers⟩ := k.covers_direct (w.view k.behaviour) s
    have hpassage := hcovers.mono (fun _ _ => trivial) fun _ _ => trivial
    exact ⟨passage_block htype hpassage, oneLine_block htype (k.quiet_direct _ s)⟩
  have hlambda : Passage (fun _ => True) (fun _ => True) 0 0 lambda :=
    passage_lines fun page hpage rows hrows => (hblocks page hpage rows hrows).1
  refine ⟨⟨_, text_compile hmode⟩, ?document, ?alone, hlambda.balanced, fun page hpage => ?_⟩
  case document =>
    rw [Project.compile, hmode]
    rfl
  case alone =>
    exact hlambda.readsAlone (oneLine_lines fun page hpage rows hrows => (hblocks page hpage rows hrows).2)
  · have hpassages := fun rows hrows => (hblocks page hpage rows hrows).1
    exact ⟨fun index => (passage_pageLines hpassages).balanced,
      fun rows hrows => (hpassages rows hrows).balanced⟩

end

/-- Texts that look like the end of a literal, of a block and of a comment. -/
theorem balanced_compile_lookalike :
    let p : Project := { pages := [{ id := "home", name := "\"; \x7d \\", widgets := [
      { id := "a", type := "text", x := 1, y := 2, width := 30, height := 40,
        entityId := some "sensor.a", conditionEntity := some "sensor.\") \x7d //",
        props := [("text", .string "\"); \x7d // \n \\")] }] }] }
    let pages := p.visit form {}
    ({} : Config).mode = .direct ∧ Balanced (lines (registries {} pages) pages) := by
  intro p pages
  exact ⟨rfl, (balanced_compile rfl).2.2.2.1⟩

end DisplayLambda

end DisplayLayout
