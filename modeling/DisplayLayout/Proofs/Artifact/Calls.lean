import DisplayLayout.Proofs.Artifact.DisplayLambda
import DisplayLayout.Proofs.Artifact.Sections

/-!
# The draw calls of a display lambda

A reader that looks for draw calls only passes over the sections of the
declarations, the constants and helpers of the lambda, and what a page says of
itself. The draw calls of an artifact are those of its widgets, page by page
(`DisplayLambda.draws_compile`).
-/

namespace DisplayLayout

namespace Line

/-- Whether a line is a draw call. -/
def isDraw : Line → Bool
  | draw _ => true
  | _ => false

/-- The rows that are draw calls. -/
def draws (rows : List String) : List String := rows.filter fun row => (classify row).isDraw

variable {rows more : List String}

theorem draws_append : draws (rows ++ more) = draws rows ++ draws more :=
  List.filter_append _ _

theorem draws_flatten (blocks : List (List String)) :
    draws blocks.flatten = (blocks.map draws).flatten := List.filter_flatten

theorem draws_eq_nil (h : ∀ row ∈ rows, (classify row).isDraw = false) : draws rows = [] := by
  refine List.filter_eq_nil_iff.2 fun row hrow => ?_
  rw [h row hrow]
  exact Bool.false_ne_true

theorem draws_of_silent (h : ∀ row ∈ rows, Silent row) : draws rows = [] := by
  refine draws_eq_nil fun row hrow => ?_
  rw [(h row hrow).classify_eq]
  rfl

/-- Whatever leaves the rows what they are leaves the draw calls among them. -/
theorem draws_map {f : String → String} (hf : ∀ row, classify (f row) = classify row) :
    draws (rows.map f) = (draws rows).map f := by
  rw [draws, draws, List.filter_map]
  simp only [Function.comp_def, hf]

theorem draws_indent {blanks : String} (hblanks : blanks.toList.all (· == ' ') = true) :
    draws (rows.map (blanks ++ ·)) = (draws rows).map (blanks ++ ·) :=
  draws_map (classify_indent (isBlank_of_spaces hblanks))

/-- A silent row between blocks adds none. -/
theorem draws_intersperse {rule : String} (hrule : Silent rule) (blocks : List (List String)) :
    draws (blocks.intersperse [rule]).flatten = draws blocks.flatten := by
  have hsep : draws [rule] = [] := draws_of_silent (List.forall_mem_singleton.2 hrule)
  induction blocks with
  | nil => rfl
  | cons block blocks ih =>
    cases blocks with
    | nil => rw [List.intersperse_singleton]
    | cons next blocks =>
      rw [List.intersperse_cons_cons, List.flatten_cons, List.flatten_cons, draws_append,
        draws_append, hsep, ih, List.nil_append, ← draws_append, List.flatten_cons (l := block)]

end Line

namespace DisplayLambda

open Line

variable {p : Project} {config : Config}

/-- The draw calls on a page are those in the blocks of its widgets. -/
theorem draws_pageLines {index : Nat} (hindex : index ≤ Numeric.maxWord32)
    (visited : VisitedPage (List String)) :
    draws (pageLines index visited) = (draws visited.contents.flatten).map ("  " ++ ·) := by
  have hheader : draws ["if (currentPage == " ++ toString index ++ ") \x7b"] = [] := by
    refine draws_eq_nil (List.forall_mem_singleton.2 ?_)
    rw [classify_branch hindex]
    rfl
  have hfacts : draws (visited.page.factRows 2 "//") = [] := by
    refine draws_eq_nil fun row hrow => ?_
    have hmem := List.mem_map_of_mem (f := classify) hrow
    rw [Page.classify_factRows (Or.inl rfl)] at hmem
    obtain ⟨fact, -, hfact⟩ := List.mem_map.1 hmem
    rw [← hfact]
    rfl
  have hfill := silent_fillRow visited.surface
  have hrows : draws (("it.fill(" ++ visited.surface.background ++ ");")
      :: (visited.contents.intersperse [rule]).flatten) = draws visited.contents.flatten := by
    rw [← List.singleton_append, draws_append, draws_of_silent (List.forall_mem_singleton.2 hfill),
      draws_intersperse silent_rule, List.nil_append]
  have hend : draws ["\x7d"] = [] := draws_of_silent (List.forall_mem_singleton.2 (by decide))
  have hindent : Lambda.indent = ("  " ++ ·) := rfl
  rw [pageLines_eq_facts, ← List.singleton_append, draws_append, draws_append, draws_append,
    hheader, hfacts, hend, hindent, draws_indent (by decide), hrows, List.append_nil, List.append_nil,
    List.nil_append]

/-- **The draw calls of a display lambda are those of its widgets,** in order and eight blanks
in. -/
theorem draws_compile [Qr.Encoder] (hp : p.IsNormal) (hcount : p.pages.length ≤ 2 ^ 32)
    (hunbroken : ∀ w ∈ p.widgets, w.IsUnbroken .direct) (hmode : config.mode = .direct)
    (hdisplay : config.device.IsNamed) :
    draws (Text.lines (p.compile config).artifact.text)
      = ((p.visit form config).flatMap fun v => draws v.contents.flatten).map
          fun row => Text.lineOf ("      " ++ ("  " ++ row)) := by
  let visited := p.visit form config
  let g := registries config visited
  let pages := (visited.mapIdx pageLines).flatten
  -- All rows before the pages are silent.
  let front := Section.rows (p.declarationSections config) ++ "" :: frontRows config.device g
  have hfront : ∀ row ∈ front, Silent row := by
    have hsections : ∀ s ∈ p.declarationSections config, s.Silent :=
      Project.silent_declarationSections (Or.inl hmode) hdisplay.isWordText.oneLine
        (hmode ▸ hunbroken)
    rw [List.forall_mem_append, List.forall_mem_cons]
    exact ⟨Section.silent_rows hsections, by decide, silent_frontRows hdisplay g⟩
  have hindex : ∀ i < p.pages.length, i ≤ Numeric.maxWord32 := by
    intro i hi
    have : Numeric.maxWord32 = 2 ^ 32 - 1 := rfl
    omega
  have hpages : ∀ row ∈ pages, Text.OneLine row := by
    intro row hrow
    obtain ⟨rows, hrows, hrow⟩ := List.mem_flatten.1 hrow
    rw [p.mapIdx_visit] at hrows
    obtain ⟨i, hi, rfl⟩ := List.mem_mapIdx.1 hrows
    have hmakes := makes_pageLines (hp _ (List.getElem_mem hi)) config p.dark hmode (hindex i hi)
    exact hmakes.oneLine row hrow
  have hrows : ∀ row ∈ front ++ pages.map ("      " ++ ·), Text.OneLine row := by
    rw [List.forall_mem_append, List.forall_mem_map]
    refine ⟨fun row hrow => (hfront row hrow).oneLine, fun row hrow => ?_⟩
    exact Text.oneLine_append.2 ⟨by decide, hpages row hrow⟩
  have htext : (p.compile config).artifact.text
      = Text.unlines (front ++ pages.map ("      " ++ ·)) := by
    have hdisplay : p.displaySection config = displaySection config.device (lines g visited) := by
      rw [Project.displaySection, Project.generation, hmode]
    have hne : p.declarationSections config ≠ [] := List.concat_ne_nil _ _
    rw [Project.text_sections (Or.inl hmode), Project.sections,
      Section.renderAll_eq (List.concat_ne_nil _ _), Section.rows_concat hne, hdisplay,
      render_displaySection, ← List.cons_append, ← List.append_assoc]
  have hdraws : draws pages
      = (visited.flatMap fun v => draws v.contents.flatten).map ("  " ++ ·) := by
    have hblocks : (visited.mapIdx pageLines).map draws
        = visited.map fun v => (draws v.contents.flatten).map ("  " ++ ·) := by
      refine List.ext_getElem (by simp) fun i hi _ => ?_
      have hlength : i < p.pages.length := by simpa [visited, Project.visit] using hi
      rw [List.getElem_map, List.getElem_mapIdx, List.getElem_map,
        draws_pageLines (hindex i hlength)]
    rw [draws_flatten, hblocks, ← List.flatMap_def, List.map_flatMap]
  rw [htext, Text.lines_unlines hrows, draws_map classify_lineOf, draws_append,
    draws_of_silent hfront, draws_indent (by decide), hdraws, List.nil_append, List.map_map, List.map_map]
  rfl

end DisplayLambda

end DisplayLayout
