import DisplayLayout.Artifact.Basic
import DisplayLayout.Proofs.Line.Quiet
import DisplayLayout.Proofs.Project.Loaded

/-!
# Reading a generated text

A text is read row by row. The invariant is what has been collected: the pages
so far under the indices 0, 1, and so on, the last of them open. A silent row
keeps it, a header opens the next page, and rows that yield widgets hand them to
the open page, whatever stood before (`Yields`). A whole page is a header, its
facts and such rows (`Makes.of_rows`), and a text is its pages one after the
other (`collected_read_flatten`).
-/

namespace DisplayLayout

namespace Recovery

/-! ## Rows -/

section

variable [Qr.Encoder]

/-- Reads rows. -/
def read (r : Recovery) (rows : List String) : Recovery :=
  rows.foldl (fun r row => r.step (Line.classify row)) r

@[simp] theorem read_nil (r : Recovery) : r.read [] = r := rfl

theorem read_cons (r : Recovery) (row : String) (rows : List String) :
    r.read (row :: rows) = (r.step (Line.classify row)).read rows := rfl

theorem read_append (r : Recovery) (rows more : List String) :
    r.read (rows ++ more) = (r.read rows).read more := List.foldl_append

/-- A text is read as the rows that it is made of. -/
theorem ofText_unlines {rows : List String} (h : ∀ row ∈ rows, Text.OneLine row) :
    ofText (Text.unlines rows) = read {} rows := by
  have hlines : Line.classifyAll (Text.unlines rows) = rows.map Line.classify := by
    rw [Line.classifyAll, Text.lines_unlines h, List.map_map]
    refine List.map_congr_left fun row _ => ?_
    rw [Function.comp_apply, Line.classify_lineOf]
  rw [ofText, hlines, List.foldl_map]
  rfl

theorem read_silent {rows : List String} (h : ∀ row ∈ rows, Line.Silent row) (r : Recovery) :
    r.read rows = r := by
  induction rows generalizing r with
  | nil => rfl
  | cons row rows ih =>
    have hrow : Line.classify row = .other := (h row List.mem_cons_self).classify_eq
    have hstep : r.step (Line.classify row) = r := by
      rw [hrow]
      rfl
    rw [read_cons, hstep, ih fun s hs => h s (List.mem_cons_of_mem _ hs)]

/-- Indentation does not matter. -/
theorem read_indent (blanks : String) (hblanks : blanks.toList.all (· == ' ') = true)
    (rows : List String) (r : Recovery) : r.read (rows.map (blanks ++ ·)) = r.read rows := by
  rw [Recovery.read, List.foldl_map]
  simp only [Line.classify_indent (Line.isBlank_of_spaces hblanks)]
  rfl

end

/-! ## What has been collected -/

/-- The pages so far, under the indices 0, 1, and so on. -/
def Collected (r : Recovery) (pages : List Page) : Prop := r.pages = pages.mapIdx Prod.mk

/-- The pages so far, of which the last one is open. -/
structure Open (r : Recovery) (done : List Page) (page : Page) (inWidget : Bool) : Prop where
  collected : r.Collected (done ++ [page])
  current : r.current = done.length
  inWidget : r.inWidget = inWidget

theorem collected_nil : Collected {} [] := rfl

theorem changePage_append {index : Nat} {f : Page → Page} {front : List (Nat × Page)}
    (h : ∀ q ∈ front, q.1 < index) (rest : List (Nat × Page)) :
    changePage index f (front ++ rest) = front ++ changePage index f rest := by
  induction front with
  | nil => rfl
  | cons q front ih =>
    obtain ⟨i, page⟩ := q
    have hi : i < index := h (i, page) List.mem_cons_self
    rw [List.cons_append, changePage, if_neg (by omega), if_neg (by omega),
      ih fun q hq => h q (List.mem_cons_of_mem _ hq), List.cons_append]

theorem lt_length_of_mem_mapIdx {pages : List Page} {q : Nat × Page}
    (h : q ∈ pages.mapIdx Prod.mk) : q.1 < pages.length := by
  obtain ⟨i, hi, rfl⟩ := List.mem_mapIdx.1 h
  exact hi

theorem mapIdx_concat (done : List Page) (page : Page) :
    (done ++ [page]).mapIdx Prod.mk = done.mapIdx Prod.mk ++ [(done.length, page)] := by
  rw [List.mapIdx_append]
  simp

variable [Qr.Encoder]

/-- A header opens the next page. -/
theorem Collected.header {r : Recovery} {done : List Page} (h : r.Collected done) :
    (r.step (.pageHeader done.length)).Open done (blankPage done.length) false where
  collected := by
    show changePage done.length id r.pages = _
    rw [h, mapIdx_concat, ← List.append_nil (done.mapIdx Prod.mk),
      changePage_append (fun q hq => lt_length_of_mem_mapIdx hq), List.append_nil]
    rfl
  current := rfl
  inWidget := rfl

namespace Open

variable {r : Recovery} {done : List Page} {page : Page} {b : Bool}

omit [Qr.Encoder] in
theorem pages_change (h : r.Open done page b) (f : Page → Page) :
    (r.change f).pages = (done ++ [f page]).mapIdx Prod.mk := by
  show changePage r.current f r.pages = _
  have hpages : r.pages = (done ++ [page]).mapIdx Prod.mk := h.collected
  rw [hpages, h.current, mapIdx_concat, mapIdx_concat,
    changePage_append fun q hq => lt_length_of_mem_mapIdx hq, changePage, if_neg (Nat.lt_irrefl _),
    if_pos rfl]

/-- A fact is noted on the open page. -/
theorem fact (h : r.Open done page b) (key value : String) :
    (r.step (.pageFact key value)).Open done (noteFact key value page) b where
  collected := h.pages_change (noteFact key value)
  current := h.current
  inWidget := h.inWidget

/-- A marker hands its widget to the open page, and what follows belongs to the widget. -/
theorem marker (h : r.Open done page b) {m : Marker} {w : Widget}
    (hw : Widget.ofMarker? m = some w) :
    (r.step (.marker m)).Open done { page with widgets := page.widgets ++ [w] } true := by
  have hstep : r.step (.marker m)
      = { r.addWidget w with markers := (r.addWidget w).markers + 1, inWidget := true } := by
    rw [step, hw]
  rw [hstep]
  exact ⟨h.pages_change fun page => { page with widgets := page.widgets ++ [w] }, h.current, rfl⟩

/-- Inside a widget a quiet line changes nothing. -/
theorem quiet (h : r.Open done page true) {line : Line} (hline : line.saysNothing = true) :
    r.step line = r := by
  cases line with
  | draw call => exact if_pos h.inWidget
  | other => rfl
  | marker m => cases hline
  | pageHeader index => cases hline
  | pageFact key value => cases hline

theorem read_quiet (h : r.Open done page true) {rows : List String}
    (hrows : ∀ row ∈ rows, Line.Quiet row) : r.read rows = r := by
  induction rows with
  | nil => rfl
  | cons row rows ih =>
    rw [read_cons, h.quiet (hrows row List.mem_cons_self).saysNothing,
      ih fun s hs => hrows s (List.mem_cons_of_mem _ hs)]

end Open

/-! ## Rows that yield widgets -/

/-- Rows that hand widgets to the page that is open. -/
structure Yields (rows : List String) (ws : List Widget) : Prop where
  oneLine : ∀ row ∈ rows, Text.OneLine row
  read : ∀ {r : Recovery} {done : List Page} {page : Page} {b : Bool}, r.Open done page b →
    ∃ b', (r.read rows).Open done { page with widgets := page.widgets ++ ws } b'

namespace Yields

theorem append {rows more : List String} {ws vs : List Widget} (h : Yields rows ws)
    (hmore : Yields more vs) : Yields (rows ++ more) (ws ++ vs) where
  oneLine := by
    intro row hrow
    rcases List.mem_append.1 hrow with hrow | hrow
    · exact h.oneLine row hrow
    · exact hmore.oneLine row hrow
  read := by
    intro r done page b hopen
    obtain ⟨b', hfirst⟩ := h.read hopen
    obtain ⟨b'', hboth⟩ := hmore.read hfirst
    refine ⟨b'', ?_⟩
    rw [read_append]
    rw [List.append_assoc] at hboth
    exact hboth

theorem silent {rows : List String} (h : ∀ row ∈ rows, Line.Silent row) : Yields rows [] where
  oneLine := fun row hrow => (h row hrow).oneLine
  read := by
    intro r done page b hopen
    refine ⟨b, ?_⟩
    rw [read_silent h, List.append_nil]
    exact hopen

/-- A marker and the quiet rows behind it. -/
theorem block {head : String} {rows : List String} {m : Marker} {w : Widget}
    (hhead : Text.OneLine head) (hmarker : Line.classify head = .marker m)
    (hw : Widget.ofMarker? m = some w) (hrows : ∀ row ∈ rows, Line.Quiet row) :
    Yields (head :: rows) [w] where
  oneLine := by
    intro row hrow
    rcases List.mem_cons.1 hrow with rfl | hrow
    · exact hhead
    · exact (hrows row hrow).oneLine
  read := by
    intro r done page b hopen
    refine ⟨true, ?_⟩
    have hnext := hopen.marker hw
    rw [read_cons, hmarker, hnext.read_quiet hrows]
    exact hnext

/-- Blocks one behind the other. -/
theorem flatten {blocks : List (List String)} {ws : List Widget}
    (h : List.Forall₂ (fun rows w => Yields rows [w]) blocks ws) : Yields blocks.flatten ws := by
  induction h with
  | nil => exact silent fun row hrow => absurd hrow List.not_mem_nil
  | cons hblock _ ih => exact hblock.append ih

/-- Blocks with a silent row between them. -/
theorem intersperse {rule : String} (hrule : Line.Silent rule) {blocks : List (List String)}
    {ws : List Widget} (h : List.Forall₂ (fun rows w => Yields rows [w]) blocks ws) :
    Yields (blocks.intersperse [rule]).flatten ws := by
  have hsep : Yields [rule] [] := silent fun row hrow => List.mem_singleton.1 hrow ▸ hrule
  induction h with
  | nil => exact silent fun row hrow => absurd hrow List.not_mem_nil
  | @cons rows w blocks ws hblock htail ih =>
    cases htail with
    | nil =>
      rw [List.intersperse_singleton, List.flatten_singleton]
      exact hblock
    | cons hsecond htail =>
      rw [List.intersperse_cons_cons, List.flatten_cons, List.flatten_cons]
      exact hblock.append (hsep.append ih)

/-- Rows yield the same with blanks before them. -/
theorem indent (blanks : String) (hblanks : blanks.toList.all (· == ' ') = true)
    {rows : List String} {ws : List Widget} (h : Yields rows ws) :
    Yields (rows.map (blanks ++ ·)) ws where
  oneLine := by
    intro row hrow
    obtain ⟨s, hs, rfl⟩ := List.mem_map.1 hrow
    exact Text.oneLine_append.2 ⟨Line.oneLine_of_blanks hblanks, h.oneLine s hs⟩
  read := by
    intro r done page b hopen
    rw [read_indent blanks hblanks]
    exact h.read hopen

end Yields

end Recovery

/-! ## Pages -/

/-- What is recovered of a page, with the widgets that its rows yield. -/
def Page.recovered (index : Nat) (ws : List Widget) (p : Page) : Page where
  id := s!"page_{index}"
  name := p.name
  theme := p.theme
  refreshType := p.refreshType
  refreshTime := p.refreshTime
  widgets := ws

theorem Theme.ofName_name (t : Theme) : ofName t.name = t := by
  cases t <;> decide

namespace Recovery

/-- A fact as the line that states it. -/
def factLine (fact : String × String) : Line := .pageFact fact.1 fact.2

variable [Qr.Encoder]

theorem Open.read_facts {facts : List (String × String)} {rows : List String}
    (hrows : rows.map Line.classify = facts.map factLine) {r : Recovery} {done : List Page}
    {page : Page} {b : Bool} (h : r.Open done page b) :
    (r.read rows).Open done (facts.foldl (fun page f => noteFact f.1 f.2 page) page) b := by
  induction facts generalizing rows r page with
  | nil =>
    rw [List.map_nil, List.map_eq_nil_iff] at hrows
    rw [hrows]
    exact h
  | cons f facts ih =>
    obtain ⟨row, more, rfl, hrow, hmore⟩ := List.map_eq_cons_iff.1 hrows
    rw [read_cons, hrow, List.foldl_cons]
    exact ih hmore (h.fact f.1 f.2)

omit [Qr.Encoder] in
/-- The facts of a page say all that is recovered of it besides its widgets. -/
theorem foldl_noteFact_facts (p : Page) (index : Nat) :
    p.facts.foldl (fun page f => noteFact f.1 f.2 page) (blankPage index) = p.recovered index [] := by
  obtain ⟨id, name, theme, refreshType, refreshTime, widgets⟩ := p
  cases refreshType <;> cases refreshTime <;>
    simp [Page.facts, noteFact, blankPage, Page.recovered, Theme.ofName_name]

/-- Rows that make up the page of an index. -/
structure Makes (rows : List String) (index : Nat) (page : Page) : Prop where
  oneLine : ∀ row ∈ rows, Text.OneLine row
  read : ∀ {r : Recovery} {done : List Page}, r.Collected done → done.length = index →
    (r.read rows).Collected (done ++ [page])

/-- **A header, the facts of a page, and rows that yield widgets make up a page.** -/
theorem Makes.of_rows {header : String} {facts rows : List String} {index : Nat} {p : Page}
    {ws : List Widget} (honeLine : ∀ row ∈ header :: facts, Text.OneLine row)
    (hheader : Line.classify header = .pageHeader index)
    (hfacts : facts.map Line.classify = p.facts.map factLine) (hrows : Yields rows ws) :
    Makes (header :: facts ++ rows) index (p.recovered index ws) where
  oneLine := by
    intro row hrow
    rcases List.mem_append.1 hrow with hrow | hrow
    · exact honeLine row hrow
    · exact hrows.oneLine row hrow
  read := by
    rintro r done hcollected rfl
    have hopen := hcollected.header.read_facts hfacts
    rw [foldl_noteFact_facts] at hopen
    obtain ⟨b, hall⟩ := hrows.read hopen
    rw [read_append, read_cons, hheader]
    exact hall.collected

/-- **A text is read page by page.** -/
theorem collected_read_flatten {α : Type} (rows : Nat → α → List String) (page : Nat → α → Page)
    {as : List α} (h : ∀ i (hi : i < as.length), Makes (rows i as[i]) i (page i as[i])) :
    (∀ row ∈ (as.mapIdx rows).flatten, Text.OneLine row)
      ∧ (read {} (as.mapIdx rows).flatten).Collected (as.mapIdx page) := by
  -- Pages are collected at the end, so the last one is taken off.
  induction as using List.reverseRecOn with
  | nil => exact ⟨fun row hrow => absurd hrow List.not_mem_nil, collected_nil⟩
  | append_singleton as a ih =>
    have hfront : ∀ i (hi : i < as.length), Makes (rows i as[i]) i (page i as[i]) := by
      intro i hi
      have := h i (by rw [List.length_append]; omega)
      rwa [List.getElem_append_left hi] at this
    have hlast : Makes (rows as.length a) as.length (page as.length a) := by
      have := h as.length (by rw [List.length_append, List.length_singleton]; omega)
      rwa [List.getElem_concat_length rfl] at this
    obtain ⟨honeLine, hcollected⟩ := ih hfront
    rw [List.mapIdx_concat, List.mapIdx_concat, List.flatten_concat]
    refine ⟨fun row hrow => ?_, ?_⟩
    · rcases List.mem_append.1 hrow with hrow | hrow
      · exact honeLine row hrow
      · exact hlast.oneLine row hrow
    · rw [read_append]
      exact hlast.read hcollected (List.length_mapIdx)

omit [Qr.Encoder] in
theorem draft_of_collected {r : Recovery} {pages : List Page} (h : r.Collected pages) :
    r.draft = { pages } := by
  have hpages : r.pages = pages.mapIdx Prod.mk := h
  rw [draft, hpages]
  congr
  exact List.ext_getElem (by simp) (by simp)

end Recovery

/-- The project of a text is that of its pages as they are collected, in normal form. -/
theorem Project.ofAnyText_normalize [Qr.Encoder] {text : String} {pages : List Page}
    (htext : isDocumentText text = false) (hcollected : (Recovery.ofText text).Collected pages)
    (hne : pages ≠ []) : ∃ l, ofAnyText text = .ok l ∧ l.project = normalize { pages } := by
  have hpages : (Recovery.ofText text).pages.isEmpty = false := by
    have hcollected : (Recovery.ofText text).pages = pages.mapIdx Prod.mk := hcollected
    rw [hcollected, List.isEmpty_eq_false_iff]
    simpa using hne
  have hproject : (Recovery.ofText text).draft.load.project = normalize { pages } := by
    rw [load, Recovery.draft_of_collected hcollected]
  rw [ofAnyText, htext, ofGenerated]
  dsimp only
  rw [hpages]
  exact ⟨_, rfl, hproject⟩

end DisplayLayout
