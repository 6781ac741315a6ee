import DisplayLayout.Proofs.Recovery.Run

/-!
# What is found in a text

The law of recovery, said of the lines and not of a reader. A line is looked at
together with the lines before it (`Recovery.Site`): the last header among them
names its page, and the last header or marker tells whether a draw call belongs
to a widget. What is found on a page is then read off its sites
(`Recovery.pageFound`), and a generated text is the pages that its sites ask for,
by their indices (`Project.ofGenerated_sites`). Headers may come in any order
and more than once: the widgets of all pages are those of all sites.
-/

namespace DisplayLayout

namespace Line

/-- The index that a header names. -/
def header? : Line → Option Nat
  | pageHeader index => some index
  | _ => none

/-- The widget of a marker whose type is known. -/
def marked? [Qr.Encoder] : Line → Option Widget
  | marker m => Widget.ofMarker? m
  | _ => none

/-- Whether a line is a marker of a type that is known, by its tag or by another name. -/
def isKnownMarker : Line → Bool
  | marker m => (Kind.ofTag? m.type).isSome || (Alias.ofName? m.type).isSome
  | _ => false

/-- Headers and markers, of known types and of others. -/
def isBoundary : Line → Bool
  | pageHeader _ => true
  | marker _ => true
  | _ => false

end Line

/-- **A marker has a widget if and only if its type is known.** -/
theorem Widget.isSome_ofMarker? [Qr.Encoder] (m : Marker) :
    (ofMarker? m).isSome = (Line.marker m).isKnownMarker := by
  have hblank : (ofMarker? m).isSome = (resolveAlias { type := m.type }).kind?.isSome := by
    rw [ofMarker?, behaviour?]
    cases (resolveAlias { type := m.type }).kind? <;> rfl
  rw [hblank, Line.isKnownMarker, resolveAlias, kind?]
  dsimp only
  cases Alias.ofName? m.type with
  | none =>
    rw [Option.isSome_none, Bool.or_false]
  | some a =>
    rw [Option.isSome_some, Bool.or_true]
    show (Kind.ofTag? a.kind.tag).isSome = true
    rw [a.kind.ofTag?_tag]
    rfl

theorem Line.isSome_marked? [Qr.Encoder] (line : Line) :
    line.marked?.isSome = line.isKnownMarker := by
  cases line with
  | marker m => exact Widget.isSome_ofMarker? m
  | _ => rfl

namespace Recovery

/-! ## Sites -/

/-- The index of the page behind lines: the last header names it, and without one it is the first. -/
def currentPage (lines : List Line) : Nat := (lines.reverse.findSome? Line.header?).getD 0

/-- Whether lines end inside a widget: the last header or marker is a marker of a known type. -/
def withinWidget (lines : List Line) : Bool :=
  (lines.reverse.find? Line.isBoundary).any Line.isKnownMarker

/-- A line and the lines before it. -/
structure Site where
  before : List Line
  line : Line

/-- All lines of a text, each with those before it. -/
def sites (lines : List Line) : List Site := lines.mapIdx fun i line => ⟨lines.take i, line⟩

namespace Site

/-- A draw call outside of any widget. -/
def loose? (s : Site) : Option DrawCall :=
  match s.line with
  | .draw call => if withinWidget s.before then none else some call
  | _ => none

/-- The page that a line belongs to. -/
def page (s : Site) : Nat := s.line.header?.getD (currentPage s.before)

/-- What a line says about its page. -/
def fact? (s : Site) : Option (String × String) :=
  match s.line with
  | .pageFact key value => some (key, value)
  | _ => none

end Site

/-- The draw calls outside of any widget. -/
def looseCalls (lines : List Line) : List DrawCall := (sites lines).filterMap Site.loose?

/-- How many draw calls of a kind there are outside of any widget. -/
def looseCount (lines : List Line) (lead : String) : Nat :=
  (looseCalls lines).countP fun call => call.idLead == lead

namespace Site

variable [Qr.Encoder]

/-- The widget that a line gives: that of its marker, or the shape for a draw call outside of any
widget. Shapes are numbered within their kind. -/
def widget? (s : Site) : Option Widget :=
  match s.loose? with
  | some call => some (call.shape (call.idLead ++ s!"_{looseCount s.before call.idLead}"))
  | none => s.line.marked?

/-- Whether a line gives a widget. -/
def givesWidget (s : Site) : Bool := s.line.isKnownMarker || s.loose?.isSome

/-- Whether there has to be a page for a line: it is a header or a fact, or it gives a widget. -/
def needsPage (s : Site) : Bool := s.line.header?.isSome || s.fact?.isSome || s.givesWidget

/-- A line gives one widget or none. -/
theorem isSome_widget? (s : Site) : s.widget?.isSome = s.givesWidget := by
  rw [widget?, givesWidget, ← Line.isSome_marked?]
  cases s.loose? with
  | none => rw [Option.isSome_none, Bool.or_false]
  | some call => rw [Option.isSome_some, Option.isSome_some, Bool.or_true]

theorem needsPage_eq_false_iff {s : Site} :
    s.needsPage = false ↔ s.line.header? = none ∧ s.fact? = none ∧ s.widget? = none := by
  rw [needsPage, ← isSome_widget?]
  simp [and_assoc]

end Site

/-! ## Pages that are found -/

/-- The lines of a page. -/
def sitesOn (lines : List Line) (index : Nat) : List Site :=
  (sites lines).filter fun s => s.page == index

/-- The widgets that are found on a page. -/
def widgetsOn [Qr.Encoder] (lines : List Line) (index : Nat) : List Widget :=
  (sitesOn lines index).filterMap Site.widget?

/-- The facts that are found about a page. -/
def factsOn (lines : List Line) (index : Nat) : List (String × String) :=
  (sitesOn lines index).filterMap Site.fact?

/-- The last value that facts give for a key. -/
def lastValue? (facts : List (String × String)) (key : String) : Option String :=
  (facts.reverse.find? fun fact => fact.1 == key).map Prod.snd

/-- What facts say about the page of an index, with its widgets. -/
def pageOf (index : Nat) (facts : List (String × String)) (ws : List Widget) : Page where
  id := s!"page_{index}"
  name := (lastValue? facts "name").getD ""
  theme := ((lastValue? facts "dark_mode").map Theme.ofName).getD .inherit
  refreshType := lastValue? facts "refresh_type"
  refreshTime := lastValue? facts "refresh_time"
  widgets := ws

/-- The page of an index as the lines give it. -/
def pageFound [Qr.Encoder] (lines : List Line) (index : Nat) : Page :=
  pageOf index (factsOn lines index) (widgetsOn lines index)

/-- Whether lines ask for the page of an index. -/
def Asks (lines : List Line) (index : Nat) : Prop :=
  ∃ s ∈ sites lines, s.needsPage = true ∧ s.page = index

/-! ## One more line -/

section Concat

variable (lines : List Line) (line : Line)

theorem sites_concat : sites (lines ++ [line]) = sites lines ++ [⟨lines, line⟩] := by
  have hfront : (lines.mapIdx fun i l => (⟨(lines ++ [line]).take i, l⟩ : Site)) = sites lines := by
    refine List.ext_getElem (by simp [sites]) fun i hi _ => ?_
    have hle : i ≤ lines.length := by
      rw [List.length_mapIdx] at hi
      omega
    simp only [sites, List.getElem_mapIdx, List.take_append_of_le_length hle]
  rw [sites, List.mapIdx_concat, hfront]
  simp

theorem currentPage_concat :
    currentPage (lines ++ [line]) = line.header?.getD (currentPage lines) := by
  rw [currentPage, List.reverse_concat, List.findSome?_cons]
  cases line.header? <;> rfl

theorem withinWidget_concat : withinWidget (lines ++ [line])
    = if line.isBoundary then line.isKnownMarker else withinWidget lines := by
  rw [withinWidget, List.reverse_concat, List.find?_cons]
  cases line.isBoundary <;> rfl

theorem looseCount_concat (lead : String) : looseCount (lines ++ [line]) lead
    = looseCount lines lead
      + ((Site.loose? ⟨lines, line⟩).toList.countP fun call => call.idLead == lead) := by
  rw [looseCount, looseCalls, sites_concat, List.filterMap_append, List.countP_append]
  rfl

variable (index : Nat)

theorem sitesOn_concat : sitesOn (lines ++ [line]) index
    = sitesOn lines index ++ if Site.page ⟨lines, line⟩ = index then [⟨lines, line⟩] else [] := by
  rw [sitesOn, sites_concat, List.filter_append, ← sitesOn]
  by_cases hpage : Site.page ⟨lines, line⟩ = index <;> simp [hpage]

theorem asks_concat : Asks (lines ++ [line]) index
    ↔ Asks lines index ∨ Site.needsPage ⟨lines, line⟩ = true ∧ Site.page ⟨lines, line⟩ = index := by
  simp only [Asks, sites_concat, List.mem_append, List.mem_singleton]
  constructor
  · rintro ⟨s, hs | rfl, h⟩
    · exact Or.inl ⟨s, hs, h⟩
    · exact Or.inr h
  · rintro (⟨s, hs, h⟩ | h)
    · exact ⟨s, Or.inl hs, h⟩
    · exact ⟨_, Or.inr rfl, h⟩

/-- A line leaves the pages that it does not belong to. -/
theorem pageFound_concat_of_ne [Qr.Encoder] {index : Nat} (h : Site.page ⟨lines, line⟩ ≠ index) :
    pageFound (lines ++ [line]) index = pageFound lines index := by
  rw [pageFound, factsOn, widgetsOn, sitesOn_concat, if_neg h, List.append_nil, ← factsOn, ← widgetsOn,
    ← pageFound]

/-- A line adds what it says to its page. -/
theorem pageFound_concat [Qr.Encoder] :
    let s : Site := ⟨lines, line⟩
    pageFound (lines ++ [line]) s.page
      = pageOf s.page (factsOn lines s.page ++ s.fact?.toList)
          (widgetsOn lines s.page ++ s.widget?.toList) := by
  intro s
  rw [pageFound, factsOn, widgetsOn, sitesOn_concat, if_pos rfl, List.filterMap_append,
    List.filterMap_append, ← factsOn, ← widgetsOn]
  rfl

end Concat

/-! ## Facts -/

theorem lastValue?_concat (facts : List (String × String)) (key value key' : String) :
    lastValue? (facts ++ [(key, value)]) key'
      = if key = key' then some value else lastValue? facts key' := by
  rw [lastValue?, List.reverse_concat]
  by_cases h : key = key'
  · rw [if_pos h, List.find?_cons_of_pos (by simpa using h)]
    rfl
  · rw [if_neg h, List.find?_cons_of_neg (by simpa using h), ← lastValue?]

/-- The last fact counts. -/
theorem pageOf_concat (index : Nat) (facts : List (String × String)) (key value : String)
    (ws : List Widget) :
    pageOf index (facts ++ [(key, value)]) ws = noteFact key value (pageOf index facts ws) := by
  unfold noteFact
  split
  case h_5 hname hdark htype htime =>
    simp only [pageOf, lastValue?_concat, if_neg hname, if_neg hdark, if_neg htype, if_neg htime]
  all_goals simp [pageOf, lastValue?_concat]

/-- Nothing is said about a page that no line asks for. -/
theorem pageFound_of_not_asks [Qr.Encoder] {lines : List Line} {index : Nat}
    (h : ¬Asks lines index) :
    pageFound lines index = blankPage index := by
  have hsilent : ∀ s ∈ sitesOn lines index, s.fact? = none ∧ s.widget? = none := by
    intro s hs
    obtain ⟨hmem, hpage⟩ := List.mem_filter.1 hs
    have hneeds : s.needsPage = false :=
      Bool.eq_false_iff.2 fun hneeds => h ⟨s, hmem, hneeds, by simpa using hpage⟩
    exact (Site.needsPage_eq_false_iff.1 hneeds).2
  have hfacts : factsOn lines index = [] := List.filterMap_eq_nil_iff.2 fun s hs => (hsilent s hs).1
  have hwidgets : widgetsOn lines index = [] :=
    List.filterMap_eq_nil_iff.2 fun s hs => (hsilent s hs).2
  rw [pageFound, hfacts, hwidgets]
  rfl

/-! ## Pages by their indices -/

/-- Changing the page of one index among pages in order: the page is added in its place if it is
not there yet. -/
theorem exists_changePage {index : Nat} {f : Page → Page} {g g' : Nat → Page} {indices : List Nat}
    (hsorted : indices.Pairwise (· < ·)) (hblank : index ∉ indices → g index = blankPage index)
    (hat : g' index = f (g index)) (hoff : ∀ i, i ≠ index → g' i = g i) :
    ∃ indices' : List Nat, indices'.Pairwise (· < ·) ∧ (∀ i, i ∈ indices' ↔ i ∈ indices ∨ i = index)
      ∧ changePage index f (indices.map fun i => (i, g i)) = indices'.map fun i => (i, g' i) := by
  have hsame : ∀ {js : List Nat}, index ∉ js →
      (js.map fun i => (i, g i)) = js.map fun i => (i, g' i) := fun hjs =>
    List.map_congr_left fun i hi => by rw [hoff i fun h => hjs (h ▸ hi)]
  induction indices with
  | nil =>
    refine ⟨[index], List.pairwise_singleton _ _, fun i => by simp, ?_⟩
    rw [List.map_nil, changePage, List.map_singleton, hat, hblank List.not_mem_nil]
  | cons j js ih =>
    obtain ⟨hj, hjs⟩ := List.pairwise_cons.1 hsorted
    rw [List.map_cons, changePage]
    rcases Nat.lt_trichotomy index j with hlt | rfl | hgt
    · have hnew : index ∉ j :: js := by
        rw [List.mem_cons, not_or]
        exact ⟨Nat.ne_of_lt hlt, fun hm => Nat.lt_asymm hlt (hj index hm)⟩
      refine ⟨index :: j :: js, ?_, fun i => by simp [or_comm], ?_⟩
      · refine List.pairwise_cons.2 ⟨fun i hi => ?_, hsorted⟩
        rcases List.mem_cons.1 hi with rfl | hi
        · exact hlt
        · exact Nat.lt_trans hlt (hj i hi)
      · rw [if_pos hlt, List.map_cons, hat, hblank hnew, ← hsame hnew]
        rfl
    · have hrest : index ∉ js := fun hm => Nat.lt_irrefl _ (hj index hm)
      refine ⟨index :: js, hsorted, fun i => by simp [or_comm], ?_⟩
      rw [if_neg (Nat.lt_irrefl _), if_pos rfl, List.map_cons, hat, hsame hrest]
    · have hne : j ≠ index := Nat.ne_of_lt hgt
      obtain ⟨js', hsorted', hmem', hpages'⟩ :=
        ih hjs fun hnot => hblank fun hm => (List.mem_cons.1 hm).elim (Ne.symm hne) hnot
      refine ⟨j :: js', ?_, fun i => ?_, ?_⟩
      · refine List.pairwise_cons.2 ⟨fun i hi => ?_, hsorted'⟩
        rcases (hmem' i).1 hi with hi | rfl
        · exact hj i hi
        · exact hgt
      · rw [List.mem_cons, hmem', List.mem_cons, or_assoc]
      · rw [if_neg (by omega), if_neg (Ne.symm hne), hpages', List.map_cons, hoff j hne]

/-! ## The reader and the lines -/

/-- The state of a reader behind lines, and the indices of the pages so far. -/
structure Describes [Qr.Encoder] (r : Recovery) (lines : List Line) (indices : List Nat) :
    Prop where
  current : r.current = currentPage lines
  inWidget : r.inWidget = withinWidget lines
  shapeCount : ∀ lead, r.shapeCount lead = looseCount lines lead
  sorted : indices.Pairwise (· < ·)
  mem_indices : ∀ i, i ∈ indices ↔ Asks lines i
  pages : r.pages = indices.map fun i => (i, pageFound lines i)

theorem describes_nil [Qr.Encoder] : Describes {} [] [] where
  current := rfl
  inWidget := rfl
  shapeCount _ := rfl
  sorted := List.Pairwise.nil
  mem_indices i := by simp [Asks, sites]
  pages := rfl

namespace Describes

variable [Qr.Encoder] {r : Recovery} {lines : List Line} {indices : List Nat}

/-- What a line adds to its page is what the change of a page makes of it. -/
theorem change (h : Describes r lines indices) (line : Line) {f : Page → Page}
    (hneeds : Site.needsPage ⟨lines, line⟩ = true)
    (hadds : let index := Site.page ⟨lines, line⟩
      pageFound (lines ++ [line]) index = f (pageFound lines index)) :
    ∃ indices' : List Nat, indices'.Pairwise (· < ·) ∧ (∀ i, i ∈ indices' ↔ Asks (lines ++ [line]) i)
      ∧ changePage (Site.page ⟨lines, line⟩) f r.pages
        = indices'.map fun i => (i, pageFound (lines ++ [line]) i) := by
  obtain ⟨indices', hsorted, hmem, hpages⟩ := exists_changePage h.sorted
    (fun hnot => pageFound_of_not_asks fun hasks => hnot ((h.mem_indices _).2 hasks))
    hadds fun i hi => pageFound_concat_of_ne lines line (Ne.symm hi)
  refine ⟨indices', hsorted, fun i => ?_, by rw [h.pages, hpages]⟩
  rw [hmem, h.mem_indices, asks_concat, hneeds, and_iff_right rfl, eq_comm]

/-- A line that needs no page adds none. -/
theorem keep (h : Describes r lines indices) (line : Line)
    (hneeds : Site.needsPage ⟨lines, line⟩ = false) :
    (∀ i, i ∈ indices ↔ Asks (lines ++ [line]) i)
      ∧ r.pages = indices.map fun i => (i, pageFound (lines ++ [line]) i) := by
  have hnone := (Site.needsPage_eq_false_iff.1 hneeds).2
  constructor
  · intro i
    rw [h.mem_indices, asks_concat, hneeds]
    simp
  · rw [h.pages]
    refine List.map_congr_left fun i _ => ?_
    by_cases hpage : Site.page ⟨lines, line⟩ = i
    · subst hpage
      rw [pageFound_concat, hnone.1, hnone.2, Option.toList_none, List.append_nil, Option.toList_none,
        List.append_nil, ← pageFound]
    · rw [pageFound_concat_of_ne lines line hpage]

/-- Only a header leaves the page. -/
theorem current_concat (h : Describes r lines indices) {line : Line} (hheader : line.header? = none) :
    r.current = currentPage (lines ++ [line]) := by
  rw [currentPage_concat, hheader, h.current]
  rfl

/-- Only a header or a marker ends a widget. -/
theorem inWidget_concat (h : Describes r lines indices) {line : Line} (hinside : line.isBoundary = false) :
    r.inWidget = withinWidget (lines ++ [line]) := by
  rw [withinWidget_concat, hinside, h.inWidget]
  rfl

/-- Only a draw call outside of any widget takes a number. -/
theorem shapeCount_concat (h : Describes r lines indices) {line : Line}
    (hloose : Site.loose? ⟨lines, line⟩ = none) (lead : String) :
    r.shapeCount lead = looseCount (lines ++ [line]) lead := by
  rw [looseCount_concat, hloose, h.shapeCount]
  rfl

theorem header (h : Describes r lines indices) (index : Nat) :
    ∃ indices', Describes (r.step (.pageHeader index)) (lines ++ [.pageHeader index]) indices' := by
  let line : Line := .pageHeader index
  have hadds : pageFound (lines ++ [line]) index = id (pageFound lines index) := by
    have hconcat : pageFound (lines ++ [line]) index
        = pageOf index (factsOn lines index ++ []) (widgetsOn lines index ++ []) :=
      pageFound_concat lines line
    rw [hconcat, List.append_nil, List.append_nil]
    rfl
  obtain ⟨indices', hsorted, hmem, hpages⟩ := h.change line rfl hadds
  exact ⟨indices', by rw [currentPage_concat]; rfl, by rw [withinWidget_concat]; rfl,
    h.shapeCount_concat rfl, hsorted, hmem, hpages⟩

theorem fact (h : Describes r lines indices) (key value : String) :
    ∃ indices', Describes (r.step (.pageFact key value)) (lines ++ [.pageFact key value]) indices' := by
  let line : Line := .pageFact key value
  let index := currentPage lines
  have hadds : pageFound (lines ++ [line]) index = noteFact key value (pageFound lines index) := by
    have hconcat : pageFound (lines ++ [line]) index
        = pageOf index (factsOn lines index ++ [(key, value)]) (widgetsOn lines index ++ []) :=
      pageFound_concat lines line
    rw [hconcat, List.append_nil, pageOf_concat]
    rfl
  obtain ⟨indices', hsorted, hmem, hpages⟩ := h.change line rfl hadds
  have hstep : (r.step line).pages = changePage index (noteFact key value) r.pages := by
    rw [show index = r.current from h.current.symm]
    rfl
  exact ⟨indices', h.current_concat rfl, h.inWidget_concat rfl, h.shapeCount_concat rfl, hsorted, hmem,
    hstep.trans hpages⟩

/-- A line that gives a widget hands it to its page. -/
theorem addWidget (h : Describes r lines indices) (line : Line) {w : Widget}
    (hheader : line.header? = none) (hfact : Site.fact? ⟨lines, line⟩ = none)
    (hwidget : Site.widget? ⟨lines, line⟩ = some w) :
    ∃ indices' : List Nat, indices'.Pairwise (· < ·) ∧ (∀ i, i ∈ indices' ↔ Asks (lines ++ [line]) i)
      ∧ (r.addWidget w).pages = indices'.map fun i => (i, pageFound (lines ++ [line]) i) := by
  have hpage : Site.page ⟨lines, line⟩ = r.current := by
    rw [Site.page, hheader, h.current]
    rfl
  have hneeds : Site.needsPage ⟨lines, line⟩ = true := by
    rw [Site.needsPage, ← Site.isSome_widget?, hwidget]
    simp
  rw [Recovery.addWidget, Recovery.change, ← hpage]
  refine h.change line hneeds ?_
  intro index
  rw [pageFound_concat, hfact, hwidget, Option.toList_none, List.append_nil, Option.toList_some]
  rfl

theorem marker (h : Describes r lines indices) (m : Marker) :
    ∃ indices', Describes (r.step (.marker m)) (lines ++ [.marker m]) indices' := by
  have hcurrent : r.current = currentPage (lines ++ [.marker m]) := h.current_concat rfl
  have hwithin : withinWidget (lines ++ [.marker m]) = (Widget.ofMarker? m).isSome := by
    rw [withinWidget_concat, Widget.isSome_ofMarker?]
    rfl
  have hcount : ∀ lead, r.shapeCount lead = looseCount (lines ++ [.marker m]) lead :=
    h.shapeCount_concat rfl
  have hwidget : Site.widget? ⟨lines, .marker m⟩ = Widget.ofMarker? m := rfl
  rw [step]
  cases hw : Widget.ofMarker? m with
  | some w =>
    obtain ⟨indices', hsorted, hmem, hpages⟩ :=
      h.addWidget (.marker m) rfl rfl (hwidget.trans hw)
    exact ⟨indices', hcurrent, by rw [hwithin, hw]; rfl, hcount, hsorted, hmem, hpages⟩
  | none =>
    have hneeds : Site.needsPage ⟨lines, .marker m⟩ = false := by
      rw [Site.needsPage, ← Site.isSome_widget?, hwidget, hw]
      rfl
    obtain ⟨hmem, hpages⟩ := h.keep _ hneeds
    exact ⟨indices, hcurrent, by rw [hwithin, hw]; rfl, hcount, h.sorted, hmem, hpages⟩

/-- A draw call outside of any widget is counted. -/
theorem shapeCount_addShape (h : Describes r lines indices) {call : DrawCall}
    (hloose : Site.loose? ⟨lines, .draw call⟩ = some call) (lead : String) :
    (r.addShape call).shapeCount lead = looseCount (lines ++ [.draw call]) lead := by
  have hshapes : (r.addShape call).shapes
      = r.shapes.put call.idLead (r.shapeCount call.idLead + 1) := rfl
  rw [Recovery.shapeCount, hshapes, looseCount_concat, hloose]
  by_cases hlead : call.idLead = lead
  · subst hlead
    rw [Keyed.get?_put_self, h.shapeCount]
    simp
  · rw [Keyed.get?_put_of_ne _ _ hlead]
    refine (h.shapeCount lead).trans ?_
    simp [hlead]

theorem draw (h : Describes r lines indices) (call : DrawCall) :
    ∃ indices', Describes (r.step (.draw call)) (lines ++ [.draw call]) indices' := by
  have hcurrent : r.current = currentPage (lines ++ [.draw call]) := h.current_concat rfl
  have hwithin : r.inWidget = withinWidget (lines ++ [.draw call]) := h.inWidget_concat rfl
  have hsite : Site.loose? ⟨lines, .draw call⟩ = if withinWidget lines then none else some call := rfl
  rw [step, h.inWidget]
  by_cases hinside : withinWidget lines = true
  · rw [if_pos hinside] at hsite ⊢
    have hwidget : Site.widget? ⟨lines, .draw call⟩ = none := by
      rw [Site.widget?, hsite]
      rfl
    have hneeds := Site.needsPage_eq_false_iff.2 ⟨rfl, rfl, hwidget⟩
    obtain ⟨hmem, hpages⟩ := h.keep _ hneeds
    exact ⟨indices, hcurrent, hwithin, h.shapeCount_concat hsite, h.sorted, hmem, hpages⟩
  · rw [if_neg hinside] at hsite ⊢
    have hwidget : Site.widget? ⟨lines, .draw call⟩
        = some (call.shape (call.idLead ++ s!"_{r.shapeCount call.idLead}")) := by
      rw [Site.widget?, hsite, h.shapeCount]
    obtain ⟨indices', hsorted, hmem, hpages⟩ := h.addWidget (.draw call) rfl rfl hwidget
    exact ⟨indices', hcurrent, hwithin, h.shapeCount_addShape hsite, hsorted, hmem, hpages⟩

/-- **One more line is read as its site says.** -/
theorem step (h : Describes r lines indices) (line : Line) :
    ∃ indices', Describes (r.step line) (lines ++ [line]) indices' := by
  cases line with
  | pageHeader index => exact h.header index
  | pageFact key value => exact h.fact key value
  | marker m => exact h.marker m
  | draw call => exact h.draw call
  | other =>
    obtain ⟨hmem, hpages⟩ := h.keep .other rfl
    exact ⟨indices, h.current_concat rfl, h.inWidget_concat rfl, h.shapeCount_concat rfl, h.sorted, hmem,
      hpages⟩

end Describes

/-- **A run is described by its lines.** -/
theorem exists_describes [Qr.Encoder] (lines : List Line) :
    ∃ indices, Describes (lines.foldl step {}) lines indices := by
  -- A site looks back, so the lines are taken in from the front and the last one is the step.
  induction lines using List.reverseRecOn with
  | nil => exact ⟨[], describes_nil⟩
  | append_singleton lines line ih =>
    obtain ⟨indices, h⟩ := ih
    rw [List.foldl_concat]
    exact h.step line

/-- Every widget that is recovered is given by a site. -/
theorem exists_site_of_mem_draft [Qr.Encoder] {text : String} {page : Page}
    (hpage : page ∈ (ofText text).draft.pages) {w : Widget} (hw : w ∈ page.widgets) :
    ∃ s ∈ sites (Line.classifyAll text), s.widget? = some w := by
  obtain ⟨indices, h⟩ := exists_describes (Line.classifyAll text)
  obtain ⟨q, hq, rfl⟩ := List.mem_map.1 hpage
  have hpages : (ofText text).pages = indices.map fun i => (i, pageFound (Line.classifyAll text) i) :=
    h.pages
  rw [hpages] at hq
  obtain ⟨i, -, rfl⟩ := List.mem_map.1 hq
  obtain ⟨s, hs, hwidget⟩ := List.mem_filterMap.1 hw
  exact ⟨s, (List.mem_filter.1 hs).1, hwidget⟩

/-! ## No widget is lost or taken twice -/

/-- The widgets of all pages are those of all sites. -/
theorem Describes.perm_widgets [Qr.Encoder] {r : Recovery} {lines : List Line} {indices : List Nat}
    (h : Describes r lines indices) :
    (indices.flatMap (widgetsOn lines)).Perm ((sites lines).filterMap Site.widget?) := by
  let giving := (sites lines).filter fun s => s.widget?.isSome
  have hgiving : giving.filterMap Site.widget? = (sites lines).filterMap Site.widget? := by
    rw [List.filterMap_filter]
    refine List.filterMap_congr fun s _ => ?_
    cases s.widget? <;> rfl
  have hon : ∀ i, widgetsOn lines i = (giving.filter fun s => s.page == i).filterMap Site.widget? := by
    intro i
    rw [widgetsOn, sitesOn, List.filter_filter, List.filterMap_filter, List.filterMap_filter]
    refine List.filterMap_congr fun s _ => ?_
    cases s.widget? <;> cases s.page == i <;> simp
  have hpages : ∀ s ∈ giving, s.page ∈ indices := by
    intro s hs
    obtain ⟨hmem, hsome⟩ := List.mem_filter.1 hs
    refine (h.mem_indices _).2 ⟨s, hmem, ?_, rfl⟩
    rw [Site.needsPage, ← Site.isSome_widget?, hsome, Bool.or_true]
  have hnodup : indices.Nodup := h.sorted.imp fun hlt => Nat.ne_of_lt hlt
  have hperm := (Keyed.flatMap_filter_perm Site.page hnodup hpages).filterMap Site.widget?
  rw [List.filterMap_flatMap, hgiving] at hperm
  have hflat : (fun i => (giving.filter fun s => s.page == i).filterMap Site.widget?)
      = widgetsOn lines := funext fun i => (hon i).symm
  rwa [hflat] at hperm

end Recovery

open Recovery in
/-- **A generated text is what is found at its sites.** It can be read if and only if a line needs
a page. There is then a page for every index that is needed, in ascending order, with the last value
of each fact and with the widgets of its sites in their order; a site gives one widget or none, and
the widgets of all pages are those of all sites. -/
theorem Project.ofGenerated_sites [Qr.Encoder] (text : String) :
    let lines := Line.classifyAll text
    ((∃ l, ofGenerated text = .ok l) ↔ ∃ s ∈ sites lines, s.needsPage = true)
    ∧ (∀ s ∈ sites lines, s.widget?.isSome = s.givesWidget)
    ∧ ∃ indices : List Nat, indices.Pairwise (· < ·)
      ∧ (∀ i, i ∈ indices ↔ ∃ s ∈ sites lines, s.needsPage = true ∧ s.page = i)
      ∧ (ofGenerated text).map Loaded.project
        = (if indices = [] then .error .missingPages
          else .ok { pages := indices.mapIdx fun position i => (pageFound lines i).normalize position })
      ∧ (indices.flatMap (widgetsOn lines)).Perm ((sites lines).filterMap Site.widget?) := by
  intro lines
  obtain ⟨indices, h⟩ := exists_describes lines
  have hproject : (ofGenerated text).map Loaded.project
      = if indices = [] then .error .missingPages
        else .ok { pages := indices.mapIdx fun position i => (pageFound lines i).normalize position } := by
    have hpages : (Recovery.ofText text).pages = indices.map fun i => (i, pageFound lines i) := h.pages
    rw [ofGenerated]
    dsimp only
    rw [hpages, List.isEmpty_map]
    by_cases hnil : indices = []
    · rw [if_pos hnil, hnil]
      rfl
    · have hdraft : (Recovery.ofText text).draft = { pages := indices.map (pageFound lines) } := by
        rw [draft, hpages, List.map_map]
        rfl
      rw [if_neg hnil, if_neg (by simpa using hnil), hdraft]
      show Except.ok (Project.mk none false ((indices.map (pageFound lines)).mapIdx Page.normalize)) = _
      have hpages : (indices.map (pageFound lines)).mapIdx Page.normalize
          = indices.mapIdx fun position i => (pageFound lines i).normalize position :=
        List.ext_getElem (by simp) fun i _ _ => by simp
      rw [hpages]
  have hasked : indices = [] ↔ ¬∃ s ∈ sites lines, s.needsPage = true := by
    rw [List.eq_nil_iff_forall_not_mem]
    constructor
    · rintro hnone ⟨s, hs, hneeds⟩
      exact hnone s.page ((h.mem_indices _).2 ⟨s, hs, hneeds, rfl⟩)
    · intro hnone i hi
      obtain ⟨s, hs, hneeds, -⟩ := (h.mem_indices i).1 hi
      exact hnone ⟨s, hs, hneeds⟩
  refine ⟨?_, fun s _ => s.isSome_widget?, indices, h.sorted, h.mem_indices, hproject, h.perm_widgets⟩
  cases hread : ofGenerated text with
  | error e =>
    rw [hread] at hproject
    have hnil : indices = [] := by
      by_contra hne
      rw [if_neg hne] at hproject
      cases hproject
    constructor
    · rintro ⟨l, hl⟩
      cases hl
    · intro hsome
      exact absurd hsome (hasked.1 hnil)
  | ok l =>
    rw [hread] at hproject
    have hne : indices ≠ [] := by
      intro hnil
      rw [if_pos hnil] at hproject
      cases hproject
    constructor
    · intro _
      by_contra hnone
      exact hne (hasked.2 hnone)
    · intro _
      exact ⟨l, rfl⟩

end DisplayLayout
