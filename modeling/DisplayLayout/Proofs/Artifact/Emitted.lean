import DisplayLayout.Compile
import DisplayLayout.Proofs.Fonts
import DisplayLayout.Proofs.Line.Comment
import DisplayLayout.Proofs.Recovery.Run
import DisplayLayout.Proofs.Widget.Agree
import Mathlib.Algebra.Group.Nat.Defs

/-!
# Emitted artifacts

What the artifacts with declarations have in common. The emissions of a page
belong, in order, to the widgets whose type exists in the mode
(`VisitedPage.forall₂_emissions`), and each is read back from its marker if what
stands behind that is quiet (`Widget.yields_marker`). The sections before the last one are silent,
so the pages of an artifact are the pages of its last section
(`Project.ofAnyText_of_artifact`), and if the rows of every page make that page,
what comes back is known (`Project.roundTrip`, `Project.ofAnyText_of_pages`).
-/

namespace DisplayLayout

/-! ## Widgets that a mode supports -/

section

variable [Qr.Encoder]

/-- The widgets of a page whose type exists in a mode. -/
def Page.supported (mode : Mode) (p : Page) : List Widget :=
  p.widgets.filter fun w => (w.behaviourIn? mode).isSome

/-- The widget that the marker of a widget stands for. -/
def Widget.recovered (w : Widget) : Widget :=
  match w.behaviour? with
  | some b => (w.view b).recovered
  | none => w

theorem Widget.recovered_of_type {w : Widget} {k : Kind} (htype : w.type = k.tag) :
    w.recovered = (w.view k.behaviour).recovered := by
  rw [recovered, behaviour?_of_type htype]

/-- What comes back of the page of an index. -/
def Page.roundTrip (mode : Mode) (index : Nat) (p : Page) : Page :=
  p.recovered index ((p.supported mode).map Widget.recovered)

/-- What comes back of a project whose widgets are written with their markers. -/
def Project.roundTrip (mode : Mode) (p : Project) : Project where
  pages := p.pages.mapIdx fun i page => page.roundTrip mode i

theorem Project.mapIdx_roundTrip {α : Type} {mode : Mode} {p : Project} {f g : Nat → Page → α}
    (h : ∀ i, ∀ page ∈ p.pages, f i (page.roundTrip mode i) = g i page) :
    (p.roundTrip mode).pages.mapIdx f = p.pages.mapIdx g := by
  refine List.ext_getElem (by simp [roundTrip]) fun i hi _ => ?_
  simp only [roundTrip, List.getElem_mapIdx]
  exact h i _ (List.getElem_mem _)

theorem Widget.exists_kind_of_mem_supported {mode : Mode} {p : Page} {w : Widget}
    (hw : w ∈ p.supported mode) :
    w ∈ p.widgets ∧ ∃ k : Kind, w.type = k.tag ∧ k.behaviour.modes.contains mode = true := by
  obtain ⟨hmem, hsome⟩ := List.mem_filter.1 hw
  obtain ⟨b, hb⟩ := Option.isSome_iff_exists.1 hsome
  obtain ⟨k, htype, -, hmode⟩ := exists_kind_of_behaviourIn? hb
  exact ⟨hmem, k, htype, hmode⟩

theorem Widget.isNormal_recovered {w : Widget} (h : w.IsNormal) : w.recovered.IsNormal := by
  rw [recovered]
  split
  · exact ⟨⟨h.x, h.y, h.width, h.height⟩, h.id, h.type, h.width_pos, h.height_pos⟩
  · exact h

/-- What comes back of a project in normal form is in normal form. -/
theorem Project.isNormal_roundTrip {p : Project} (h : p.IsNormal) (mode : Mode) :
    (p.roundTrip mode).IsNormal := by
  intro page hpage
  obtain ⟨i, hi, rfl⟩ := List.mem_mapIdx.1 hpage
  have hsource := h _ (List.getElem_mem hi)
  refine ⟨by simp [Page.roundTrip, Page.recovered], hsource.name, fun w hw => ?_⟩
  obtain ⟨v, hv, rfl⟩ := List.mem_map.1 hw
  exact Widget.isNormal_recovered (hsource.widgets v (List.mem_filter.1 hv).1)

/-! ## What comes back -/

/-- A widget and the one that comes back of it, with the same place, entity and marker. -/
structure Widget.ComesBack (w v : Widget) : Prop where
  id : v.id = w.id
  type : v.type = w.type
  x : v.x = w.x
  y : v.y = w.y
  width : v.width = w.width
  height : v.height = w.height
  entity? : v.entity? = w.entity?
  markerFields : v.markerFields = w.markerFields

/-- A page and the one that comes back of it: all that is said about the page, and the widgets
that a mode supports, in order, each as a relation says. -/
structure Page.ComesBack (mode : Mode) (R : Widget → Widget → Prop) (p q : Page) : Prop where
  name : q.name = p.name
  theme : q.theme = p.theme
  refreshType : q.refreshType = p.refreshType
  refreshTime : q.refreshTime = p.refreshTime
  widgets : List.Forall₂ R (p.supported mode) q.widgets

theorem Widget.comesBack_recovered {w : Widget} {k : Kind} (htype : w.type = k.tag) :
    w.ComesBack w.recovered := by
  rw [recovered_of_type htype]
  exact ⟨rfl, rfl, rfl, rfl, rfl, rfl, (w.agree_recovered k).entity?, markerFields_recovered htype⟩

/-- A title comes back unless the table of the type has a title of its own. -/
theorem Widget.heading?_recovered {w : Widget} {k : Kind} (htype : w.type = k.tag)
    (htitled : k.behaviour.table.isTitled = false) : w.recovered.heading? = w.heading? := by
  rw [recovered_of_type htype]
  exact (w.agree_recovered k).heading? htitled

/-- Every page of a project comes back if its widgets do. -/
theorem Project.forall₂_comesBack {mode : Mode} {R : Widget → Widget → Prop} (p : Project)
    (h : ∀ w : Widget, ∀ k : Kind, w.type = k.tag → k.behaviour.modes.contains mode = true →
      R w w.recovered) :
    List.Forall₂ (Page.ComesBack mode R) p.pages (p.roundTrip mode).pages := by
  rw [List.forall₂_iff_get]
  refine ⟨List.length_mapIdx.symm, fun i hi hi' => ?_⟩
  have hpage : (p.roundTrip mode).pages.get ⟨i, hi'⟩
      = p.pages[i].roundTrip mode i := List.getElem_mapIdx
  rw [hpage]
  refine ⟨rfl, rfl, rfl, rfl, ?_⟩
  refine List.forall₂_map_right_iff.2 (List.forall₂_same.2 fun w hw => ?_)
  obtain ⟨-, k, htype, hmode⟩ := Widget.exists_kind_of_mem_supported hw
  exact h w k htype hmode

/-! ## Emissions -/

/-- What becomes of a widget of a type on a surface. -/
def Form.emission {α : Type} (form : Form α) (s : Surface) (b : Behaviour) (w : Widget) : Emission α :=
  let e := form b (w.view b) s
  { e with uses := b.requirements (w.view b) ++ e.uses }

theorem Visit.emission?_ofWidget {α : Type} (form : Form α) (mode : Mode) (s : Surface) (w : Widget) :
    (ofWidget form mode s w).emission? = (w.behaviourIn? mode).map fun b => form.emission s b w := by
  rw [ofWidget, Widget.behaviourIn?]
  cases w.behaviour? with
  | none => rfl
  | some b =>
    rw [Option.filter_some]
    dsimp only
    split <;> rfl

namespace VisitedPage

variable {α : Type} (form : Form α) (config : Config) (dark : Bool) (page : Page)

theorem emissions_ofPage : (ofPage form config dark page).emissions
    = page.widgets.filterMap fun w => (w.behaviourIn? config.mode).map fun b =>
        form.emission (ofPage form config dark page).surface b w := by
  have hvisits : (ofPage form config dark page).visits
      = page.widgets.map (Visit.ofWidget form config.mode (ofPage form config dark page).surface) := rfl
  rw [emissions, hvisits, List.filterMap_map]
  refine List.filterMap_congr fun w _ => ?_
  rw [Function.comp_apply, Visit.emission?_ofWidget]

/-- **The emissions of a page are those of the widgets that the mode supports, in order.** -/
theorem forall₂_emissions {R : Widget → Emission α → Prop}
    (h : ∀ w ∈ page.widgets, ∀ k : Kind, w.type = k.tag →
      R w (form.emission (ofPage form config dark page).surface k.behaviour w)) :
    List.Forall₂ R (page.supported config.mode) (ofPage form config dark page).emissions := by
  rw [emissions_ofPage, Page.supported]
  generalize page.widgets = ws at h
  induction ws with
  | nil => exact .nil
  | cons w ws ih =>
    have ih := ih fun v hv => h v (List.mem_cons_of_mem _ hv)
    cases hb : w.behaviourIn? config.mode with
    | none =>
      -- What is not emitted is not supported either.
      rw [List.filter_cons_of_neg (by simp [hb]), List.filterMap_cons_none (by rw [hb]; rfl)]
      exact ih
    | some b =>
      obtain ⟨k, htype, rfl, -⟩ := Widget.exists_kind_of_behaviourIn? hb
      rw [List.filter_cons_of_pos (by simp [hb]), List.filterMap_cons_some (by rw [hb]; rfl)]
      exact .cons (h w List.mem_cons_self k htype) ih

theorem exists_of_mem_emissions {e : Emission α} (he : e ∈ (ofPage form config dark page).emissions) :
    ∃ w ∈ page.widgets, ∃ k : Kind, w.type = k.tag
      ∧ e = form.emission (ofPage form config dark page).surface k.behaviour w := by
  rw [emissions_ofPage] at he
  obtain ⟨w, hw, he⟩ := List.mem_filterMap.1 he
  obtain ⟨b, hb, rfl⟩ := Option.map_eq_some_iff.1 he
  obtain ⟨k, htype, rfl, -⟩ := Widget.exists_kind_of_behaviourIn? hb
  exact ⟨w, hw, k, htype, rfl⟩

end VisitedPage

/-! ## Markers of widgets -/

omit [Qr.Encoder] in
theorem Line.oneLine_marker (indent : Nat) {lead : String} (hlead : IsCommentLead lead) {m : Marker}
    (h : m.IsPlain) : Text.OneLine (comment indent lead m.render) :=
  (break_notMem (comment_unbroken indent hlead fun _ => Marker.render_unbroken h)).2

namespace Widget

variable {w : Widget} {k : Kind} (htype : w.type = k.tag)

include htype

/-- The marker of a widget of the catalogue is written in plain words. -/
theorem isPlain_marker : (w.view k.behaviour).marker.IsPlain := by
  have hword : Text.isWord w.type.toList = true := by
    rw [htype]
    exact k.isWord_tag
  exact View.isPlain_marker k.writable_table hword

/-- **The marker of a widget, and quiet rows behind it, yield the widget.** -/
theorem yields_marker (hplaced : w.IsPlaced) (indent : Nat) {lead : String}
    (hlead : Line.IsCommentLead lead) {rows : List String} (hrows : ∀ row ∈ rows, Line.Quiet row) :
    Recovery.Yields (Line.comment indent lead (w.view k.behaviour).marker.render :: rows)
      [w.recovered] := by
  have hplain := isPlain_marker htype
  have hwidget := ofMarker?_marker htype hplaced
  rw [← recovered_of_type htype] at hwidget
  exact Recovery.Yields.block (Line.oneLine_marker indent hlead hplain)
    (Line.classify_marker hlead hplain) hwidget hrows

end Widget

end

/-! ## Facts about pages -/

/-- The keys of facts are plain words. -/
theorem Page.isWord_of_mem_facts {p : Page} {fact : String × String} (h : fact ∈ p.facts) :
    Text.isWord fact.1.toList = true := by
  have hword : ∀ key ∈ Recovery.factKeys, Text.isWord key.toList = true := by decide
  refine hword _ ?_
  simp only [facts, List.mem_append, List.mem_cons, List.not_mem_nil, or_false, Option.mem_toList,
    Option.map_eq_some_iff] at h
  rcases h with ((rfl | rfl) | ⟨_, _, rfl⟩) | ⟨_, _, rfl⟩ <;> simp [Recovery.factKeys]

/-- The rows of the facts about a page, as comments. -/
def Page.factRows (indent : Nat) (lead : String) (p : Page) : List String :=
  p.facts.map fun fact => Line.comment indent lead (factText fact)

section Facts

variable {indent : Nat} {lead : String} (hlead : Line.IsCommentLead lead) (p : Page)

include hlead

theorem Page.oneLine_factRows : ∀ row ∈ p.factRows indent lead, Text.OneLine row := by
  unfold factRows
  rw [List.forall_mem_map]
  intro fact hfact
  exact (Line.break_notMem (Line.comment_unbroken indent hlead
    (Line.factText_unbroken (isWord_of_mem_facts hfact) fact.2))).2

theorem Page.classify_factRows :
    (p.factRows indent lead).map Line.classify = p.facts.map Recovery.factLine := by
  rw [factRows, List.map_map]
  refine List.map_congr_left fun fact hfact => ?_
  rw [Function.comp_apply]
  exact Line.classify_fact hlead (isWord_of_mem_facts hfact) fact.2

end Facts

/-! ## The sections before the last one -/

theorem device_registries {α : Type} (config : Config) (pages : List (VisitedPage α)) :
    (registries config pages).device = config.device :=
  registries_induct (motive := fun g => g.device = config.device) config rfl fun _ _ _ _ _ hg => hg

variable [Qr.Encoder]

theorem Project.mapIdx_visit {α β : Type} (p : Project) (form : Form α) (config : Config)
    (f : Nat → VisitedPage α → β) :
    (p.visit form config).mapIdx f
      = p.pages.mapIdx fun i page => f i (VisitedPage.ofPage form config p.dark page) := by
  refine List.ext_getElem (by simp [visit]) fun i hi _ => ?_
  simp only [visit, List.getElem_mapIdx, List.getElem_map]

/-- A form of output that uses no font whose family has a line feed. -/
def Form.PlainFonts {α : Type} (form : Form α) : Prop :=
  ∀ (k : Kind) (w : Widget) (s : Surface), (∀ t ∈ w.propText? "font_family", Text.OneLine t) →
    (form k.behaviour (w.view k.behaviour) s).uses.PlainFonts

/-- The registries of a run are as plain as the form and the widgets are. -/
theorem Project.plainFonts_registries {α : Type} {form : Form α} (hform : form.PlainFonts)
    {p : Project} {config : Config} (hp : ∀ w ∈ p.widgets, w.IsUnbroken config.mode) :
    (registries config (p.visit form config)).PlainFonts := by
  refine DisplayLayout.plainFonts_registries config fun visited hvisited e he => ?_
  obtain ⟨page, hpage, rfl⟩ := List.mem_map.1 hvisited
  obtain ⟨w, hw, k, -, rfl⟩ := VisitedPage.exists_of_mem_emissions form config p.dark page he
  have hfamily := (hp w (List.mem_flatMap.2 ⟨page, hpage, hw⟩)).fontFamily
  exact Drawing.plainFonts_append (k.plainFonts_requirements hfamily) (hform k w _ hfamily)

omit [Qr.Encoder] in
/-- A text of sections is no document if the name of the first one begins as a word. -/
theorem Project.isDocumentText_renderAll {name : String} {lines : List String}
    {sections : List Section} (hname : name.toList.head?.any Text.isWordChar = true) :
    isDocumentText (Section.renderAll (⟨name, lines⟩ :: sections)) = false := by
  obtain ⟨c, cs, hcs⟩ : ∃ c cs, name.toList = c :: cs := by
    cases h : name.toList with
    | nil => simp [h] at hname
    | cons c cs => exact ⟨c, cs, rfl⟩
  have hc : Text.isWordChar c = true := by simpa [hcs] using hname
  have hrows : ∃ rows, Section.rows (⟨name, lines⟩ :: sections) = (name ++ ":") :: rows := by
    cases sections with
    | nil => exact ⟨_, Section.rows_singleton _⟩
    | cons t sections => exact ⟨_, Section.rows_cons_cons _ _ _⟩
  obtain ⟨rows, hrows⟩ := hrows
  have htext : ∃ rest, (Section.renderAll (⟨name, lines⟩ :: sections)).toList = c :: rest := by
    rw [Section.renderAll_eq (List.cons_ne_nil _ _), hrows, Text.unlines_cons]
    simp [hcs]
  obtain ⟨rest, hrest⟩ := htext
  rw [isDocumentText, hrest, Text.dropBlanks, List.dropWhile_cons_of_neg]
  · rw [List.head?_cons]
    refine beq_eq_false_iff_ne.2 fun h => ?_
    rw [Option.some.inj h] at hc
    exact absurd hc (by decide)
  · rw [Text.isBlank_eq_false_of_isWordChar hc]
    exact Bool.false_ne_true

/-- What an artifact says is said by its last section. -/
theorem Recovery.ofText_renderAll {front : List Section} {last : Section} {head rows : List String}
    (hne : front ≠ []) (hfront : ∀ s ∈ front, s.Silent) (hlast : last.render = head ++ rows)
    (hhead : ∀ row ∈ head, Line.Silent row) (hrows : ∀ row ∈ rows, Text.OneLine row) :
    ofText (Section.renderAll (front ++ [last])) = read {} rows := by
  have hsilent : ∀ row ∈ Section.rows front ++ "" :: head, Line.Silent row := by
    rw [List.forall_mem_append, List.forall_mem_cons]
    exact ⟨Section.silent_rows hfront, by decide, hhead⟩
  have hall : Section.rows (front ++ [last]) = (Section.rows front ++ "" :: head) ++ rows := by
    rw [Section.rows_concat hne, hlast, List.append_assoc, List.cons_append]
  rw [Section.renderAll_eq (List.concat_ne_nil _ _), hall, ofText_unlines, read_append,
    read_silent hsilent]
  rw [List.forall_mem_append]
  exact ⟨fun row hrow => (hsilent row hrow).oneLine, hrows⟩

section Artifact

variable {p : Project} {config : Config} {g : Generation} {last : Section} {head rows : List String}
  (hunbroken : ∀ w ∈ p.widgets, w.IsUnbroken config.mode)
  (hdisplay : Text.OneLine config.device.displayId) (hg : g.PlainFonts)
  (hlast : last.render = head ++ rows) (hhead : ∀ row ∈ head, Line.Silent row)
  (hrows : ∀ row ∈ rows, Text.OneLine row)

include hunbroken hdisplay hg hlast hhead hrows

/-- The declarations and the fonts of an artifact say nothing. -/
theorem Recovery.ofText_artifact :
    ofText (Section.renderAll
      ((p.declare config.mode config.device).sections ++ [fontSection g] ++ [last])) = read {} rows := by
  have hdeclared : (p.declare config.mode config.device).Silent :=
    p.silent_declare hunbroken hdisplay
  have hfront : ∀ s ∈ (p.declare config.mode config.device).sections ++ [fontSection g],
      s.Silent := by
    rw [List.forall_mem_append, List.forall_mem_singleton]
    exact ⟨hdeclared.sections, hg.silent_fontSection⟩
  exact Recovery.ofText_renderAll (List.concat_ne_nil _ _) hfront hlast hhead hrows

/-- **What comes back of an artifact is what its last section says.** -/
theorem Project.ofAnyText_of_artifact {pages : List Page} (hne : pages ≠ [])
    (hcollected : (Recovery.read {} rows).Collected pages) :
    ∃ l, ofAnyText (Section.renderAll
        ((p.declare config.mode config.device).sections ++ [fontSection g] ++ [last])) = .ok l
      ∧ l.project = normalize { pages } := by
  refine ofAnyText_normalize (isDocumentText_renderAll (by decide)) ?_ hne
  rw [Recovery.ofText_artifact hunbroken hdisplay hg hlast hhead hrows]
  exact hcollected

end Artifact

/-- **A project comes back if each of its pages does.** The last section of an artifact is silent up
to its pages, and the rows of a page make the page, whatever the form of output is. -/
theorem Project.ofAnyText_of_pages {α : Type} {form : Form α} (hform : form.PlainFonts) {p : Project}
    {config : Config} {rows : Nat → VisitedPage α → List String} {last : Section}
    {head : List String} {blanks : String} (hp : p.IsNormal) (hpages : p.pages ≠ [])
    (hcount : p.pages.length ≤ 2 ^ 32) (hunbroken : ∀ w ∈ p.widgets, w.IsUnbroken config.mode)
    (hdisplay : config.device.IsNamed)
    (hmakes : ∀ page ∈ p.pages, ∀ index ≤ Numeric.maxWord32,
      Recovery.Makes (rows index (VisitedPage.ofPage form config p.dark page)) index
        (page.roundTrip config.mode index))
    (hlast : last.render = head ++ ((p.visit form config).mapIdx rows).flatten.map (blanks ++ ·))
    (hblanks : blanks.toList.all (· == ' ') = true) (hhead : ∀ row ∈ head, Line.Silent row) :
    ∃ l, ofAnyText (Section.renderAll ((p.declare config.mode config.device).sections
        ++ [fontSection (registries config (p.visit form config))] ++ [last])) = .ok l
      ∧ l.project = p.roundTrip config.mode := by
  have hindexed : ∀ i (hi : i < p.pages.length),
      Recovery.Makes (rows i (VisitedPage.ofPage form config p.dark p.pages[i])) i
        (p.pages[i].roundTrip config.mode i) := by
    intro i hi
    have hindex : i ≤ Numeric.maxWord32 := by
      have : Numeric.maxWord32 = 2 ^ 32 - 1 := rfl
      omega
    exact hmakes _ (List.getElem_mem hi) i hindex
  obtain ⟨honeLine, hcollected⟩ := Recovery.collected_read_flatten
    (fun i page => rows i (VisitedPage.ofPage form config p.dark page))
    (fun i page => page.roundTrip config.mode i) hindexed
  have hne : (p.roundTrip config.mode).pages ≠ [] := by
    show p.pages.mapIdx _ ≠ []
    rw [Ne, List.mapIdx_eq_nil_iff]
    exact hpages
  have hread : ∃ l, ofAnyText (Section.renderAll ((p.declare config.mode config.device).sections
        ++ [fontSection (registries config (p.visit form config))] ++ [last])) = .ok l
      ∧ l.project = normalize { pages := (p.roundTrip config.mode).pages } := by
    refine ofAnyText_of_artifact hunbroken hdisplay.isWordText.oneLine
      (plainFonts_registries hform hunbroken) hlast hhead ?_ hne ?_
    · rw [p.mapIdx_visit, List.forall_mem_map]
      intro row hrow
      exact Text.oneLine_append.2 ⟨Line.oneLine_of_blanks hblanks, honeLine row hrow⟩
    · rw [p.mapIdx_visit, Recovery.read_indent _ hblanks]
      exact hcollected
  obtain ⟨l, hl, hproject⟩ := hread
  -- What is loaded is brought into normal form, in which it is already.
  exact ⟨l, hl, hproject.trans (normalize_of_isNormal (p.isNormal_roundTrip hp config.mode))⟩

end DisplayLayout
