import DisplayLayout.Proofs.Project.Written
import DisplayLayout.Qr.Symbol

/-!
# Identifiers that are made up

A widget of a document that has no identifier gets one from its position, and a
shape for a draw call one from its number. Neither looks at the identifiers that
are there already. Those that are made up differ among themselves, so what is
read has distinct identifiers if and only if none of them was given to another
widget before (`Project.nodup_ids_iff`), and a project with an identifier twice
is one that the reader warns about.
-/

namespace DisplayLayout

/-- Items that come from one of two sources, put together by their source. -/
theorem filterMap_or_perm {α β : Type} {f g : α → Option β}
    (h : ∀ a, f a = none ∨ g a = none) (items : List α) :
    (items.filterMap fun a => (f a).or (g a)).Perm (items.filterMap f ++ items.filterMap g) := by
  induction items with
  | nil => exact List.Perm.refl _
  | cons a items ih =>
    simp only [List.filterMap_cons]
    cases hf : f a with
    | some b =>
      have hg : g a = none := (h a).resolve_left (by simp [hf])
      simpa [hg] using ih
    | none =>
      cases g a with
      | none => simpa using ih
      | some b => simpa using (ih.cons b).trans List.perm_middle.symm

theorem Widget.positionId_inj {i j i' j' : Nat} (h : positionId i j = positionId i' j') :
    i = i' ∧ j = j' := by
  have hparts : ∀ m n, positionId m n = ("w" ++ s!"_{m}") ++ s!"_{n}" := by
    intro m n
    rw [← String.toList_inj, positionId]
    simp only [String.toList_append, List.append_assoc]
    rfl
  rw [hparts, hparts] at h
  obtain ⟨hfront, hj⟩ := Numeric.numbered_inj h
  exact ⟨(Numeric.numbered_inj hfront).2, hj⟩

/-! ## Places -/

/-- A widget with its place: the index of its page, and its own on the page. -/
structure Placement where
  page : Nat
  index : Nat
  widget : Widget

namespace Placement

/-- The identifier that a widget comes with. -/
def given? (q : Placement) : Option String := if q.widget.id.isEmpty then none else some q.widget.id

/-- The identifier that is made up for a widget. -/
def invented? (q : Placement) : Option String :=
  if q.widget.id.isEmpty then some (Widget.positionId q.page q.index) else none

theorem given_or_invented (q : Placement) : q.given? = none ∨ q.invented? = none := by
  rw [given?, invented?]
  cases q.widget.id.isEmpty with
  | true => exact Or.inl rfl
  | false => exact Or.inr rfl

/-- The identifier that a widget gets. -/
theorem some_id_normalize (q : Placement) :
    some (q.widget.normalize q.page q.index).id = q.given?.or q.invented? := by
  have hid : q.widget.resolveAlias.id = q.widget.id := by
    rw [Widget.resolveAlias]
    split <;> rfl
  rw [Widget.normalize, given?, invented?]
  dsimp only
  rw [hid]
  cases q.widget.id.isEmpty <;> rfl

end Placement

/-- The widgets of a page at an index with their places. -/
def Page.placements (index : Nat) (p : Page) : List Placement :=
  p.widgets.mapIdx fun i w => ⟨index, i, w⟩

namespace Project

/-- The widgets of all pages with their places. -/
def placements (p : Project) : List Placement := (p.pages.mapIdx Page.placements).flatten

/-- The identifiers of all widgets. -/
def ids (p : Project) : List String := p.widgets.map Widget.id

/-- The identifiers that widgets come with. -/
def givenIds (p : Project) : List String := p.ids.filter fun id => !id.isEmpty

/-- The identifiers that are made up from positions. -/
def inventedIds (p : Project) : List String := p.placements.filterMap Placement.invented?

variable (p : Project)

theorem map_widget_placements : p.placements.map Placement.widget = p.widgets := by
  rw [widgets, placements, List.map_flatten, List.flatMap_def]
  congr 1
  refine List.ext_getElem (by simp) fun i _ _ => ?_
  rw [List.getElem_map, List.getElem_map, List.getElem_mapIdx, Page.placements]
  exact List.ext_getElem (by simp) fun j _ _ => by simp

theorem widgets_normalize :
    p.normalize.widgets = p.placements.map fun q => q.widget.normalize q.page q.index := by
  rw [widgets, placements, List.map_flatten, List.flatMap_def]
  congr 1
  refine List.ext_getElem (by simp [normalize]) fun i _ _ => ?_
  rw [List.getElem_map, List.getElem_map, List.getElem_mapIdx, Page.placements]
  exact List.ext_getElem (by simp [normalize, Page.normalize]) fun j _ _ => by
    simp [normalize, Page.normalize]

theorem filterMap_given? : p.placements.filterMap Placement.given? = p.givenIds := by
  rw [givenIds, ids, ← map_widget_placements, List.map_map, ← List.filterMap_eq_filter,
    List.filterMap_map]
  refine List.filterMap_congr fun q _ => ?_
  simp only [Placement.given?, Function.comp_apply, Option.guard]
  cases q.widget.id.isEmpty <;> rfl

/-- No two widgets have one place. -/
theorem pairwise_placements :
    p.placements.Pairwise fun q q' => ¬(q.page = q'.page ∧ q.index = q'.index) := by
  rw [placements, List.pairwise_flatten]
  constructor
  · intro qs hqs
    obtain ⟨i, hi, rfl⟩ := List.mem_mapIdx.1 hqs
    rw [Page.placements, List.pairwise_iff_getElem]
    intro j j' hj hj' hlt
    simp only [List.getElem_mapIdx]
    omega
  · rw [List.pairwise_iff_getElem]
    intro i i' hi hi' hlt q hq q' hq'
    rw [List.getElem_mapIdx] at hq hq'
    obtain ⟨_, _, rfl⟩ := List.mem_mapIdx.1 hq
    obtain ⟨_, _, rfl⟩ := List.mem_mapIdx.1 hq'
    dsimp only
    omega

theorem nodup_inventedIds : p.inventedIds.Nodup := by
  refine (p.pairwise_placements).filterMap _ fun q q' hplaces id hid id' hid' heq => hplaces ?_
  rw [Placement.invented?] at hid hid'
  split at hid
  · split at hid'
    · cases hid
      cases hid'
      exact Widget.positionId_inj heq
    · cases hid'
  · cases hid

/-- **A project in normal form has the identifiers that were given and those that were made up.** -/
theorem perm_ids_normalize : p.normalize.ids.Perm (p.givenIds ++ p.inventedIds) := by
  have hids : p.normalize.ids = p.placements.filterMap fun q => q.given?.or q.invented? := by
    rw [ids, widgets_normalize, List.map_map, ← List.filterMap_eq_map]
    exact List.filterMap_congr fun q _ => q.some_id_normalize
  rw [hids, ← filterMap_given?]
  exact filterMap_or_perm Placement.given_or_invented _

/-- The identifiers are distinct if those that were given are, and none of them is made up again. -/
theorem nodup_ids_normalize_iff :
    p.normalize.ids.Nodup ↔ p.givenIds.Nodup ∧ ∀ id ∈ p.inventedIds, id ∉ p.givenIds := by
  rw [p.perm_ids_normalize.nodup_iff, List.nodup_append']
  constructor
  · rintro ⟨hgiven, -, hdisjoint⟩
    exact ⟨hgiven, fun id hid hid' => hdisjoint hid' hid⟩
  · rintro ⟨hgiven, hfresh⟩
    exact ⟨hgiven, p.nodup_inventedIds, fun id hid hid' => hfresh id hid' hid⟩

/-! ## Warnings -/

theorem sizeEvent_ne_duplicateEvent (id id' : String) (w : Widget) :
    sizeEvent id w ≠ duplicateEvent id' := by
  intro h
  exact absurd (congrArg Event.message h) (by simp [sizeEvent, duplicateEvent])

/-- There is no warning about an identifier if and only if none comes a second time. -/
theorem duplicateEvent_notMem_warnings_iff {seen : List String} {ws : List (String × Widget)} :
    (∀ id, duplicateEvent id ∉ warnings seen ws)
      ↔ (ws.map Prod.fst).Nodup ∧ ∀ id ∈ ws.map Prod.fst, id ∉ seen := by
  induction ws generalizing seen with
  | nil => simp [warnings]
  | cons v ws ih =>
    obtain ⟨id, w⟩ := v
    have hsize : ∀ id', duplicateEvent id' ∉
        if w.width < 1 ∨ w.height < 1 then [sizeEvent id w] else [] := by
      intro id' hmem
      split at hmem
      · exact sizeEvent_ne_duplicateEvent id id' w (List.mem_singleton.1 hmem).symm
      · cases hmem
    have hfirst : (∀ id', duplicateEvent id' ∉ if seen.contains id then [duplicateEvent id] else [])
        ↔ id ∉ seen := by
      by_cases hseen : id ∈ seen
      · simp only [List.contains_iff_mem, hseen, if_true, not_true, iff_false, not_forall, not_not]
        exact ⟨id, List.mem_singleton_self _⟩
      · simp [hseen]
    have hstep : (∀ id', duplicateEvent id' ∉ warnings seen ((id, w) :: ws))
        ↔ id ∉ seen ∧ ∀ id', duplicateEvent id' ∉ warnings (id :: seen) ws := by
      rw [← hfirst, ← forall_and]
      refine forall_congr' fun id' => ?_
      rw [warnings, List.mem_append, List.mem_append, not_or, not_or]
      exact ⟨fun h => ⟨h.1.2, h.2⟩, fun h => ⟨⟨hsize id', h.1⟩, h.2⟩⟩
    rw [hstep, ih, List.map_cons, List.nodup_cons, List.forall_mem_cons]
    constructor
    · rintro ⟨hseen, hnodup, hrest⟩
      exact ⟨⟨fun hmem => hrest id hmem List.mem_cons_self, hnodup⟩, hseen,
        fun id' hid' hmem => hrest id' hid' (List.mem_cons_of_mem _ hmem)⟩
    · rintro ⟨⟨hnot, hnodup⟩, hseen, hrest⟩
      refine ⟨hseen, hnodup, fun id' hid' hmem => ?_⟩
      rcases List.mem_cons.1 hmem with rfl | hmem
      · exact hnot hid'
      · exact hrest id' hid' hmem

/-- A project has distinct identifiers if and only if there is no warning about one. -/
theorem nodup_ids_iff_events :
    p.normalize.ids.Nodup ↔ ∀ id, duplicateEvent id ∉ p.normalizeEvents := by
  have hlength : p.normalize.ids.length ≤ p.widgets.length := by
    rw [ids, widgets_normalize, ← map_widget_placements]
    simp
  rw [normalizeEvents, duplicateEvent_notMem_warnings_iff, ← ids, List.map_fst_zip hlength]
  simp

end Project

/-! ## Shapes -/

namespace Recovery

/-- The identifiers of the markers whose types are known. -/
def markerIds [Qr.Encoder] (lines : List Line) : List String :=
  (lines.filterMap Line.marked?).map Widget.id

/-- The identifier that is made up for the shape of a line. -/
def Site.shapeId? (s : Site) : Option String :=
  s.loose?.map fun call => call.idLead ++ s!"_{looseCount s.before call.idLead}"

/-- The identifiers that are made up for shapes. -/
def shapeIds (lines : List Line) : List String := (sites lines).filterMap Site.shapeId?

theorem Site.id_widget? [Qr.Encoder] (s : Site) :
    s.widget?.map Widget.id = s.shapeId?.or (s.line.marked?.map Widget.id) := by
  have hid : ∀ (call : DrawCall) (id : String), (call.shape id).id = id := by
    intro call id
    cases call <;> rfl
  rw [widget?, shapeId?]
  cases s.loose? with
  | none => rfl
  | some call => simp [hid]

theorem Site.shape_or_marker [Qr.Encoder] (s : Site) :
    s.shapeId? = none ∨ s.line.marked?.map Widget.id = none := by
  obtain ⟨before, line⟩ := s
  cases line with
  | draw call => exact Or.inr rfl
  | _ => exact Or.inl rfl

theorem map_line_sites (lines : List Line) : (sites lines).map Site.line = lines := by
  rw [sites]
  exact List.ext_getElem (by simp) fun i _ _ => by simp

/-- The identifiers of what a text gives are those of its shapes and of its markers. -/
theorem perm_ids_sites [Qr.Encoder] (lines : List Line) :
    (((sites lines).filterMap Site.widget?).map Widget.id).Perm (shapeIds lines ++ markerIds lines) := by
  have hmarkers : markerIds lines
      = (sites lines).filterMap fun s => s.line.marked?.map Widget.id := by
    rw [markerIds, List.map_filterMap]
    conv_lhs => rw [← map_line_sites lines]
    rw [List.filterMap_map]
    rfl
  rw [List.map_filterMap, hmarkers, shapeIds, List.filterMap_congr fun s _ => s.id_widget?]
  exact filterMap_or_perm Site.shape_or_marker _

section Concat

variable (lines : List Line) (line : Line)

theorem shapeIds_concat : shapeIds (lines ++ [line])
    = shapeIds lines ++ (Site.shapeId? ⟨lines, line⟩).toList := by
  rw [shapeIds, sites_concat, List.filterMap_append]
  rfl

end Concat

/-- Shapes are numbered within their kind. -/
theorem mem_shapeIds {lines : List Line} {id : String} :
    id ∈ shapeIds lines ↔ ∃ lead n, n < looseCount lines lead ∧ id = lead ++ s!"_{n}" := by
  induction lines using List.reverseRecOn with
  | nil => simp [shapeIds, sites, looseCount, looseCalls]
  | append_singleton lines line ih =>
    rw [shapeIds_concat, List.mem_append, ih]
    simp only [looseCount_concat]
    rw [Site.shapeId?]
    cases Site.loose? ⟨lines, line⟩ with
    | none => simp
    | some call =>
      rw [Option.map_some, Option.toList_some, Option.toList_some, List.mem_singleton]
      simp only [List.countP_singleton]
      constructor
      · rintro (⟨lead, n, hn, rfl⟩ | rfl)
        · exact ⟨lead, n, Nat.lt_add_right _ hn, rfl⟩
        · exact ⟨call.idLead, looseCount lines call.idLead, by simp, rfl⟩
      · rintro ⟨lead, n, hn, rfl⟩
        by_cases hlead : call.idLead = lead
        · subst hlead
          rw [if_pos (by simp)] at hn
          rcases Nat.lt_succ_iff_lt_or_eq.1 hn with hn | rfl
          · exact Or.inl ⟨_, n, hn, rfl⟩
          · exact Or.inr rfl
        · rw [if_neg (by simpa using hlead)] at hn
          exact Or.inl ⟨lead, n, hn, rfl⟩

theorem nodup_shapeIds (lines : List Line) : (shapeIds lines).Nodup := by
  induction lines using List.reverseRecOn with
  | nil => exact List.nodup_nil
  | append_singleton lines line ih =>
    rw [shapeIds_concat, Site.shapeId?]
    cases Site.loose? ⟨lines, line⟩ with
    | none => simpa using ih
    | some call =>
      -- The new shape has the number of those before it.
      have hnew : call.idLead ++ s!"_{looseCount lines call.idLead}" ∉ shapeIds lines := by
        intro hmem
        obtain ⟨lead, n, hn, heq⟩ := mem_shapeIds.1 hmem
        obtain ⟨rfl, rfl⟩ := Numeric.numbered_inj heq
        exact Nat.lt_irrefl _ hn
      exact List.Nodup.append ih (List.nodup_singleton _) (by simpa using hnew)

/-- A line is not reported about as an identifier that comes twice. -/
theorem severity_step [Qr.Encoder] {r : Recovery} (h : ∀ e ∈ r.events, e.severity ≠ .warn)
    (line : Line) :
    ∀ e ∈ (r.step line).events, e.severity ≠ .warn := by
  cases line with
  | pageFact key value =>
    have hfact : ∀ e ∈ factEvents key, e.severity ≠ .warn := by
      rw [factEvents]
      split <;> simp
    exact List.forall_mem_append.2 ⟨h, hfact⟩
  | marker m =>
    rw [step]
    split
    · exact h
    · exact List.forall_mem_append.2 ⟨h, by simp [markerEvent]⟩
  | draw call =>
    rw [step]
    split <;> exact h
  | pageHeader index => exact h
  | other => exact h

theorem severity_ofText [Qr.Encoder] (text : String) :
    ∀ e ∈ (ofText text).events, e.severity ≠ .warn := by
  rw [ofText]
  refine List.foldlRecOn (motive := fun r : Recovery => ∀ e ∈ r.events, e.severity ≠ .warn) _ _
    (List.forall_mem_nil _) fun r h line _ => severity_step h line

/-- What is recovered from a text has the identifiers of its shapes and of its markers. -/
theorem perm_ids_draft [Qr.Encoder] (text : String) :
    (ofText text).draft.ids.Perm
      (shapeIds (Line.classifyAll text) ++ markerIds (Line.classifyAll text)) := by
  obtain ⟨indices, h⟩ := exists_describes (Line.classifyAll text)
  have hpages : (ofText text).pages = indices.map fun i => (i, pageFound (Line.classifyAll text) i) :=
    h.pages
  have hwidgets : (ofText text).draft.widgets = indices.flatMap (widgetsOn (Line.classifyAll text)) := by
    rw [draft, hpages, List.map_map, Project.widgets, List.flatMap_map]
    rfl
  rw [Project.ids, hwidgets]
  exact (h.perm_widgets.map _).trans (perm_ids_sites _)

end Recovery

namespace Project

theorem nodup_ids_normalize_of_named {p : Project} (h : "" ∉ p.ids) :
    p.normalize.ids.Nodup ↔ p.ids.Nodup := by
  have hgiven : p.givenIds = p.ids := by
    refine List.filter_eq_self.2 fun id hid => ?_
    have hne : id ≠ "" := ne_of_mem_of_not_mem hid h
    simpa using hne
  have hinvented : p.inventedIds = [] := by
    refine List.filterMap_eq_nil_iff.2 fun q hq => ?_
    have hwidget : q.widget ∈ p.widgets := p.map_widget_placements ▸ List.mem_map_of_mem hq
    have hne : q.widget.id ≠ "" := ne_of_mem_of_not_mem (List.mem_map_of_mem hwidget) h
    rw [Placement.invented?, if_neg (by simpa using hne)]
  rw [nodup_ids_normalize_iff, hgiven, hinvented]
  simp

open Recovery in
/-- A text is read with the warnings of its project. -/
theorem of_ofGenerated [Qr.Encoder] {text : String} {l : Loaded} (h : ofGenerated text = .ok l) :
    l.project = (Recovery.ofText text).draft.normalize
      ∧ ∀ id, duplicateEvent id ∈ l.events
          ↔ duplicateEvent id ∈ (Recovery.ofText text).draft.normalizeEvents := by
  rw [ofGenerated] at h
  dsimp only at h
  split at h
  · cases h
  · cases h
    refine ⟨rfl, fun id => ?_⟩
    have hbefore : duplicateEvent id ∉ (Recovery.ofText text).events :=
      fun hmem => severity_ofText text _ hmem rfl
    have hlast : duplicateEvent id ≠ (Recovery.ofText text).finalEvent := by
      intro heq
      exact absurd (congrArg Event.severity heq) (by simp [duplicateEvent, finalEvent])
    simp [load, hbefore, hlast]

open Recovery in
/-- **Identifiers that are made up are distinct from each other, but not always from those that were
given.** A document whose widgets have distinct identifiers, as far as they have any, is read with
distinct identifiers if and only if none that is made up from a position was given to a widget.
A text whose known markers have distinct identifiers is read with distinct identifiers if and only if
no marker has the kind and the number of a shape. Otherwise there is a warning. -/
theorem nodup_ids_iff [Qr.Encoder] (document : Json) (text : String) :
    (∀ p, decode document = .ok p → p.givenIds.Nodup →
      ∃ l, ofJson document = .ok l
        ∧ (l.project.ids.Nodup ↔ ∀ id ∈ p.inventedIds, id ∉ p.givenIds)
        ∧ (l.project.ids.Nodup ↔ ∀ id, duplicateEvent id ∉ l.events))
    ∧ ∀ l, ofGenerated text = .ok l →
      let lines := Line.classifyAll text
      (markerIds lines).Nodup → "" ∉ markerIds lines →
        (l.project.ids.Nodup
            ↔ ∀ lead n, n < looseCount lines lead → lead ++ s!"_{n}" ∉ markerIds lines)
        ∧ (l.project.ids.Nodup ↔ ∀ id, duplicateEvent id ∉ l.events) := by
  constructor
  · intro p hdecode hgiven
    refine ⟨p.load, by rw [ofJson, hdecode]; rfl, ?_, p.nodup_ids_iff_events⟩
    show p.normalize.ids.Nodup ↔ _
    rw [nodup_ids_normalize_iff]
    exact and_iff_right hgiven
  · intro l hl lines hmarkers hnamed
    obtain ⟨hproject, hevents⟩ := of_ofGenerated hl
    have hperm := perm_ids_draft text
    have hdraft : "" ∉ (Recovery.ofText text).draft.ids := by
      rw [hperm.mem_iff, List.mem_append, not_or]
      refine ⟨fun hmem => ?_, hnamed⟩
      obtain ⟨lead, n, -, hid⟩ := mem_shapeIds.1 hmem
      exact absurd hid (by simp)
    have hdistinct : l.project.ids.Nodup
        ↔ ∀ lead n, n < looseCount lines lead → lead ++ s!"_{n}" ∉ markerIds lines := by
      rw [hproject, nodup_ids_normalize_of_named hdraft, hperm.nodup_iff, List.nodup_append']
      constructor
      · rintro ⟨-, -, hdisjoint⟩ lead n hn
        exact hdisjoint (mem_shapeIds.2 ⟨lead, n, hn, rfl⟩)
      · intro hfresh
        refine ⟨nodup_shapeIds _, hmarkers, fun id hshape => ?_⟩
        obtain ⟨lead, n, hn, rfl⟩ := mem_shapeIds.1 hshape
        exact hfresh lead n hn
    refine ⟨hdistinct, ?_⟩
    rw [hproject, nodup_ids_iff_events]
    exact forall_congr' fun id => not_congr (hevents id).symm

theorem exists_of_pages [Qr.Encoder] (text : String)
    (h : (Recovery.ofText text).pages.isEmpty = false) :
    ∃ l, ofGenerated text = .ok l ∧ l.project = (Recovery.ofText text).draft.normalize := by
  rw [ofGenerated]
  dsimp only
  rw [h]
  exact ⟨_, rfl, rfl⟩

/-- A page with a text that is named and one that is not. -/
def halfNamed (id : String) : Project :=
  { pages := [{ widgets := [{ id, type := "text", width := 10, height := 10 },
      { type := "text", y := 20, width := 10, height := 10 }] }] }

theorem isPlaced_halfNamed (id : String) : (halfNamed id).IsPlaced := by
  intro page hpage w hw
  cases List.mem_singleton.1 hpage
  rcases List.mem_cons.1 hw with rfl | hw
  · exact ⟨rfl, rfl, rfl, rfl⟩
  · cases List.mem_singleton.1 hw
    exact ⟨rfl, rfl, rfl, rfl⟩

/-- A rectangle, and behind it the marker of a text with an identifier. -/
def rectangleThenText (id : String) : String :=
  "it.rectangle(0, 0, 10, 10, COLOR_BLACK);\n// widget:text id:" ++ id ++ " x:0 y:0 w:10 h:10\n"

open Recovery in
/-- Widgets that are named in words have their identifiers for themselves. -/
theorem nodup_ids_title :
    (∃ l, ofJson (halfNamed "title").toJson = .ok l ∧ l.project.ids.Nodup)
      ∧ ∃ l, ofGenerated (rectangleThenText "title") = .ok l ∧ l.project.ids.Nodup := by
  obtain ⟨hdocument, htext⟩ := nodup_ids_iff (halfNamed "title").toJson (rectangleThenText "title")
  constructor
  · obtain ⟨l, hl, hdistinct, -⟩ :=
      hdocument _ (decode_toJson (isPlaced_halfNamed "title")) (by decide)
    exact ⟨l, hl, hdistinct.2 (by decide)⟩
  · have hmarkers : markerIds (Line.classifyAll (rectangleThenText "title")) = ["title"] := by
      decide +kernel
    obtain ⟨l, hl, -⟩ := exists_of_pages (rectangleThenText "title") (by decide +kernel)
    obtain ⟨hdistinct, -⟩ := htext l hl (by rw [hmarkers]; decide) (by rw [hmarkers]; decide)
    refine ⟨l, hl, hdistinct.2 fun lead n _ hmem => ?_⟩
    rw [hmarkers, List.mem_singleton] at hmem
    have hmark : '_' ∈ (lead ++ s!"_{n}").toList := by
      rw [String.toList_append, String.toList_append]
      exact List.mem_append_right _ (List.mem_append_left _ List.mem_cons_self)
    rw [hmem] at hmark
    exact absurd hmark (by decide)

open Recovery in
/-- **Identifiers that are made up may have been given.** A widget may be named for a position, and a
marker for a shape. -/
theorem exists_repeated_id :
    ((halfNamed "w_0_1").givenIds.Nodup
        ∧ (ofJson (halfNamed "w_0_1").toJson).map (fun l => l.project.ids) = .ok ["w_0_1", "w_0_1"])
      ∧ markerIds (Line.classifyAll (rectangleThenText "w_rect_0")) = ["w_rect_0"]
        ∧ ∃ l, ofGenerated (rectangleThenText "w_rect_0") = .ok l
          ∧ l.project.ids = ["w_rect_0", "w_rect_0"] := by
  refine ⟨⟨by decide, ?_⟩, by decide +kernel, ?_⟩
  · rw [ofJson, decode_toJson (isPlaced_halfNamed "w_0_1")]
    rfl
  · obtain ⟨l, hl, hproject⟩ := exists_of_pages (rectangleThenText "w_rect_0") (by decide +kernel)
    refine ⟨l, hl, ?_⟩
    rw [hproject]
    decide +kernel

end Project

end DisplayLayout
