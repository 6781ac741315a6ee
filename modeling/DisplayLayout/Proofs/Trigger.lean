import DisplayLayout.Proofs.Ledger
import DisplayLayout.Proofs.Text.Lines
import DisplayLayout.Proofs.Widget.Sensors
import DisplayLayout.Qr.Symbol

/-!
# One trigger for each entity

Every reading of an entity refreshes what any widget has asked for, whether or
not its sensor is the one that is declared. The directives are collected entity
by entity (`Project.lists_triggers`), and the first block of an entity carries
them all, the others none (`Declared.sensorLines_eq`).
-/

namespace DisplayLayout

/-! ## Directives of an entity -/

namespace Triggers

/-- The entry for directives: each of them once, and none without directives. -/
def entry (ds : List String) : Option (List String) := if ds = [] then none else some ds.eraseDups

theorem entry_concat (ds : List String) (d : String) :
    entry (ds ++ [d])
      = some (if ds.eraseDups.contains d then ds.eraseDups else ds.eraseDups ++ [d]) := by
  have hsingle : [d].eraseDups = [d] := by simp [List.eraseDups_cons]
  rw [entry, if_neg (by simp), List.eraseDups_append]
  by_cases h : d ∈ ds
  · simp [List.removeAll, h]
  · simp [List.removeAll, h, hsingle]

theorem getD_entry (ds : List String) : (entry ds).getD [] = ds.eraseDups := by
  unfold entry
  split
  · next hnil => rw [hnil]; rfl
  · rfl

/-- For each entity the directives `f`, in their order. -/
def Lists (t : Triggers) (f : String → List String) : Prop := ∀ e, Keyed.get? t e = entry (f e)

theorem lists_nil : Lists [] fun _ => [] := fun _ => rfl

variable {t : Triggers} {f : String → List String}

/-- One more directive goes to the end of those of its entity. -/
theorem Lists.register (h : t.Lists f) (entity d : String) :
    (t.register entity d).Lists fun e => if Text.trim entity = e then f e ++ [d] else f e := by
  intro e
  unfold Triggers.register
  dsimp only
  by_cases he : Text.trim entity = e
  · subst he
    rw [Keyed.get?_put_self, if_pos rfl, entry_concat, h, getD_entry]
  · rw [Keyed.get?_put_of_ne _ _ he, if_neg he]
    exact h e

theorem Lists.registerAll (h : t.Lists f) (entity : String) (ds : List String) :
    (ds.foldl (fun t d => t.register entity d) t).Lists
      fun e => if Text.trim entity = e then f e ++ ds else f e := by
  induction ds generalizing t f with
  | nil => simpa using h
  | cons d ds ih =>
    have step := ih (h.register entity d)
    intro e
    rw [List.foldl_cons, step e]
    by_cases he : Text.trim entity = e
    · simp only [if_pos he, List.append_assoc, List.singleton_append]
    · simp only [if_neg he]

end Triggers

/-- What the readings of an entity refresh, sensor by sensor. -/
def Sensor.directivesFor (sensors : List Sensor) (entity : String) : List String :=
  (sensors.filter (·.entityId == entity)).flatMap Sensor.refresh

theorem Sensor.directivesFor_concat (sensors : List Sensor) (s : Sensor) (entity : String) :
    directivesFor (sensors ++ [s]) entity
      = if s.entityId = entity then directivesFor sensors entity ++ s.refresh
        else directivesFor sensors entity := by
  rw [directivesFor, List.filter_append, List.flatMap_append]
  by_cases h : s.entityId = entity
  · rw [if_pos h, List.filter_cons_of_pos (by simpa using h)]
    simp [directivesFor]
  · rw [if_neg h, List.filter_cons_of_neg (by simpa using h)]
    simp [directivesFor]

/-- **Directives are collected entity by entity.** -/
theorem Project.lists_triggersOf {sensors : List Sensor}
    (h : ∀ s ∈ sensors, Text.trim s.entityId = s.entityId) :
    (triggersOf sensors).Lists (Sensor.directivesFor sensors) := by
  -- Directives are registered at the end, so the last sensor is taken off.
  induction sensors using List.reverseRecOn with
  | nil => exact Triggers.lists_nil
  | append_singleton sensors s ih =>
    have hs := h s (List.mem_append_right _ (List.mem_singleton_self s))
    have step := (ih fun t ht => h t (List.mem_append_left _ ht)).registerAll s.entityId s.refresh
    intro e
    rw [triggersOf, List.foldl_append, List.foldl_cons, List.foldl_nil, Sensor.directivesFor_concat]
    rw [hs] at step
    exact step e

/-! ## Entities have no blanks at their ends -/

theorem Text.trim_trim (s : String) : trim (trim s) = trim s := by
  rw [trim, trim, String.toList_ofList, trimChars_trimChars]

namespace Sensor

theorem trim_qualify (kind : SensorKind) (entity : String) :
    Text.trim (qualify kind entity) = qualify kind entity := by
  unfold qualify
  dsimp only
  split
  · have hlast : ∀ c ∈ ("sensor." ++ Text.trim entity).toList.getLast?, Text.isBlank c = false := by
      intro c hc
      rw [String.toList_append, List.getLast?_append, Text.trim, String.toList_ofList] at hc
      cases htrim : (Text.trimChars entity.toList).getLast? with
      | none =>
        rw [htrim] at hc
        cases hc
        decide
      | some d =>
        rw [htrim] at hc
        cases hc
        exact Text.isBlank_getLast_trimChars htrim
    rw [Text.trim, Text.trimChars_eq_self _ hlast, String.ofList_toList]
    intro c hc
    rw [String.toList_append] at hc
    cases hc
    decide
  · exact Text.trim_trim entity

theorem Made.trim_entityId {P D : String → Prop} {s : Sensor} (h : s.Made P D) :
    Text.trim s.entityId = s.entityId := by
  induction h with
  | of _ kind => exact trim_qualify kind _
  | withAttribute _ _ ih => exact ih
  | withRefresh _ _ ih => exact ih

end Sensor

/-! ## Readings of a project -/

section

variable [Qr.Encoder]

/-- The sensors that the widgets of a project ask for, page by page and widget by widget, but for
those of the wrong kind. -/
def Project.readings (p : Project) (mode : Mode) (device : Device) : List Sensor :=
  (p.situated mode device).flatMap fun (around, w) =>
    (w.behaviourIn? mode).toList.flatMap fun b =>
      (b.sensors (w.view b) around).filter (!·.isMismatched)

/-- A widget of the page tree asks for no sensors but those that it shows. -/
theorem Widget.filterMap_sensor?_requests (w : Widget) {around : Surroundings}
    (h : around.mode = .retained) :
    (w.requests around).filterMap Request.sensor?
      = (w.behaviourIn? around.mode).toList.flatMap fun b =>
          (b.sensors (w.view b) around).filter (!·.isMismatched) := by
  have hsensor (l : List Sensor) : (l.map Request.sensor).filterMap Request.sensor? = l := by
    rw [List.filterMap_map]
    exact List.filterMap_some
  have hcomponent (l : List Component) :
      (l.map Request.component).filterMap Request.sensor? = [] := by simp [Request.sensor?]
  have hglobal (l : List Global) :
      (l.map Request.globalVariable).filterMap Request.sensor? = [] := by simp [Request.sensor?]
  unfold requests
  cases hb : w.behaviourIn? around.mode with
  | none => rfl
  | some b =>
    simp only [List.filterMap_append, hsensor, hcomponent, hglobal, List.append_nil, readSensors, h,
      reduceCtorEq, if_false, Option.toList_some, List.flatMap_cons, List.flatMap_nil]

theorem Project.filterMap_sensor?_requests (p : Project) (device : Device) :
    (p.requests .retained device).filterMap Request.sensor? = p.readings .retained device := by
  rw [requests, readings, List.filterMap_flatMap]
  refine List.flatMap_congr fun ⟨around, w⟩ hw => ?_
  obtain ⟨i, page, -, -, rfl⟩ := (mem_situated_iff p .retained device).1 hw
  exact w.filterMap_sensor?_requests rfl

theorem Project.trim_readings {p : Project} {mode : Mode} {device : Device} {s : Sensor}
    (h : s ∈ p.readings mode device) : Text.trim s.entityId = s.entityId := by
  obtain ⟨⟨around, w⟩, -, hs⟩ := List.mem_flatMap.1 h
  obtain ⟨b, hb, hs⟩ := List.mem_flatMap.1 hs
  obtain ⟨k, -, rfl, -⟩ := Widget.exists_kind_of_behaviourIn? (Option.mem_toList.1 hb)
  exact (k.made_sensors (View.supplies_true _) around (List.mem_filter.1 hs).1).trim_entityId

/-- **The triggers of a project hold what its readings refresh.** -/
theorem Project.lists_triggers (p : Project) (device : Device) :
    (p.declare .retained device).triggers.Lists
      (Sensor.directivesFor (p.readings .retained device)) := by
  show (triggersOf ((p.requests .retained device).filterMap Request.sensor?)).Lists _
  rw [filterMap_sensor?_requests]
  exact lists_triggersOf fun s hs => trim_readings hs

end

/-! ## Blocks of sensors -/

/-- The block of a sensor without what happens on a new reading. -/
def Sensor.plainBlock (s : Sensor) : List String :=
  ["  - platform: homeassistant", "    id: " ++ s.id, "    entity_id: " ++ s.entityId]
  ++ (s.attributeName.map ("    attribute: " ++ ·)).toList
  ++ ["    internal: true"]

/-- Whether a block says what happens on a new reading. -/
def hasTrigger (block : List String) : Bool :=
  SensorKind.all.any fun kind => block.contains ("    " ++ kind.triggerKey ++ ":")

namespace Declared

/-- The sensors of an entity in the order of their blocks. -/
def blocksOf (d : Declared) (entity : String) : List Sensor :=
  d.sensorOrder.filter (·.entityId == entity)

theorem triggerKey_notMem_plainBlock (s : Sensor) (kind : SensorKind) :
    ("    " ++ kind.triggerKey ++ ":") ∉ s.plainBlock := by
  -- The lines of the block and the key differ in the first letter behind their four blanks.
  have hne (lead rest : String) (h : lead.toList[4]? ≠ some 'o') (hlead : 4 < lead.toList.length) :
      "    " ++ kind.triggerKey ++ ":" ≠ lead ++ rest := by
    intro heq
    refine h ?_
    have hget := congrArg (fun t : String => t.toList[4]?) heq
    rw [String.toList_append (s := lead), List.getElem?_append_left hlead] at hget
    rw [← hget]
    cases kind <;> rfl
  unfold Sensor.plainBlock
  simp only [List.mem_append, List.mem_cons, List.not_mem_nil, or_false, not_or]
  refine ⟨⟨⟨?_, hne "    id: " _ (by decide) (by decide),
    hne "    entity_id: " _ (by decide) (by decide)⟩, ?_⟩, ?_⟩
  · cases kind <;> decide
  · intro hmem
    obtain ⟨name, -, hname⟩ := Option.map_eq_some_iff.1 (Option.mem_toList.1 hmem)
    exact hne "    attribute: " name (by decide) (by decide) hname.symm
  · cases kind <;> decide

theorem hasTrigger_plainBlock (s : Sensor) : hasTrigger s.plainBlock = false := by
  rw [hasTrigger, List.any_eq_false]
  intro kind _
  rw [List.contains_iff_mem]
  exact triggerKey_notMem_plainBlock s kind

theorem hasTrigger_triggerLines (block : List String) (kind : SensorKind) (ds : List String) :
    hasTrigger (block ++ triggerLines kind ds) = true := by
  rw [hasTrigger, List.any_eq_true]
  refine ⟨kind, ?_, ?_⟩
  · cases kind <;> decide
  · rw [List.contains_iff_mem]
    exact List.mem_append_right _ List.mem_cons_self

variable {d : Declared}

/-- The blocks of all kinds are those of all sensors. -/
theorem perm_sensorOrder (d : Declared) : d.sensorOrder.Perm d.sensors := by
  unfold sensorOrder SensorKind.all sensorsOf
  rw [List.flatMap_cons, List.flatMap_cons, List.flatMap_singleton]
  -- A sensor moves to the front, past those of the kinds before its own.
  induction d.sensors with
  | nil => exact List.Perm.nil
  | cons s rest ih =>
    cases hkind : s.kind with
    | numeric => simpa [hkind] using ih
    | text => simpa [hkind] using (List.perm_middle.trans (ih.cons s))
    | binary =>
      simp only [List.filter_cons, hkind, decide_true, decide_false, reduceCtorEq, if_true]
      rw [← List.append_assoc] at ih ⊢
      exact List.perm_middle.trans (ih.cons s)

/-- What follows the plain block of a sensor. -/
theorem sensorLines_eq {f : String → List String} (h : d.triggers.Lists f) (s : Sensor) :
    d.sensorLines s = s.plainBlock
      ++ if f s.entityId ≠ [] ∧ d.isFirstOfEntity s = true
        then triggerLines s.kind (f s.entityId).eraseDups else [] := by
  show s.plainBlock ++ _ = _
  rw [h s.entityId, Triggers.entry]
  by_cases hnil : f s.entityId = []
  · rw [if_pos hnil, if_neg fun hboth => hboth.1 hnil]
  · rw [if_neg hnil]
    dsimp only
    by_cases hfirst : d.isFirstOfEntity s = true
    · rw [if_pos hfirst, if_pos ⟨hnil, hfirst⟩]
    · rw [if_neg hfirst, if_neg fun hboth => hfirst hboth.2]

theorem hasTrigger_sensorLines {f : String → List String} (h : d.triggers.Lists f) (s : Sensor) :
    hasTrigger (d.sensorLines s) = true ↔ f s.entityId ≠ [] ∧ d.isFirstOfEntity s = true := by
  rw [sensorLines_eq h s]
  split
  · next hboth => exact ⟨fun _ => hboth, fun _ => hasTrigger_triggerLines _ _ _⟩
  · next hnot =>
    rw [List.append_nil, hasTrigger_plainBlock]
    exact ⟨fun hfalse => absurd hfalse Bool.false_ne_true, fun hboth => absurd hboth hnot⟩

/-- With identifiers that differ, the first block of an entity is one of them. -/
theorem isFirstOfEntity_iff (hids : (d.sensors.map Sensor.id).Nodup) {s first : Sensor}
    {rest : List Sensor} (hs : s ∈ d.sensors) (h : d.blocksOf s.entityId = first :: rest) :
    d.isFirstOfEntity s = true ↔ s = first := by
  have hfind : d.sensorOrder.find? (fun t => t.entityId == s.entityId) = some first := by
    rw [← List.head?_filter]
    exact congrArg List.head? h
  have hfirst : first ∈ d.sensors :=
    (perm_sensorOrder d).subset (List.mem_of_find?_eq_some hfind)
  rw [isFirstOfEntity, hfind, Option.any_some, beq_iff_eq]
  constructor
  · exact fun hid => (List.inj_on_of_nodup_map hids hfirst hs hid).symm
  · rintro rfl
    rfl

/-- One block of an entity has a trigger if there is anything to refresh, and it refreshes all of
that, each once. -/
structure TriggersOnce (d : Declared) (entity : String) (directives : List String) : Prop where
  none : directives = [] → ∀ s ∈ d.blocksOf entity, hasTrigger (d.sensorLines s) = false
  one : directives ≠ [] →
    ∃ s, (d.blocksOf entity).filter (fun t => hasTrigger (d.sensorLines t)) = [s]
  all : ∀ s ∈ d.blocksOf entity, hasTrigger (d.sensorLines s) = true →
    d.sensorLines s = s.plainBlock ++ triggerLines s.kind directives.eraseDups

theorem triggersOnce {f : String → List String} (h : d.triggers.Lists f)
    (hids : (d.sensors.map Sensor.id).Nodup) {entity : String}
    (hentity : ∃ s ∈ d.sensors, s.entityId = entity) : d.TriggersOnce entity (f entity) := by
  have hmem (s : Sensor) (hs : s ∈ d.blocksOf entity) : s ∈ d.sensors ∧ s.entityId = entity := by
    rw [blocksOf, List.mem_filter, beq_iff_eq] at hs
    exact ⟨(perm_sensorOrder d).subset hs.1, hs.2⟩
  constructor
  case none =>
    intro hnil s hs
    rw [← Bool.not_eq_true, hasTrigger_sensorLines h, (hmem s hs).2]
    exact fun hboth => hboth.1 hnil
  case all =>
    intro s hs htrigger
    rw [hasTrigger_sensorLines h] at htrigger
    rw [sensorLines_eq h, if_pos htrigger, (hmem s hs).2]
  case one =>
    -- The first block has the trigger, and no other block is that of the same sensor.
    intro hne
    obtain ⟨s, hs, rfl⟩ := hentity
    have hblock : s ∈ d.blocksOf s.entityId := by
      rw [blocksOf, List.mem_filter, beq_iff_eq]
      exact ⟨(perm_sensorOrder d).symm.subset hs, rfl⟩
    obtain ⟨first, rest, hblocks⟩ := List.exists_cons_of_ne_nil (List.ne_nil_of_mem hblock)
    have hnodup : (d.blocksOf s.entityId).Nodup :=
      ((perm_sensorOrder d).nodup_iff.2 hids.of_map).filter _
    have hfirst (t : Sensor) (ht : t ∈ d.blocksOf s.entityId) :
        hasTrigger (d.sensorLines t) = true ↔ t = first := by
      obtain ⟨htmem, htentity⟩ := hmem t ht
      rw [hasTrigger_sensorLines h, isFirstOfEntity_iff hids htmem (htentity ▸ hblocks), htentity]
      exact and_iff_right hne
    refine ⟨first, ?_⟩
    rw [hblocks] at hfirst hnodup ⊢
    obtain ⟨hnotMem, -⟩ := List.nodup_cons.1 hnodup
    have hrest : rest.filter (fun t => hasTrigger (d.sensorLines t)) = [] := by
      refine List.filter_eq_nil_iff.2 fun t ht htrigger => ?_
      obtain rfl := (hfirst t (List.mem_cons_of_mem _ ht)).1 htrigger
      exact hnotMem ht
    rw [List.filter_cons, if_pos ((hfirst first List.mem_cons_self).2 rfl), hrest]

/-- The blocks of a kind stand in its section, in their order, before its components. -/
theorem mem_sections_of_kind (d : Declared) {kind : SensorKind} (h : d.sensorsOf kind ≠ []) :
    ⟨kind.sectionName, (d.sensorsOf kind).flatMap d.sensorLines ++ d.componentLines kind.sectionName⟩
      ∈ d.sections := by
  have hkind : kind ∈ SensorKind.all := by cases kind <;> decide
  refine List.mem_append_left _ (List.mem_cons_of_mem _ (List.mem_cons_of_mem _ ?_))
  refine List.mem_filterMap.2 ⟨kind, hkind, ?_⟩
  obtain ⟨s, rest, hs⟩ := List.exists_cons_of_ne_nil h
  rw [sensorSection, hs]
  rfl

end Declared

/-- **Trigger blocks.** In the page tree, one block of an entity refreshes what any widget has
asked for, in the order in which that was asked for; no block of a display lambda does. -/
theorem Project.trigger_blocks [Qr.Encoder] (p : Project) (device : Device) :
    (∀ entity, (∃ s ∈ (p.declare .retained device).sensors, s.entityId = entity) →
      (p.declare .retained device).TriggersOnce entity
        (Sensor.directivesFor (p.readings .retained device) entity))
    ∧ (∀ s ∈ (p.declare .direct device).sensors,
        hasTrigger ((p.declare .direct device).sensorLines s) = false)
    ∧ ∀ (mode : Mode) (kind : SensorKind), (p.declare mode device).sensorsOf kind ≠ [] →
        ⟨kind.sectionName, ((p.declare mode device).sensorsOf kind).flatMap
            (p.declare mode device).sensorLines
          ++ (p.declare mode device).componentLines kind.sectionName⟩
        ∈ (p.declare mode device).sections := by
  refine ⟨fun entity hentity => ?_, fun s _ => ?_, fun mode _ => Declared.mem_sections_of_kind _⟩
  · have hdistinct := (p.followsLedger_declare .retained device).distinct
    rw [List.nodup_cons, List.append_assoc, List.nodup_append] at hdistinct
    exact Declared.triggersOnce (p.lists_triggers device) hdistinct.2.1 hentity
  · have hnone : (p.declare .direct device).triggers.Lists fun _ => [] := Triggers.lists_nil
    rw [← Bool.not_eq_true, Declared.hasTrigger_sensorLines hnone]
    exact fun hboth => hboth.1 rfl

/-- Two widgets on two pages read one entity, one of them numbers and the other one words. -/
theorem Project.trigger_blocks_shared :
    let p : Project :=
      { pages :=
          [{ widgets := [{ id := "a", type := "sensor_text", entityId := some "sensor.t" }] },
            { widgets := [{ id := "b", type := "weather_icon", entityId := some "sensor.t" }] }] }
    let d := p.declare .retained {}
    let directives := ["- lvgl.widget.refresh: a", "- lvgl.widget.refresh: b"]
    (∃ s ∈ d.sensors, s.entityId = "sensor.t")
      ∧ Sensor.directivesFor (p.readings .retained {}) "sensor.t" = directives
      ∧ (d.blocksOf "sensor.t").map Sensor.id = ["sensor_t", "sensor_t_txt"]
      ∧ ∃ s, (d.blocksOf "sensor.t").filter (fun t => hasTrigger (d.sensorLines t)) = [s]
          ∧ d.sensorLines s = s.plainBlock ++ Declared.triggerLines s.kind directives := by
  intro p d directives
  have hdeclared : ∃ s ∈ d.sensors, s.entityId = "sensor.t" := by decide +kernel
  have hdirectives : Sensor.directivesFor (p.readings .retained {}) "sensor.t" = directives := by
    decide +kernel
  obtain ⟨hentity, -, -⟩ := trigger_blocks p {}
  obtain ⟨-, hone, hall⟩ := hentity "sensor.t" hdeclared
  rw [hdirectives] at hone hall
  obtain ⟨s, hs⟩ := hone (by decide)
  obtain ⟨hblock, htrigger⟩ := List.mem_filter.1 (hs ▸ List.mem_singleton_self s)
  refine ⟨hdeclared, hdirectives, by decide +kernel, s, hs, ?_⟩
  rw [hall s hblock htrigger]
  congr 1

end DisplayLayout
