import DisplayLayout.Proofs.Artifact.Nodes
import DisplayLayout.Proofs.Trigger
import DisplayLayout.Qr.Symbol

/-!
# What is refreshed is there

A directive names the identifier of a node (`Sensor.target?`), and a widget asks
for directives without looking at what it shows. It shows all that it asks to
refresh but for two texts, which a signal gauge and a progress bar may leave out
(`Kind.hidden`, `Kind.finds_sensors`). So a directive of a project names a node of
its page tree, or one of these texts (`Project.refresh_targets`), and it does
happen that there is no such node (`exists_dangling_target`).
-/

namespace DisplayLayout

open PageTree

/-! ## Targets of directives -/

namespace Sensor

/-- The identifier that a directive names: of a widget to refresh, or of an indicator to move. -/
def target? (directive : String) : Option String :=
  match Line.after? "- lvgl.widget.refresh: " directive.toList with
  | some id => some (String.ofList id)
  | none =>
    (Line.after? "- lvgl.indicator.update:\n    id: " directive.toList).map fun rest =>
      String.ofList (rest.takeWhile (· ≠ '\n'))

theorem target?_refreshDirective (id : String) : target? (refreshDirective id) = some id := by
  have hafter : Line.after? "- lvgl.widget.refresh: " (refreshDirective id).toList = some id.toList :=
    Line.after?_eq_some_iff.2 String.toList_append
  rw [target?, hafter]
  exact congrArg some String.ofList_toList

end Sensor

theorem Instrument.target?_moveNeedle (v : View) :
    Sensor.target? (moveNeedle v) = some (needleId v) := by
  have hword : ∀ c ∈ (needleId v).toList, decide (c ≠ '\n') = true := by
    intro c hc
    have hchar := @View.isWordText_identWith v "_ind" (by decide) c hc
    exact decide_eq_true (Text.ne_of_isWordChar hchar (by decide))
  have htext : (moveNeedle v).toList = "- lvgl.indicator.update:\n    id: ".toList
      ++ ((needleId v).toList ++ '\n' :: "    value: !lambda \"return x;\"".toList) := by
    simp [moveNeedle, Text.join]
  rw [Sensor.target?, htext, Line.after?_of_clash (by decide), Line.after?_eq_some_iff.2 rfl]
  dsimp only [Option.map_some]
  rw [Text.takeWhile_append_cons hword (by decide), String.ofList_toList]

/-! ## Identifiers of nodes -/

namespace PageTree

/-- The identifier among the entries of an object. -/
def idOf? (entries : List (String × Json)) : Option String :=
  match Keyed.get? entries "id" with
  | some (.string id) => some id
  | _ => none

/-- The identifiers in a node. -/
def ids (node : Json) : List String := node.objects.filterMap idOf?

/-- The identifiers of the nodes of a document. -/
def nodeIds (document : Json) : List String := (nodes document).flatMap ids

end PageTree

namespace Node

variable {id : String} {v : View}

/-- The identifier that a node starts with. -/
theorem mem_ids_of (kind id : String) (rest : Entries) :
    id ∈ ids (Node.of kind (("id", .string id) :: rest)) := by
  refine List.mem_filterMap.2 ⟨("id", .string id) :: rest, ?_, rfl⟩
  simp [Node.of, Json.objects_object]

theorem ident_mem_ids (kind : String) (v : View) (rest : Entries) :
    v.ident ∈ ids (Node.of kind (geometry v ++ rest)) :=
  mem_ids_of kind v.ident _

/-- The identifiers in a child are among those of its box. -/
theorem mem_ids_container {children : List Json} (h : ∃ child ∈ children, id ∈ ids child) :
    id ∈ ids (container v children) := by
  obtain ⟨child, hchild, h⟩ := h
  obtain ⟨entries, hentries, hid⟩ := List.mem_filterMap.1 h
  refine List.mem_filterMap.2 ⟨entries, ?_, hid⟩
  have hitems : entries ∈ Json.objects (.array children) := by
    rw [Json.objects_array]
    exact List.mem_flatMap.2 ⟨child, hchild, hentries⟩
  simp [container, Node.of, Json.objects_object, hitems]

end Node

/-! ## What widgets refresh -/

/-- The identifiers of texts that a widget asks to refresh, although it does not show them. -/
def Kind.hidden (k : Kind) (v : View) : List String :=
  match k with
  | .wifiSignal => if SignalGauge.setup.showsValue v then [] else [v.identWith "_value"]
  | .progressBar => if ProgressBar.hasRow v then [] else [v.identWith "_label"]
  | _ => []

/-- A directive that names an identifier in a node, or one that is hidden. -/
def Sensor.Finds (node : Json) (hidden : List String) (directive : String) : Prop :=
  ∃ id, target? directive = some id ∧ (id ∈ ids node ∨ id ∈ hidden)

namespace Sensor

variable {node : Json} {hidden : List String} {v : View}

theorem finds_refreshDirective {id : String} (h : id ∈ ids node ∨ id ∈ hidden) :
    Finds node hidden (refreshDirective id) :=
  ⟨id, target?_refreshDirective id, h⟩

/-- A sensor of an entity refreshes nothing but what has been added to it. -/
theorem forall_refresh_refreshing {kind : SensorKind} {entity id : String}
    (h : id ∈ ids node ∨ id ∈ hidden) :
    ∀ d ∈ ((Sensor.of kind entity).refreshing id).refresh, Finds node hidden d :=
  List.forall_mem_singleton.2 (finds_refreshDirective h)

/-- The same for a sensor that refreshes two parts of a widget. -/
theorem forall_refresh_refreshing₂ {kind : SensorKind} {entity id other : String}
    (h : id ∈ ids node ∨ id ∈ hidden) (hother : other ∈ ids node ∨ other ∈ hidden) :
    ∀ d ∈ (((Sensor.of kind entity).refreshing id).refreshing other).refresh,
      Finds node hidden d :=
  List.forall_mem_cons.2 ⟨finds_refreshDirective h,
    List.forall_mem_singleton.2 (finds_refreshDirective hother)⟩

/-- A sensor of a bound node refreshes the node. -/
theorem forall_refreshed {sensor? : View → Option Sensor}
    (hmade : ∀ t, sensor? v = some t → ∃ kind entity, t = Sensor.of kind entity)
    (h : v.ident ∈ ids node) :
    ∀ s ∈ Binding.refreshed sensor? v, ∀ d ∈ s.refresh, Finds node hidden d := by
  intro s hs
  obtain ⟨t, ht, rfl⟩ := Option.map_eq_some_iff.1 (Option.mem_toList.1 hs)
  obtain ⟨kind, entity, rfl⟩ := hmade t ht
  exact forall_refresh_refreshing (Or.inl h)

end Sensor

namespace Binding

/-- The sensors of bound nodes are made for their entities. -/
theorem exists_of_map {kind : String → SensorKind} {entity : Option String} {t : Sensor}
    (h : entity.map (fun e => Sensor.of (kind e) e) = some t) :
    ∃ kind entity, t = Sensor.of kind entity := by
  obtain ⟨e, -, rfl⟩ := Option.map_eq_some_iff.1 h
  exact ⟨kind e, e, rfl⟩

theorem exists_of_numeric? {v : View} {t : Sensor} (h : numeric? v = some t) :
    ∃ kind entity, t = Sensor.of kind entity :=
  @exists_of_map (fun _ => .numeric) _ t h

end Binding

open Sensor Binding

/-- The glyph of a gauge is there, and its text unless it is hidden. -/
theorem Gauge.finds_sensors {g : Setup} {v : View} (s : Surface) {hidden : List String}
    (hmade : ∀ t, (g.source v).sensor = some t → ∃ kind entity, t = Sensor.of kind entity)
    (hhidden : g.showsValue v = false → v.identWith "_value" ∈ hidden) :
    ∀ t ∈ Gauge.sensors g v, ∀ d ∈ t.refresh,
      Finds ((Gauge.retained g v s).node.getD (placeholder v)) hidden d := by
  intro t ht
  obtain ⟨made, hmem, rfl⟩ := List.mem_map.1 ht
  obtain ⟨kind, entity, rfl⟩ := hmade made (Option.mem_toList.1 hmem)
  refine forall_refresh_refreshing₂
    (Or.inl (Node.mem_ids_container ⟨_, List.mem_cons_self, Node.mem_ids_of _ _ _⟩)) ?_
  cases hshows : g.showsValue v with
  | false => exact Or.inr (hhidden hshows)
  | true =>
    refine Or.inl (Node.mem_ids_container ?_)
    simp only [hshows, if_true]
    exact ⟨_, List.mem_cons_of_mem _ List.mem_cons_self, Node.mem_ids_of _ _ _⟩

/-- The bar is there, and the text above it unless it is hidden. -/
theorem ProgressBar.finds_sensors (v : View) (s : Surface) (around : Surroundings) :
    ∀ t ∈ behaviour.sensors v around, ∀ d ∈ t.refresh,
      Finds ((retained v s).node.getD (placeholder v)) (Kind.progressBar.hidden v) d := by
  intro t ht
  obtain ⟨made, hmem, rfl⟩ := List.mem_map.1 ht
  obtain ⟨kind, entity, rfl⟩ := exists_of_map (Option.mem_toList.1 hmem)
  refine forall_refresh_refreshing₂ (Or.inl (Node.mem_ids_container
    ⟨_, List.mem_append_right _ List.mem_cons_self, Node.mem_ids_of _ _ _⟩)) ?_
  cases hrow : hasRow v with
  | false =>
    have hhidden : Kind.progressBar.hidden v = [v.identWith "_label"] := if_neg (by simp [hrow])
    exact Or.inr (hhidden ▸ List.mem_cons_self)
  | true =>
    refine Or.inl (Node.mem_ids_container ?_)
    rw [if_pos hrow]
    exact ⟨_, List.mem_cons_self, Node.mem_ids_of _ _ _⟩

theorem Instrument.finds_sensors (v : View) (s : Surface) (around : Surroundings) :
    ∀ t ∈ meter.sensors v around, ∀ d ∈ t.refresh,
      Finds ((meterNode v s).node.getD (placeholder v)) [] d := by
  intro t ht
  obtain ⟨made, hmem, rfl⟩ := Option.map_eq_some_iff.1 (Option.mem_toList.1 ht)
  obtain ⟨kind, entity, rfl⟩ := exists_of_numeric? hmem
  refine List.forall_mem_singleton.2 ⟨needleId v, target?_moveNeedle v, Or.inl ?_⟩
  have hneedle : needleId v ∈ ids (needle v s) := Node.mem_ids_of "line" (needleId v) _
  obtain ⟨entries, hentries, hid⟩ := List.mem_filterMap.1 hneedle
  refine List.mem_filterMap.2 ⟨entries, ?_, hid⟩
  -- The needle is the only indicator of the only scale.
  simp [meterNode, Node.branch, Node.of, scale, Json.objects_object, Json.objects_array, hentries]

/-- **A widget shows what it asks to refresh,** but for the texts that it hides. -/
theorem Kind.finds_sensors [Qr.Encoder] (k : Kind) (v : View) (s : Surface)
    (around : Surroundings) :
    ∀ t ∈ k.behaviour.sensors v around, ∀ d ∈ t.refresh,
      Finds ((k.behaviour.retained v s).node.getD (placeholder v)) (k.hidden v) d := by
  have hself (kind : String) (rest : Node.Entries) :
      v.ident ∈ ids (Node.of kind (Node.geometry v ++ rest)) := Node.ident_mem_ids kind v rest
  cases k with
  | sensorText =>
    intro t ht
    obtain ⟨made, hmem, rfl⟩ := List.mem_map.1 ht
    obtain ⟨kind, entity, rfl⟩ := exists_of_map (Option.mem_toList.1 hmem)
    exact forall_refresh_refreshing (Or.inl (hself _ _))
  | weatherIcon => exact List.forall_mem_singleton.2 (forall_refresh_refreshing (Or.inl (hself _ _)))
  | batteryIcon =>
    exact Gauge.finds_sensors s (fun _ ht => ⟨_, _, BatteryGauge.sensor_source ht⟩)
      fun hshows => Bool.noConfusion hshows
  | wifiSignal =>
    have hmade : ∀ t, (SignalGauge.source v).sensor = some t → ∃ kind entity, t = Sensor.of kind entity := by
      intro t ht
      obtain ⟨e, -, rfl⟩ := SignalGauge.sensor_source ht
      exact ⟨.numeric, e, rfl⟩
    refine Gauge.finds_sensors s hmade fun hshows => ?_
    have hhidden : Kind.wifiSignal.hidden v = [v.identWith "_value"] := if_neg (by simp [hshows])
    exact hhidden ▸ List.mem_cons_self
  | progressBar => exact ProgressBar.finds_sensors v s around
  | calendar =>
    -- The sensor of the entries and that of a graph refresh nothing.
    intro t ht
    obtain ⟨e, -, rfl⟩ := Option.map_eq_some_iff.1 (Option.mem_toList.1 ht)
    exact List.forall_mem_nil _
  | graph =>
    intro t ht
    obtain ⟨kind, entity, rfl⟩ := exists_of_map (Option.mem_toList.1 ht)
    exact List.forall_mem_nil _
  | meter => exact Instrument.finds_sensors v s around
  | label => exact forall_refreshed (fun _ => exists_of_map) (hself _ _)
  | switch => exact forall_refreshed (fun _ => exists_of_map) (hself _ _)
  | checkbox => exact forall_refreshed (fun _ => exists_of_map) (hself _ _)
  | led => exact forall_refreshed (fun _ => exists_of_map) (hself _ _)
  | qrSymbol => exact forall_refreshed (fun _ => exists_of_map) (hself _ _)
  | arc => exact forall_refreshed (fun _ => exists_of_numeric?) (hself _ _)
  | bar => exact forall_refreshed (fun _ => exists_of_numeric?) (hself _ _)
  | slider => exact forall_refreshed (fun _ => exists_of_numeric?) (hself _ _)
  | dropdown => exact forall_refreshed (fun _ => exists_of_numeric?) (hself _ _)
  | roller => exact forall_refreshed (fun _ => exists_of_numeric?) (hself _ _)
  | spinbox => exact forall_refreshed (fun _ => exists_of_numeric?) (hself _ _)
  | _ => exact fun _ ht => absurd ht List.not_mem_nil

/-! ## What a project refreshes -/

namespace Triggers

/-- All directives that are registered. -/
def directives (t : Triggers) : List String := t.flatMap Prod.snd

theorem mem_directives_register {t : Triggers} {entity directive d : String}
    (h : d ∈ (t.register entity directive).directives) : d ∈ t.directives ∨ d = directive := by
  obtain ⟨p, hp, hd⟩ := List.mem_flatMap.1 h
  rcases Keyed.mem_put hp with hp | rfl
  · exact Or.inl (List.mem_flatMap.2 ⟨p, hp, hd⟩)
  -- The new directive stands behind those that were known for the entity.
  · have hknown : ∀ e ∈ (Keyed.get? t (Text.trim entity)).getD [], e ∈ t.directives := by
      cases hget : Keyed.get? t (Text.trim entity) with
      | none => exact fun e he => absurd he List.not_mem_nil
      | some ds => exact fun e he => List.mem_flatMap.2 ⟨_, Keyed.mem_of_get? hget, he⟩
    dsimp only at hd
    split at hd
    · exact Or.inl (hknown d hd)
    · exact (List.mem_append.1 hd).imp (hknown d) List.mem_singleton.1

theorem mem_directives_registerAll {t : Triggers} {entity d : String} {ds : List String}
    (h : d ∈ (ds.foldl (fun t d => t.register entity d) t).directives) :
    d ∈ t.directives ∨ d ∈ ds := by
  induction ds generalizing t with
  | nil => exact Or.inl h
  | cons first ds ih =>
    rcases ih h with h | h
    · exact (mem_directives_register h).imp_right fun heq => List.mem_cons.2 (Or.inl heq)
    · exact Or.inr (List.mem_cons_of_mem _ h)

end Triggers

/-- Nothing is registered but what a sensor refreshes. -/
theorem Project.mem_directives_triggersOf {sensors : List Sensor} {d : String}
    (h : d ∈ (triggersOf sensors).directives) : ∃ s ∈ sensors, d ∈ s.refresh := by
  induction sensors using List.reverseRecOn with
  | nil => exact absurd h List.not_mem_nil
  | append_singleton sensors s ih =>
    rw [triggersOf, List.foldl_append, List.foldl_cons, List.foldl_nil] at h
    rcases Triggers.mem_directives_registerAll h with h | h
    · obtain ⟨t, ht, hd⟩ := ih h
      exact ⟨t, List.mem_append_left _ ht, hd⟩
    · exact ⟨s, List.mem_append_right _ (List.mem_singleton_self s), h⟩

/-- The texts that the widgets of a project ask to refresh although they do not show them. -/
def Project.hidden [Qr.Encoder] (p : Project) : List String :=
  p.widgets.flatMap fun w =>
    (Kind.ofTag? w.type).toList.flatMap fun k => k.hidden (w.view k.behaviour)

/-- **Refreshed parts exist.** Every directive that is registered for a page tree names an
identifier of a node of the tree, or a text that a widget asks to refresh but does not show. -/
theorem Project.refresh_targets [Qr.Encoder] (p : Project) {config : Config}
    (hmode : config.mode = .retained) {directive : String}
    (h : directive ∈ (p.declare config.mode config.device).triggers.directives) :
    ∃ id, Sensor.target? directive = some id
      ∧ (id ∈ nodeIds (p.compile config).artifact.document ∨ id ∈ p.hidden) := by
  rw [hmode] at h
  have hregistered : directive ∈
      (triggersOf ((p.requests .retained config.device).filterMap Request.sensor?)).directives := h
  obtain ⟨s, hs, hd⟩ := mem_directives_triggersOf hregistered
  rw [filterMap_sensor?_requests] at hs
  obtain ⟨⟨around, w⟩, hw, hs⟩ := List.mem_flatMap.1 hs
  obtain ⟨i, page, hpage, hmem, rfl⟩ := (mem_situated_iff p .retained config.device).1 hw
  obtain ⟨b, hb, hs⟩ := List.mem_flatMap.1 hs
  rw [Option.mem_toList] at hb
  obtain ⟨k, htype, rfl, -⟩ := Widget.exists_kind_of_behaviourIn? hb
  obtain ⟨id, htarget, hid⟩ := k.finds_sensors (w.view k.behaviour)
    ⟨config.device, page.theme.isDark p.dark⟩ _ s (List.mem_filter.1 hs).1 directive hd
  refine ⟨id, htarget, hid.imp (fun hid => ?_) fun hid => ?_⟩
  · have hnode := (mem_nodes_compile (p := p) hmode).2
      ⟨page, List.mem_of_getElem? hpage, w, hmem, k.behaviour, hb, rfl⟩
    exact List.mem_flatMap.2 ⟨_, hnode, hid⟩
  · refine List.mem_flatMap.2 ⟨w, List.mem_flatMap.2 ⟨page, List.mem_of_getElem? hpage, hmem⟩, ?_⟩
    exact List.mem_flatMap.2 ⟨k, Option.mem_toList.2 (htype ▸ k.ofTag?_tag), hid⟩

/-- A gauge that shows no text, and a bar without a row above it. -/
def textlessWidgets : Project :=
  { pages := [{ widgets :=
      [{ id := "wifi", type := "wifi_signal", width := 60, height := 60, entityId := some "sensor.rssi",
          props := [("local", .bool false), ("show_dbm", .bool false)] },
        { id := "tank", type := "progress_bar", width := 100, height := 20,
          entityId := some "sensor.tank", props := [("show_percentage", .bool false)] }] }] }

/-- The text of the gauge is refreshed and its glyph is there. -/
theorem refresh_targets_textless :
    ∃ id, Sensor.target? "- lvgl.widget.refresh: wifi_icon" = some id
      ∧ (id ∈ nodeIds (textlessWidgets.compile { mode := .retained }).artifact.document
        ∨ id ∈ textlessWidgets.hidden) :=
  textlessWidgets.refresh_targets rfl (by decide +kernel)

/-- **A directive may name nothing:** the texts of a gauge and of a bar are refreshed whether or
not they are shown. -/
theorem exists_dangling_target :
    (textlessWidgets.widgets.map Widget.id).Nodup
      ∧ ∃ first second, Sensor.target? first = some "wifi_value"
        ∧ Sensor.target? second = some "tank_label"
        ∧ first ∈ (textlessWidgets.declare .retained {}).triggers.directives
        ∧ second ∈ (textlessWidgets.declare .retained {}).triggers.directives
        ∧ "wifi_value" ∉ nodeIds (textlessWidgets.compile { mode := .retained }).artifact.document
        ∧ "tank_label" ∉ nodeIds (textlessWidgets.compile { mode := .retained }).artifact.document := by
  refine ⟨by decide, "- lvgl.widget.refresh: wifi_value", "- lvgl.widget.refresh: tank_label",
    by decide +kernel, by decide +kernel, by decide +kernel, by decide +kernel, by decide +kernel,
    by decide +kernel⟩

end DisplayLayout
