import DisplayLayout.Proofs.Ledger
import DisplayLayout.Proofs.Widget.Components
import DisplayLayout.Proofs.Widget.Sensors

/-!
# Declarations are silent

Some texts of a project are written into its declarations as they are: the names
of entities, the families of fonts, and the time that a graph covers. As long as
none of them holds a line feed, no declaration is taken for a page or for a
widget (`Declared.Silent.sections`).
-/

namespace DisplayLayout

open Text

/-! ## Texts that are written as they are -/

/-- The text of a property that a widget sets. -/
def Widget.propText? (w : Widget) (key : String) : Option String :=
  (w.props.value? key).bind Json.scalarText?

/-- A widget with no line feed in its entity and in the family of its fonts, nor in what only the
configuration of a display lambda has: the entity of its condition, and the time that a graph
covers. -/
structure Widget.IsUnbroken (mode : Mode) (w : Widget) : Prop where
  entity : ∀ s ∈ w.entityId, OneLine s
  fontFamily : ∀ s ∈ w.propText? "font_family", OneLine s
  conditionEntity : mode = .direct → ∀ s ∈ w.conditionEntity, OneLine s
  duration : mode = .direct → w.type = Kind.tag .graph → ∀ s ∈ w.propText? "duration", OneLine s

/-- A device whose display is named by a word that could not be the name of a page. -/
structure Device.IsNamed (d : Device) : Prop where
  isWord : isWord d.displayId.toList = true
  notPage : ¬"page_".toList <+: d.displayId.toList

theorem Device.IsNamed.isWordText {d : Device} (h : d.IsNamed) : IsWordText d.displayId :=
  isWordText_of_isWord h.isWord

theorem Text.oneLine_trim {s : String} (h : OneLine s) : OneLine (trim s) := by
  rw [trim, oneLine_ofList]
  exact fun hc => h (mem_of_mem_trimChars hc)

theorem Text.oneLine_of_nonBlank? {text : Option String} (h : ∀ s ∈ text, OneLine s) {t : String}
    (ht : text.bind nonBlank? = some t) : OneLine t := by
  obtain ⟨s, hs, hts⟩ := Option.bind_eq_some_iff.1 ht
  simp only [nonBlank?] at hts
  split at hts
  · exact absurd hts (by simp)
  · obtain rfl := Option.some.inj hts
    exact oneLine_trim (h s hs)

theorem View.oneLine_text {v : View} {key fallback : String}
    (hset : ∀ s ∈ v.widget.propText? key, OneLine s)
    (hdefault : v.table.default? key = some (.text fallback)) (hfallback : OneLine fallback) :
    OneLine (v.text key) := by
  unfold text
  rw [textAt.eq_def]
  dsimp only
  cases hvalue : v.widget.propText? key with
  | none =>
    rw [show (v.widget.props.value? key).bind Json.scalarText? = none from hvalue, hdefault]
    exact hfallback
  | some s =>
    rw [show (v.widget.props.value? key).bind Json.scalarText? = some s from hvalue]
    exact hset s hvalue

/-! ## Declarations -/

/-- A block whose rows say nothing, the name of its section included. -/
structure Component.Silent (c : Component) : Prop where
  sectionName : Line.Silent (c.sectionName ++ ":")
  lines : ∀ line ∈ c.lines, Line.Silent line

/-- A block says nothing if no text that it copies has a line feed. -/
theorem Component.IsBlock.silent {Named : String → Prop} {c : Component} (h : c.IsBlock OneLine Named) :
    c.Silent where
  sectionName := by
    have hnames : ∀ name ∈ sectionNames, Line.Silent (name ++ ":") := by decide
    exact hnames _ h.sectionName
  lines := fun row hrow => (h.rows row hrow).silent id

/-- A sensor whose block says nothing, whatever its readings refresh. -/
structure Sensor.Silent (s : Sensor) : Prop where
  id : OneLine s.id
  entity : OneLine s.entityId
  attributeName : ∀ name ∈ s.attributeName, OneLine name
  refresh : ∀ directive ∈ s.refresh, ∀ line ∈ Text.lines directive, Line.Silent ("        " ++ line)

/-- A global variable whose rows say nothing. -/
def Global.Silent (g : Global) : Prop := ∀ line ∈ g.lines, Line.Silent line

/-- A request that says nothing when it is granted. -/
def Request.Silent : Request → Prop
  | sensor s => s.Silent
  | component c => c.Silent
  | globalVariable g => g.Silent

namespace Sensor

theorem oneLine_qualify {entity : String} (h : OneLine entity) (kind : SensorKind) :
    OneLine (qualify kind entity) := by
  unfold qualify
  dsimp only
  split
  · exact oneLine_append.2 ⟨by decide, oneLine_trim h⟩
  · exact oneLine_trim h

theorem silent_of {entity : String} (h : OneLine entity) (kind : SensorKind) :
    (Sensor.of kind entity).Silent where
  id := Sensor.oneLine_id_of kind entity
  entity := oneLine_qualify h kind
  attributeName := fun _ hname => absurd hname (by simp [Sensor.of])
  refresh := fun _ hd => absurd hd List.not_mem_nil

theorem Silent.withAttribute {s : Sensor} (h : s.Silent) {name : String} (hname : OneLine name) :
    (s.withAttribute name).Silent where
  id := (s.isWordText_id_withAttribute name).oneLine
  entity := h.entity
  attributeName := fun _ ha => Option.some.inj ha ▸ hname
  refresh := h.refresh

theorem Silent.withRefresh {s : Sensor} (h : s.Silent) {directive : String}
    (hlines : ∀ line ∈ Text.lines directive, Line.Silent ("        " ++ line)) :
    (s.withRefresh directive).Silent where
  id := h.id
  entity := h.entity
  attributeName := h.attributeName
  refresh := by
    intro d hd
    rcases List.mem_append.1 hd with hd | hd
    · exact h.refresh d hd
    · rw [List.mem_singleton.1 hd]
      exact hlines

end Sensor

theorem Sensor.silent_refreshDirective {id : String} (h : OneLine id) :
    ∀ line ∈ Text.lines (refreshDirective id), Line.Silent ("        " ++ line) := by
  intro line hline
  have hone : OneLine (refreshDirective id) := by
    unfold refreshDirective
    exact oneLine_append.2 ⟨by decide, h⟩
  rw [Text.lines_of_oneLine hone line hline]
  unfold refreshDirective
  rw [← String.append_assoc]
  exact Line.silent_of_lead (by decide) (by decide) h

/-! ## Sensors that widgets ask for -/

/-- The directive that moves a needle has three rows. -/
theorem Instrument.silent_moveNeedle (v : View) :
    ∀ line ∈ Text.lines (moveNeedle v), Line.Silent ("        " ++ line) := by
  have hid := (v.isWordText_identWith (by decide : IsWordText "_ind")).oneLine
  have hrows : ∀ row ∈ ["- lvgl.indicator.update:", "    id: " ++ needleId v,
      "    value: !lambda \"return x;\""], Line.Silent ("        " ++ row) := by
    simp only [List.forall_mem_cons]
    refine ⟨by decide, ?_, by decide, List.forall_mem_nil _⟩
    rw [← String.append_assoc]
    exact Line.silent_of_lead (by decide) (by decide) hid
  intro line hline
  obtain ⟨row, hrow, rfl | rfl⟩ :=
    mem_lines_join (fun row hrow => (oneLine_append.1 (hrows row hrow).oneLine).2) hline
  · exact hrows _ hrow
  · exact (hrows row hrow).lineOf

/-- A directive whose rows say nothing. -/
def Sensor.SilentDirective (directive : String) : Prop :=
  ∀ line ∈ Text.lines directive, Line.Silent ("        " ++ line)

theorem Sensor.oneLine_builtIn : ∀ name ∈ builtIn, OneLine name := by decide

theorem Sensor.Made.silent {s : Sensor} (h : s.Made OneLine SilentDirective) : s.Silent := by
  induction h with
  | of h kind => exact silent_of h kind
  | withAttribute _ hname ih => exact ih.withAttribute (oneLine_builtIn _ hname)
  | withRefresh _ hd ih => exact ih.withRefresh hd

/-- A sensor refreshes what it is allowed to. -/
theorem Sensor.Made.refresh {P D : String → Prop} {s : Sensor} (h : s.Made P D) :
    ∀ directive ∈ s.refresh, D directive := by
  induction h with
  | of => exact fun _ hd => absurd hd List.not_mem_nil
  | withAttribute _ _ ih => exact ih
  | withRefresh _ hd ih =>
    intro directive hmem
    rcases List.mem_append.1 hmem with hmem | hmem
    · exact ih directive hmem
    · rw [List.mem_singleton.1 hmem]
      exact hd

theorem View.supplies_silent {v : View} {P : String → Prop} (hv : ∀ e ∈ v.entity?, P e)
    (hbuiltIn : ∀ text ∈ Sensor.builtIn, P text) : v.Supplies P Sensor.SilentDirective where
  entity := hv
  builtIn := hbuiltIn
  widget _ hsuffix := Sensor.silent_refreshDirective (v.isWordText_identWith hsuffix).oneLine
  needle := Instrument.silent_moveNeedle v

/-- **The sensors that a widget asks for say nothing.** -/
theorem Kind.silent_sensors [Qr.Encoder] (k : Kind) {v : View} (hv : ∀ e ∈ v.entity?, OneLine e)
    (around : Surroundings) : ∀ s ∈ k.behaviour.sensors v around, s.Silent :=
  fun _ hs => (k.made_sensors (View.supplies_silent hv Sensor.oneLine_builtIn) around hs).silent

/-! ## Components that widgets ask for -/

/-- No text that a widget copies has a line feed if those that it has do not. -/
theorem Kind.writes_oneLine [Qr.Encoder] {k : Kind} {w : Widget} (hw : ∀ s ∈ w.entityId, OneLine s)
    (hduration : k = .graph → ∀ s ∈ w.propText? "duration", OneLine s) {around : Surroundings}
    (hdisplay : OneLine around.device.displayId) :
    k.Writes (w.view k.behaviour) around OneLine fun _ => True where
  display lead hlead := by
    simp only [Section.isSilentLead, Bool.and_eq_true] at hlead
    exact oneLine_append.2 ⟨Line.oneLine_of_opens hlead.1.2, hdisplay⟩
  toggle _ e he := oneLine_append.2 ⟨by decide, oneLine_of_nonBlank? hw he⟩
  duration := by
    rintro rfl
    have hone : OneLine ((w.view Graph.behaviour).text "duration") :=
      View.oneLine_text (hduration rfl) (by rfl) (by decide)
    exact oneLine_append.2 ⟨by decide, oneLine_trim hone⟩
  signal := trivial
  own _ _ := trivial
  file _ _ _ := trivial
  online _ _ _ := trivial

/-! ## Global variables -/

theorem Global.silent_of {g : Global} (hid : Line.Silent ("  - id: " ++ g.id))
    (htype : OneLine g.valueType) (hinitial : OneLine g.initial) : g.Silent := by
  unfold Global.Silent Global.lines
  simp only [List.forall_mem_cons]
  refine ⟨hid, ?_, ?_, ?_, List.forall_mem_nil _⟩
  · exact Line.silent_of_lead (by decide) (by decide) htype
  · cases g.restore <;> decide
  · rw [String.append_assoc]
    refine Line.silent_of_lead (by decide) (by decide) ?_
    exact oneLine_append.2 ⟨hinitial, by decide⟩

theorem silent_fixedGlobals : ∀ g ∈ fixedGlobals, g.Silent := by
  unfold Global.Silent
  decide

theorem TouchArea.silent_globals {v : View} {around : Surroundings} {g : Global}
    (h : g ∈ TouchArea.globals v around) : g.Silent := by
  let pageCount : Global :=
    { id := pageCountId, restore := false, initial := toString (max 1 around.pageCount) }
  have hid : Line.Silent ("  - id: " ++ pageCountId) := by decide
  have htype : OneLine "int" := by decide
  have hcount : ∀ g ∈ [pageCount], g.Silent :=
    List.forall_mem_singleton.2 (Global.silent_of hid htype (Numeric.oneLine_toString_nat _))
  unfold globals at h
  dsimp only at h
  split at h
  · split at h
    · exact hcount g h
    · exact hcount g h
    · exact absurd h List.not_mem_nil
  · exact absurd h List.not_mem_nil

/-- **The global variables that a widget asks for say nothing.** -/
theorem Kind.silent_globals [Qr.Encoder] (k : Kind) (v : View) (around : Surroundings) :
    ∀ g ∈ k.behaviour.globals v around, g.Silent := by
  have hnone : ∀ b : Behaviour, b.globals = (fun _ _ => []) → ∀ g ∈ b.globals v around, g.Silent := by
    intro b hb g hg
    rw [hb] at hg
    exact absurd hg List.not_mem_nil
  cases k with
  | touchArea =>
    intro g hg
    have hown : g ∈ TouchArea.globals v around := hg
    exact TouchArea.silent_globals hown
  | _ => exact hnone _ rfl

/-! ## Requests -/

theorem Condition.silent_sensor {w : Widget} (hw : ∀ s ∈ w.conditionEntity, OneLine s)
    {c : Condition} (hc : Condition.ofWidget? w = some c) : c.sensor.Silent := by
  obtain ⟨entity, hentity, rfl⟩ := Option.map_eq_some_iff.1 hc
  exact Sensor.silent_of (oneLine_of_nonBlank? hw hentity) _

/-- **What a widget asks for says nothing.** -/
theorem Widget.silent_requests [Qr.Encoder] {w : Widget} {around : Surroundings}
    (hw : w.IsUnbroken around.mode) (hdisplay : OneLine around.device.displayId) :
    ∀ r ∈ w.requests around, r.Silent := by
  intro r hr
  obtain ⟨k, htype, hsupported, hasks⟩ := asks_of_mem_requests hr
  cases hasks with
  | sensor hs =>
    have hentity : ∀ e ∈ (w.view k.behaviour).entity?, OneLine e :=
      fun e he => oneLine_of_nonBlank? hw.entity he
    exact k.silent_sensors hentity around _ hs
  | condition hdirect hc => exact Condition.silent_sensor (hw.conditionEntity hdirect) hc
  | component hc =>
    have hduration : k = .graph → ∀ s ∈ w.propText? "duration", OneLine s := by
      rintro rfl
      refine hw.duration ?_ htype
      cases hmode : around.mode with
      | direct => rfl
      | _ =>
        rw [hmode] at hsupported
        cases hsupported
    exact (Kind.isBlock_components (Kind.writes_oneLine hw.entity hduration hdisplay) hc).silent
  | globalVariable hg => exact k.silent_globals _ around _ hg

/-! ## The declarations of a project -/

/-- Directives whose lines say nothing. -/
def Triggers.Silent (t : Triggers) : Prop :=
  ∀ p ∈ t, ∀ directive ∈ p.2, ∀ line ∈ Text.lines directive, Line.Silent ("        " ++ line)

theorem Triggers.Silent.register {t : Triggers} (h : t.Silent) {directive : String}
    (hd : ∀ line ∈ Text.lines directive, Line.Silent ("        " ++ line)) (entity : String) :
    (t.register entity directive).Silent := by
  have hknown : ∀ d ∈ (Keyed.get? t (Text.trim entity)).getD [],
      ∀ line ∈ Text.lines d, Line.Silent ("        " ++ line) := by
    cases hget : Keyed.get? t (Text.trim entity) with
    | none => exact fun d hd => absurd hd List.not_mem_nil
    | some ds => exact h _ (Keyed.mem_of_get? hget)
  intro p hp
  rcases Keyed.mem_put hp with hp | rfl
  · exact h p hp
  · dsimp only
    split
    · exact hknown
    · intro d hdm
      rcases List.mem_append.1 hdm with hdm | hdm
      · exact hknown d hdm
      · rw [List.mem_singleton.1 hdm]
        exact hd

theorem Project.silent_triggersOf {sensors : List Sensor}
    (h : ∀ s ∈ sensors, ∀ directive ∈ s.refresh, Sensor.SilentDirective directive) :
    (triggersOf sensors).Silent := by
  have hstart : Triggers.Silent [] := fun p hp => absurd hp List.not_mem_nil
  refine List.foldlRecOn (motive := Triggers.Silent) sensors _ hstart fun t ht s hs => ?_
  refine List.foldlRecOn (motive := Triggers.Silent) s.refresh _ ht fun t ht directive hd => ?_
  exact ht.register (h s hs directive hd) s.entityId

/-- Declarations of which every one says nothing. -/
structure Declared.Silent (d : Declared) : Prop where
  sensors : ∀ s ∈ d.sensors, s.Silent
  components : ∀ c ∈ d.components, c.Silent
  globals : ∀ g ∈ d.globals, g.Silent
  triggers : d.triggers.Silent

theorem Project.mem_situated {p : Project} {mode : Mode} {device : Device} {around : Surroundings}
    {w : Widget} (h : (around, w) ∈ p.situated mode device) :
    around.mode = mode ∧ around.device = device ∧ w ∈ p.widgets := by
  obtain ⟨i, page, hpage, hw, rfl⟩ := (mem_situated_iff p mode device).1 h
  exact ⟨rfl, rfl, List.mem_flatMap.2 ⟨page, List.mem_of_getElem? hpage, hw⟩⟩

section Inversion

variable [Qr.Encoder] {p : Project} {mode : Mode} {device : Device}

/-- What is asked for in a project is asked for by one of its widgets. -/
theorem Project.asks_of_mem_requests {r : Request} (h : r ∈ p.requests mode device) :
    ∃ around w k, around.mode = mode ∧ around.device = device ∧ w ∈ p.widgets
      ∧ w.type = Kind.tag k ∧ w.Asks around k r := by
  obtain ⟨⟨around, w⟩, hw, hr⟩ := List.mem_flatMap.1 h
  obtain ⟨hmode, hdevice, hmem⟩ := mem_situated hw
  obtain ⟨k, htype, -, hasks⟩ := Widget.asks_of_mem_requests hr
  exact ⟨around, w, k, hmode, hdevice, hmem, htype, hasks⟩

theorem Project.mem_requests_of_sensor {s : Sensor} (h : s ∈ (p.declare mode device).sensors) :
    .sensor s ∈ p.requests mode device := by
  have hgranted := (Request.mem_filterMap_iff Request.sensor?_eq_some_iff).1 h
  exact (Request.sublist_granted _ _).subset hgranted

theorem Project.mem_requests_of_component {c : Component}
    (h : c ∈ (p.declare mode device).components) : .component c ∈ p.requests mode device := by
  have hgranted := (Request.mem_filterMap_iff Request.component?_eq_some_iff).1 h
  exact (Request.sublist_granted _ _).subset hgranted

theorem Project.mem_requests_of_global {g : Global} (h : g ∈ (p.declare mode device).globals) :
    g ∈ fixedGlobals ∨ .globalVariable g ∈ p.requests mode device := by
  refine (List.mem_append.1 h).imp_right fun h => ?_
  have hgranted := (Request.mem_filterMap_iff Request.global?_eq_some_iff).1 h
  exact (Request.sublist_granted _ _).subset hgranted

/-- Sensors are made by widgets, whatever their entities are. -/
theorem Project.made_of_requests {s : Sensor} (h : .sensor s ∈ p.requests mode device) :
    s.Made (fun _ => True) Sensor.SilentDirective := by
  obtain ⟨around, w, k, -, -, -, -, hasks⟩ := asks_of_mem_requests h
  cases hasks with
  | sensor hs =>
    exact k.made_sensors (View.supplies_silent (fun _ _ => trivial) fun _ _ => trivial) around hs
  | condition => exact .of trivial _

/-- No directive says anything, whatever the widgets are. -/
theorem Project.silent_triggers (p : Project) (mode : Mode) (device : Device) :
    (p.declare mode device).triggers.Silent := by
  show (if mode = .retained then _ else _ : Triggers).Silent
  split
  · refine silent_triggersOf fun s hs => ?_
    exact (made_of_requests ((Request.mem_filterMap_iff Request.sensor?_eq_some_iff).1 hs)).refresh
  · exact fun q hq => absurd hq List.not_mem_nil

/-- No global variable says anything, whatever the widgets are. -/
theorem Project.silent_globals {g : Global} (h : g ∈ (p.declare mode device).globals) : g.Silent := by
  rcases mem_requests_of_global h with h | h
  · exact silent_fixedGlobals g h
  · obtain ⟨around, w, k, -, -, -, -, hasks⟩ := asks_of_mem_requests h
    cases hasks with
    | globalVariable hg => exact k.silent_globals _ around g hg

end Inversion

/-- **The declarations of a project say nothing.** -/
theorem Project.silent_declare [Qr.Encoder] {p : Project} {mode : Mode} {device : Device}
    (hp : ∀ w ∈ p.widgets, w.IsUnbroken mode) (hdisplay : OneLine device.displayId) :
    (p.declare mode device).Silent := by
  have hrequests : ∀ r ∈ p.requests mode device, r.Silent := by
    intro r hr
    obtain ⟨⟨around, w⟩, hw, hrequest⟩ := List.mem_flatMap.1 hr
    obtain ⟨rfl, rfl, hmem⟩ := mem_situated hw
    exact Widget.silent_requests (hp w hmem) hdisplay r hrequest
  refine ⟨?_, ?_, fun g hg => silent_globals hg, p.silent_triggers mode device⟩
  · exact fun s hs => hrequests _ (mem_requests_of_sensor hs)
  · exact fun c hc => hrequests _ (mem_requests_of_component hc)

/-! ## Sections -/

theorem Section.silent_mk {name : String} {lines : List String}
    (hname : Line.Silent (name ++ ":")) (hlines : ∀ line ∈ lines, Line.Silent line) :
    Section.Silent ⟨name, lines⟩ := by
  intro row hrow
  rcases List.mem_cons.1 hrow with rfl | hrow
  · exact hname
  · exact hlines row hrow

namespace Declared

variable {d : Declared}

section Rows

open Section

variable {Raw Named : String → Prop}

theorem isSilentRow_triggerLines (kind : SensorKind) {directives : List String}
    (h : ∀ directive ∈ directives, Sensor.SilentDirective directive) :
    ∀ row ∈ triggerLines kind directives, IsSilentRow Raw Named row := by
  unfold triggerLines
  simp only [List.forall_mem_cons, List.forall_mem_map]
  refine ⟨by cases kind <;> exact isSilentRow_fixed (by decide), isSilentRow_fixed (by decide),
    fun line hline => ?_⟩
  obtain ⟨directive, hd, hline⟩ := List.mem_flatMap.1 hline
  have hsilent := h directive hd line hline
  exact isSilentRow_of_isPlain (by decide) (Or.inl hsilent.oneLine) hsilent.classify_eq

/-- The rows of a sensor copy its entity and declare its identifier. -/
theorem isSilentRow_sensorLines (hd : d.triggers.Silent) {s : Sensor} (hid : OneLine s.id)
    (hnamed : Named s.id) (hentity : Raw ("    entity_id: " ++ s.entityId))
    (hname : ∀ name ∈ s.attributeName, OneLine name) :
    ∀ row ∈ d.sensorLines s, IsSilentRow Raw Named row := by
  unfold Declared.sensorLines
  simp only [List.forall_mem_append, List.forall_mem_cons]
  refine ⟨⟨⟨⟨isSilentRow_fixed (by decide), isSilentRow_ownId hid hnamed,
    isSilentRow_raw (by decide) hentity, List.forall_mem_nil _⟩, ?_⟩, isSilentRow_fixed (by decide),
    List.forall_mem_nil _⟩, ?_⟩
  · intro row hrow
    obtain ⟨name, hsome, rfl⟩ := Option.map_eq_some_iff.1 (Option.mem_toList.1 hrow)
    exact isSilentRow_append (by decide) (hname name hsome)
  · split
    · next directives hget =>
      split
      · exact isSilentRow_triggerLines s.kind (hd _ (Keyed.mem_of_get? hget))
      · exact List.forall_mem_nil _
    · exact List.forall_mem_nil _

end Rows

theorem Silent.sensorLines (h : d.Silent) {s : Sensor} (hs : s.Silent) :
    ∀ row ∈ d.sensorLines s, Line.Silent row := by
  have hentity : OneLine ("    entity_id: " ++ s.entityId) := oneLine_append.2 ⟨by decide, hs.entity⟩
  intro row hrow
  have hsilent : Section.IsSilentRow OneLine (fun _ => True) row :=
    isSilentRow_sensorLines h.triggers hs.id trivial hentity hs.attributeName row hrow
  exact hsilent.silent id

/-- A section of components is that of one of them. -/
theorem exists_of_mem_componentSections {name : String} (h : name ∈ d.componentSections) :
    ∃ c ∈ d.components, c.sectionName = name := by
  rcases List.mem_append.1 h with h | h
  · exact List.mem_map.1 (List.contains_iff_mem.1 (List.mem_filter.1 h).2)
  · have hothers := List.mem_eraseDups.1 (List.mem_mergeSort.1 h)
    exact List.mem_map.1 (List.mem_filter.1 hothers).1

/-- What holds of the names and the rows of all declarations holds of their sections. -/
theorem forall_sections {Name Row : String → Prop} (hfixed : Name "globals" ∧ Name "time")
    (hglobals : ∀ g ∈ d.globals, ∀ row ∈ g.lines, Row row) (htime : ∀ row ∈ timeSection.lines, Row row)
    (hkinds : ∀ kind : SensorKind, Name kind.sectionName)
    (hsensors : ∀ s ∈ d.sensors, ∀ row ∈ d.sensorLines s, Row row)
    (hcomponents : ∀ c ∈ d.components, Name c.sectionName ∧ ∀ row ∈ c.lines, Row row) :
    ∀ s ∈ d.sections, Name s.name ∧ ∀ row ∈ s.lines, Row row := by
  have hblocks : ∀ name, ∀ row ∈ d.componentLines name, Row row := by
    intro name row hrow
    obtain ⟨c, hc, hrow⟩ := List.mem_flatMap.1 hrow
    exact (hcomponents c (List.mem_filter.1 hc).1).2 row hrow
  intro s hs
  rcases List.mem_append.1 hs with hs | hs
  · rcases List.mem_cons.1 hs with rfl | hs
    · refine ⟨hfixed.1, fun row hrow => ?_⟩
      obtain ⟨g, hg, hrow⟩ := List.mem_flatMap.1 hrow
      exact hglobals g hg row hrow
    rcases List.mem_cons.1 hs with rfl | hs
    · exact ⟨hfixed.2, htime⟩
    -- The blocks of components stand behind those of sensors.
    obtain ⟨kind, -, hkind⟩ := List.mem_filterMap.1 hs
    unfold sensorSection at hkind
    dsimp only at hkind
    split at hkind
    · cases hkind
    · cases hkind
      refine ⟨hkinds kind, ?_⟩
      rw [List.forall_mem_append]
      refine ⟨fun row hrow => ?_, hblocks _⟩
      obtain ⟨t, ht, hrow⟩ := List.mem_flatMap.1 hrow
      exact hsensors t (List.mem_filter.1 ht).1 row hrow
  · obtain ⟨name, hname, rfl⟩ := List.mem_map.1 hs
    obtain ⟨c, hc, rfl⟩ := exists_of_mem_componentSections hname
    exact ⟨(hcomponents c hc).1, hblocks _⟩

/-- **No section of declarations says anything.** -/
theorem Silent.sections (h : d.Silent) : ∀ s ∈ d.sections, s.Silent := by
  let Name (name : String) : Prop := Line.Silent (name ++ ":")
  have hfixed : Name "globals" ∧ Name "time" := by decide
  have hkinds : ∀ kind : SensorKind, Name kind.sectionName := by
    intro kind
    cases kind <;> decide
  have htime : ∀ row ∈ timeSection.lines, Line.Silent row := by decide
  have hcomponents : ∀ c ∈ d.components, Name c.sectionName ∧ ∀ row ∈ c.lines, Line.Silent row :=
    fun c hc => ⟨(h.components c hc).sectionName, (h.components c hc).lines⟩
  intro s hs
  obtain ⟨hname, hlines⟩ := forall_sections hfixed h.globals htime hkinds
    (fun s hs => h.sensorLines (h.sensors s hs)) hcomponents s hs
  exact Section.silent_mk hname hlines

end Declared

end DisplayLayout
