import DisplayLayout.Proofs.Artifact.Sections
import DisplayLayout.Qr.Symbol

/-!
# Sections partition the declarations

A project declares sensors and blocks of components, and an artifact writes them
into sections. Two sources feed one section: a section of sensors has the blocks
of components behind those of its sensors. The names of the sections differ, they
stand in a fixed order, and every declaration stands in just one of them, once
(`Project.partition_sections`).
-/

namespace DisplayLayout

/-! ## What is declared -/

/-- What a project declares in a section of its own: a sensor, or a block of a component. -/
inductive Declaration where
  | sensor (s : Sensor)
  | component (c : Component)

namespace Declaration

/-- What a declaration is known by. -/
def id : Declaration → String
  | sensor s => s.id
  | component c => c.key

/-- The section that a declaration belongs to. -/
def sectionName : Declaration → String
  | sensor s => s.kind.sectionName
  | component c => c.sectionName

end Declaration

namespace Declared

/-- All declarations, sensors first. -/
def declarations (d : Declared) : List Declaration :=
  d.sensors.map .sensor ++ d.components.map .component

/-- The declarations that belong to a section: the sensors of its kind, and then the blocks of
components. -/
def declarationsIn (d : Declared) (name : String) : List Declaration :=
  (d.sensors.filter (·.kind.sectionName = name)).map .sensor
    ++ (d.components.filter (·.sectionName = name)).map .component

/-- The rows of a declaration. -/
def rowsOf (d : Declared) : Declaration → List String
  | .sensor s => d.sensorLines s
  | .component c => c.lines

/-- Whether anything is declared in a section. -/
def declares (d : Declared) (name : String) : Bool := !(d.declarationsIn name).isEmpty

/-- The section of what is declared under a name. -/
def sectionOf (d : Declared) (name : String) : Section :=
  ⟨name, (d.declarationsIn name).flatMap d.rowsOf⟩

/-- The sections of declarations that have a fixed place. -/
def wellKnown : List String :=
  ["sensor", "text_sensor", "binary_sensor", "http_request", "image", "online_image", "graph", "qr_code"]

/-- The other sections that something is declared in, in alphabetical order. -/
structure IsOthers (d : Declared) (others : List String) : Prop where
  sorted : others.Pairwise (· < ·)
  mem : ∀ name, name ∈ others ↔ name ∉ wellKnown ∧ d.declares name = true

/-- Sections, the last one named `last`, that hold what is declared. -/
structure Partition (d : Declared) (last : String) (sections : List Section) : Prop where
  /-- The global variables and the time source come first, and the fonts and the display come last.
  Between them are the sections that something is declared in: those with a fixed place, and then
  the others. -/
  order : ∃ others, d.IsOthers others ∧ sections.map Section.name
    = ["globals", "time"] ++ wellKnown.filter d.declares ++ others ++ ["font", last]
  nodup : (sections.map Section.name).Nodup
  front : ∃ rest, sections = ⟨"globals", d.globals.flatMap Global.lines⟩ :: timeSection :: rest
  /-- A section between them has the rows of its declarations. -/
  lines : ∀ s ∈ sections, s.name ∉ ["globals", "time", "font", last] → s = d.sectionOf s.name
  /-- No declaration belongs to one of the four. -/
  apart : ∀ name ∈ ["globals", "time", "font", last], d.declarationsIn name = []
  /-- The declarations of all sections are all that there are, each of them once. -/
  once : (sections.flatMap fun s => d.declarationsIn s.name).Perm d.declarations
  distinct : (d.declarations.map Declaration.id).Nodup

variable {d : Declared}

theorem declarationsIn_eq (d : Declared) (name : String) :
    d.declarationsIn name = d.declarations.filter fun x => x.sectionName == name := by
  rw [declarationsIn, declarations, List.filter_append, List.filter_map, List.filter_map]
  rfl

theorem declares_iff {name : String} :
    d.declares name = true ↔ ∃ x ∈ d.declarations, x.sectionName = name := by
  rw [declares, Bool.not_eq_true', List.isEmpty_eq_false_iff_exists_mem, declarationsIn_eq]
  simp only [List.mem_filter, beq_iff_eq]

end Declared

/-! ## Blocks of components -/

theorem Project.isPlaced_component [Qr.Encoder] {p : Project} {mode : Mode} {device : Device}
    {c : Component} (h : c ∈ (p.declare mode device).components) : c.IsPlaced := by
  obtain ⟨around, w, k, -, -, -, -, hasks⟩ := asks_of_mem_requests (mem_requests_of_component h)
  cases hasks with
  | component hc => exact (Kind.isBlock_components (Kind.writes_true _ _ _) hc).toIsPlaced

/-! ## Sections of declarations -/

namespace Declared

/-- The sections of sensors. -/
def sensorNames : List String := SensorKind.all.map SensorKind.sectionName

theorem mem_sensorNames (kind : SensorKind) : kind.sectionName ∈ sensorNames := by
  cases kind <;> decide

variable {d : Declared}

theorem declarationsIn_of_notMem {name : String} (h : name ∉ sensorNames) :
    d.declarationsIn name = (d.components.filter (·.sectionName = name)).map .component := by
  have hsensors : d.sensors.filter (·.kind.sectionName = name) = [] := by
    refine List.filter_eq_nil_iff.2 fun s _ => ?_
    rw [decide_eq_true_eq]
    rintro rfl
    exact h (mem_sensorNames s.kind)
  rw [declarationsIn, hsensors, List.map_nil, List.nil_append]

theorem declares_iff_of_notMem {name : String} (h : name ∉ sensorNames) :
    d.declares name = true ↔ name ∈ d.components.map Component.sectionName := by
  rw [declares, declarationsIn_of_notMem h, Bool.not_eq_true', List.isEmpty_eq_false_iff_exists_mem]
  simp

theorem lines_sectionOf (d : Declared) (name : String) :
    (d.sectionOf name).lines
      = (d.sensors.filter (·.kind.sectionName = name)).flatMap d.sensorLines ++ d.componentLines name := by
  rw [sectionOf, declarationsIn, List.flatMap_append, List.flatMap_map, List.flatMap_map]
  rfl

theorem sectionOf_of_notMem {name : String} (h : name ∉ sensorNames) :
    d.sectionOf name = ⟨name, d.componentLines name⟩ := by
  rw [sectionOf, declarationsIn_of_notMem h, List.flatMap_map]
  rfl

theorem pairwise_lt_mergeSort {names : List String} (h : names.Nodup) :
    (names.mergeSort fun a b => decide (a ≤ b)).Pairwise (· < ·) := by
  have hsorted : (names.mergeSort fun a b => decide (a ≤ b)).Pairwise fun a b => decide (a ≤ b) = true := by
    refine List.pairwise_mergeSort ?_ ?_ names
    · intro a b c hab hbc
      rw [decide_eq_true_eq] at hab hbc ⊢
      exact String.le_trans hab hbc
    · intro a b
      rw [Bool.or_eq_true, decide_eq_true_eq, decide_eq_true_eq]
      exact String.le_total a b
  have hnodup : (names.mergeSort fun a b => decide (a ≤ b)).Nodup :=
    (List.mergeSort_perm _ _).nodup_iff.2 h
  refine (hsorted.and hnodup).imp ?_
  rintro a b ⟨hle, hne⟩
  rw [decide_eq_true_eq] at hle
  by_contra hlt
  exact hne (String.le_antisymm hle (String.not_lt.1 hlt))

/-- The sections of components in order, those without a fixed place at the end. -/
theorem componentSections_eq (d : Declared) :
    ∃ others, d.IsOthers others ∧ d.componentSections = placedSections.filter d.declares ++ others := by
  have hplaced : placedSections.filter (d.components.map Component.sectionName).contains
      = placedSections.filter d.declares := by
    refine List.filter_congr fun name hname => ?_
    have hother : ∀ name ∈ placedSections, name ∉ sensorNames := by decide
    rw [Bool.eq_iff_iff, List.contains_iff_mem, declares_iff_of_notMem (hother name hname)]
  refine ⟨_, ⟨?_, fun name => ?_⟩, congrArg (· ++ _) hplaced⟩
  · exact pairwise_lt_mergeSort (Keyed.nodup_eraseDups _)
  · have hknown : name ∉ wellKnown ↔ name ∉ placedSections ∧ name ∉ sensorNames := by
      have hparts : wellKnown = sensorNames ++ placedSections := rfl
      rw [hparts, List.mem_append, not_or, and_comm]
    have hother : (!placedSections.contains name && !sensorNames.contains name) = true
        ↔ name ∉ wellKnown := by
      simp only [hknown, Bool.and_eq_true, Bool.not_eq_true', List.contains_eq_mem, decide_eq_false_iff_not]
    -- Outside of the sections of sensors, what is declared are components.
    rw [List.mem_mergeSort, List.mem_eraseDups, List.mem_filter, and_comm, ← sensorNames, hother]
    exact and_congr_right fun hname => (declares_iff_of_notMem (hknown.1 hname).2).symm

section

variable (h : ∀ c ∈ d.components, c.IsPlaced)

include h

theorem rowsOf_ne_nil {x : Declaration} (hx : x ∈ d.declarations) : d.rowsOf x ≠ [] := by
  rcases List.mem_append.1 hx with hx | hx
  · obtain ⟨s, -, rfl⟩ := List.mem_map.1 hx
    exact List.cons_ne_nil _ _
  · obtain ⟨c, hc, rfl⟩ := List.mem_map.1 hx
    exact (h c hc).lines

/-- A section is empty if nothing is declared in it. -/
theorem isEmpty_lines_sectionOf (name : String) :
    (d.sectionOf name).lines.isEmpty = !d.declares name := by
  rw [declares, Bool.not_not, Bool.eq_iff_iff, List.isEmpty_iff, List.isEmpty_iff, sectionOf,
    List.flatMap_eq_nil_iff]
  constructor
  · intro hrows
    refine List.eq_nil_iff_forall_not_mem.2 fun x hx => rowsOf_ne_nil h ?_ (hrows x hx)
    rw [declarationsIn_eq] at hx
    exact (List.mem_filter.1 hx).1
  · intro hnone x hx
    rw [hnone] at hx
    exact absurd hx List.not_mem_nil

theorem sensorSection_eq (kind : SensorKind) :
    d.sensorSection kind
      = if d.declares kind.sectionName then some (d.sectionOf kind.sectionName) else none := by
  have hkind : d.sensorsOf kind = d.sensors.filter (·.kind.sectionName = kind.sectionName) := by
    rw [sensorsOf]
    refine List.filter_congr fun s _ => ?_
    cases s.kind <;> cases kind <;> decide
  have hlines := d.lines_sectionOf kind.sectionName
  rw [← hkind] at hlines
  rw [sensorSection, ← hlines, isEmpty_lines_sectionOf h]
  cases d.declares kind.sectionName <;> rfl

theorem sensorSections_eq :
    SensorKind.all.filterMap d.sensorSection = (sensorNames.filter d.declares).map d.sectionOf := by
  simp only [sensorNames, SensorKind.all, List.filterMap_cons, List.filterMap_nil, sensorSection_eq h,
    List.map_cons, List.map_nil, List.filter_cons, List.filter_nil]
  cases d.declares SensorKind.numeric.sectionName <;> cases d.declares SensorKind.text.sectionName
    <;> cases d.declares SensorKind.binary.sectionName <;> rfl

/-- **The sections before the fonts:** two fixed ones, and one for each name that something is
declared under. -/
theorem sections_eq :
    ∃ others, d.IsOthers others ∧ d.sections
      = ⟨"globals", d.globals.flatMap Global.lines⟩ :: timeSection
        :: (wellKnown.filter d.declares ++ others).map d.sectionOf := by
  obtain ⟨others, hothers, hsections⟩ := d.componentSections_eq
  refine ⟨others, hothers, ?_⟩
  have hparts : wellKnown.filter d.declares ++ others
      = sensorNames.filter d.declares ++ d.componentSections := by
    have hknown : wellKnown = sensorNames ++ placedSections := rfl
    rw [hsections, ← List.append_assoc, ← List.filter_append, hknown]
  have hcomponents : d.componentSections.map (fun name => (⟨name, d.componentLines name⟩ : Section))
      = d.componentSections.map d.sectionOf := by
    refine List.map_congr_left fun name hname => (sectionOf_of_notMem ?_).symm
    rw [hsections] at hname
    rcases List.mem_append.1 hname with hname | hname
    · have hother : ∀ name ∈ placedSections, name ∉ sensorNames := by decide
      exact hother name (List.mem_filter.1 hname).1
    · have hknown := ((hothers.mem name).1 hname).1
      exact fun hsensor => hknown (List.mem_append_left placedSections hsensor)
  rw [sections, hcomponents, sensorSections_eq h, hparts, List.map_append]
  rfl

end

/-! ## The whole artifact -/

/-- Nothing is declared in a section that is neither of sensors nor of components. -/
theorem declares_eq_false (hplaced : ∀ c ∈ d.components, c.IsPlaced) {name : String}
    (hsensor : name ∉ sensorNames) (hcomponent : name ∉ Component.sectionNames) :
    d.declares name = false := by
  rw [← Bool.not_eq_true, declares_iff_of_notMem hsensor, List.mem_map]
  rintro ⟨c, hc, rfl⟩
  exact hcomponent (hplaced c hc).sectionName

namespace IsOthers

variable {others : List String} (h : d.IsOthers others)

include h

/-- The names between the fixed ones are those that something is declared under. -/
theorem mem_declaring {name : String} :
    name ∈ wellKnown.filter d.declares ++ others ↔ d.declares name = true := by
  rw [List.mem_append, List.mem_filter, h.mem]
  by_cases hknown : name ∈ wellKnown
  · simp [hknown]
  · simp [hknown]

theorem nodup_declaring : (wellKnown.filter d.declares ++ others).Nodup := by
  have hknown : wellKnown.Nodup := by decide
  have hothers : others.Nodup := by
    refine h.sorted.imp ?_
    rintro a b hlt rfl
    exact String.lt_irrefl a hlt
  refine (hknown.filter _).append hothers fun name hfront hback => ?_
  exact ((h.mem name).1 hback).1 (List.mem_filter.1 hfront).1

end IsOthers

/-- **Sections partition what is declared** if each component has a place. -/
theorem partition_of_placed {last : String} (hlast : last = "display" ∨ last = "lvgl")
    (hplaced : ∀ c ∈ d.components, c.IsPlaced) (hdistinct : (d.declarations.map Declaration.id).Nodup)
    {fonts display : Section} (hfonts : fonts.name = "font") (hdisplay : display.name = last) :
    d.Partition last (d.sections ++ [fonts] ++ [display]) := by
  obtain ⟨others, hothers, hsections⟩ := d.sections_eq hplaced
  have hnames : (d.sections ++ [fonts] ++ [display]).map Section.name
      = ["globals", "time"] ++ wellKnown.filter d.declares ++ others ++ ["font", last] := by
    have hself : Section.name ∘ d.sectionOf = id := rfl
    rw [hsections, List.map_append, List.map_append, List.map_cons, List.map_cons, List.map_map, hself,
      List.map_id, List.map_singleton, List.map_singleton, hfonts, hdisplay]
    simp [timeSection]
  have hapart : ∀ name ∈ ["globals", "time", "font", last], d.declares name = false := by
    have hfixed : ∀ name ∈ ["globals", "time", "font", last],
        name ∉ sensorNames ∧ name ∉ Component.sectionNames := by
      rcases hlast with rfl | rfl <;> decide
    exact fun name hname => declares_eq_false hplaced (hfixed name hname).1 (hfixed name hname).2
  have hnodup : ((d.sections ++ [fonts] ++ [display]).map Section.name).Nodup := by
    -- Nothing is declared under a fixed name, and something under each of the others.
    have hfixed : ["font", last, "globals", "time"].Nodup := by
      rcases hlast with rfl | rfl <;> decide
    have hdisjoint : ["font", last, "globals", "time"].Disjoint (wellKnown.filter d.declares ++ others) := by
      intro name hname hdeclaring
      have hfalse := hapart name (by simpa [or_comm, or_left_comm, or_assoc] using hname)
      rw [hothers.mem_declaring.1 hdeclaring] at hfalse
      cases hfalse
    rw [hnames, List.append_assoc ["globals", "time"]]
    exact List.perm_append_comm.nodup_iff.2 (hfixed.append hothers.nodup_declaring hdisjoint)
  constructor
  case order => exact ⟨others, hothers, hnames⟩
  case nodup => exact hnodup
  case front =>
    rw [hsections]
    exact ⟨_, rfl⟩
  case lines =>
    intro s hs hname
    rw [hsections, List.append_assoc] at hs
    rcases List.mem_append.1 hs with hs | hs
    · rcases List.mem_cons.1 hs with rfl | hs
      · exact absurd List.mem_cons_self hname
      · rcases List.mem_cons.1 hs with rfl | hs
        · exact absurd (List.mem_cons_of_mem _ List.mem_cons_self) hname
        · obtain ⟨name, -, rfl⟩ := List.mem_map.1 hs
          rfl
    · simp only [List.mem_append, List.mem_singleton] at hs
      rcases hs with rfl | rfl
      · simp [hfonts] at hname
      · simp [hdisplay] at hname
  case apart =>
    intro name hname
    simpa [declares] using hapart name hname
  case once =>
    -- Grouping by names that differ keeps every declaration whose section is among them.
    have hcovered : ∀ x ∈ d.declarations,
        x.sectionName ∈ (d.sections ++ [fonts] ++ [display]).map Section.name := by
      intro x hx
      have hdeclaring := hothers.mem_declaring.2 (declares_iff.2 ⟨x, hx, rfl⟩)
      rw [hnames, List.append_assoc ["globals", "time"]]
      exact List.mem_append_left _ (List.mem_append_right _ hdeclaring)
    have hperm := Keyed.flatMap_filter_perm Declaration.sectionName hnodup hcovered
    simp only [← declarationsIn_eq, List.flatMap_map] at hperm
    exact hperm
  case distinct => exact hdistinct

end Declared

/-! ## The whole artifact -/

/-- Sections of names that differ make a document of them all, in their order. -/
theorem Section.document_of_nodup {sections : List Section} (h : (sections.map Section.name).Nodup) :
    document sections = .object (sections.map fun s => (s.name, .array (s.lines.map .string))) := by
  have hkeys : Keyed.keys (sections.map fun s => (s.name, Json.array (s.lines.map .string)))
      = sections.map Section.name := by
    rw [Keyed.keys, List.map_map]
    rfl
  rw [document, Keyed.ofPairs, Keyed.foldl_put_of_nodup (hkeys ▸ h) fun _ _ => List.not_mem_nil,
    List.nil_append]

namespace Project

/-- The name of the section of the display. -/
def displayName : Mode → String
  | .retained => "lvgl"
  | _ => "display"

section

variable [Qr.Encoder] {p : Project} {config : Config}

theorem name_displaySection (p : Project) (config : Config) :
    (p.displaySection config).name = displayName config.mode := by
  unfold displaySection
  cases config.mode <;> rfl

theorem nodup_declarations (p : Project) (mode : Mode) (device : Device) :
    ((p.declare mode device).declarations.map Declaration.id).Nodup := by
  have hids : ∀ d : Declared, d.declarations.map Declaration.id
      = d.sensors.map Sensor.id ++ d.components.map Component.key := by
    intro d
    rw [Declared.declarations, List.map_append, List.map_map, List.map_map]
    rfl
  have hdistinct := (followsLedger_declare p mode device).distinct
  rw [List.nodup_cons] at hdistinct
  rw [hids]
  exact hdistinct.2.of_append_left

theorem document_sections (hmode : config.mode = .direct ∨ config.mode = .retained) :
    ∃ rest, (p.compile config).artifact.document
      = .object (("sections", Section.document (p.declarationSections config)) :: rest) := by
  rcases hmode with hmode | hmode
  · have hcompile : p.compile config = .withDeclarations p config DisplayLambda.form DisplayLambda.write := by
      rw [compile, hmode]
    have hgeneration : p.generation config = registries config (p.visit DisplayLambda.form config) := by
      rw [generation, hmode]
    rw [hcompile, declarationSections, hgeneration]
    exact ⟨_, rfl⟩
  · have hcompile : p.compile config = .withDeclarations p config PageTree.form PageTree.write := by
      rw [compile, hmode]
    have hgeneration : p.generation config = registries config (p.visit PageTree.form config) := by
      rw [generation, hmode]
    rw [hcompile, declarationSections, hgeneration]
    exact ⟨_, rfl⟩

/-- **Sections partition the declarations of a project.** The text of an artifact is its sections one
behind the other, and the document has all but the last of them under their names. -/
theorem partition_sections (hmode : config.mode = .direct ∨ config.mode = .retained) :
    (p.compile config).artifact.text = Section.renderAll (p.sections config)
      ∧ (∃ rest, (p.compile config).artifact.document
          = .object (("sections", .object ((p.declarationSections config).map fun s =>
              (s.name, .array (s.lines.map .string)))) :: rest))
      ∧ (p.declare config.mode config.device).Partition (displayName config.mode) (p.sections config) := by
  have hpartition : (p.declare config.mode config.device).Partition (displayName config.mode)
      (p.sections config) := by
    refine Declared.partition_of_placed ?_ (fun c hc => isPlaced_component hc)
      (nodup_declarations p config.mode config.device) rfl (p.name_displaySection config)
    rcases hmode with hmode | hmode
    · exact Or.inl (hmode ▸ rfl)
    · exact Or.inr (hmode ▸ rfl)
  refine ⟨text_sections hmode, ?_, hpartition⟩
  obtain ⟨rest, hdocument⟩ := document_sections (p := p) hmode
  have hnodup := hpartition.nodup
  rw [sections, List.map_append] at hnodup
  exact ⟨rest, by rw [hdocument, Section.document_of_nodup hnodup.of_append_left]⟩

end

/-- A reading and the gauge of a signal share a section; an image that is downloaded has three, one of
which has no fixed place. -/
theorem partition_sections_signal :
    let reading : Widget := { id := "r", type := "sensor_text", entityId := some "sensor.a" }
    let signal : Widget := { id := "s", type := "wifi_signal" }
    let picture : Widget := { id := "i", type := "online_image", props := [("url", .string "http://a/b.png")] }
    let p : Project := { pages := [{ widgets := [picture, signal, reading] }] }
    let config : Config := {}
    (p.sections config).map Section.name
        = ["globals", "time", "sensor", "http_request", "online_image", "interval", "font", "display"]
      ∧ (∃ s ∈ p.sections config, s.name = "sensor" ∧ s.lines
          = ["  - platform: homeassistant", "    id: sensor_a", "    entity_id: sensor.a",
            "    internal: true", "  - platform: wifi_signal", "    id: wifi_signal_dbm",
            "    update_interval: 60s"])
      ∧ (p.compile config).artifact.text = Section.renderAll (p.sections config)
      ∧ (p.declare .direct config.device).Partition "display" (p.sections config) := by
  intro reading signal picture p config
  obtain ⟨htext, -, hpartition⟩ := @partition_sections _ p config (Or.inl rfl)
  exact ⟨by decide +kernel, by decide +kernel, htext, hpartition⟩

end Project

end DisplayLayout
