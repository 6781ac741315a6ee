import DisplayLayout.Proofs.Artifact.DisplayLambda
import DisplayLayout.Proofs.Artifact.PageTree
import DisplayLayout.Proofs.Assets
import DisplayLayout.Qr.Symbol

/-!
# Rows of declarations

Before the display, an artifact declares what it needs, in sections with names
of their own. Each row of a section begins with two blanks, stands on one line
unless it copies a text of a widget as it is (`Project.Copies`), and declares
no identifier but those that are made for it (`Project.Names`). So a section
has the lines that its rows say if no text of a widget has a line feed, and a
text that has one adds lines of its own (`Project.rows_declarationSections`).
-/

namespace DisplayLayout

open Text

/-! ## The sections of an artifact -/

namespace Project

variable [Qr.Encoder]

/-- The registries after a run. -/
def generation (p : Project) (config : Config) : Generation :=
  match config.mode with
  | .direct => registries config (p.visit DisplayLambda.form config)
  | _ => registries config (p.visit PageTree.form config)

/-- The sections of an artifact but for that of the display. -/
def declarationSections (p : Project) (config : Config) : List Section :=
  (p.declare config.mode config.device).sections ++ [fontSection (p.generation config)]

/-- The section of the display. -/
def displaySection (p : Project) (config : Config) : Section :=
  match config.mode with
  | .retained => PageTree.treeSection config.device (p.visit PageTree.form config)
  | _ => DisplayLambda.displaySection config.device
      (DisplayLambda.lines (p.generation config) (p.visit DisplayLambda.form config))

/-- The sections of an artifact. -/
def sections (p : Project) (config : Config) : List Section :=
  p.declarationSections config ++ [p.displaySection config]

/-- An artifact is its sections one behind the other. -/
theorem text_sections {p : Project} {config : Config}
    (hmode : config.mode = .direct ∨ config.mode = .retained) :
    (p.compile config).artifact.text = Section.renderAll (p.sections config) := by
  rcases hmode with hmode | hmode
  · rw [sections, declarationSections, displaySection, generation, hmode]
    exact DisplayLambda.text_compile hmode
  · rw [sections, declarationSections, displaySection, generation, hmode]
    exact PageTree.text_compile hmode

theorem exists_text_compile (p : Project) {config : Config}
    (hmode : config.mode = .direct ∨ config.mode = .retained) :
    ∃ display, (p.compile config).artifact.text
      = Section.renderAll (p.declarationSections config ++ [display]) :=
  ⟨p.displaySection config, text_sections hmode⟩

end Project

/-! ## Sections that are made of rows -/

/-- The names that a section of declarations may have. -/
def Section.names : List String :=
  ["globals", "time", "sensor", "text_sensor", "binary_sensor", "http_request", "image",
    "online_image", "graph", "qr_code", "interval", "font"]

/-- A section of a known name that is made of such rows. -/
structure Section.IsMadeOf (Raw Named : String → Prop) (s : Section) : Prop where
  name : s.name ∈ names
  lines : ∀ row ∈ s.lines, IsRow Raw Named row

/-- A block in such a section. -/
structure Component.IsMadeOf (Raw Named : String → Prop) (c : Component) : Prop where
  sectionName : c.sectionName ∈ Section.names
  lines : ∀ row ∈ c.lines, Section.IsRow Raw Named row

/-! ## What rows copy and name -/

/-- The rows that have a text as it is. Four texts are those of widgets: the entity of a sensor, the
entity that a touch switches, the time that a graph covers, and the family of a font. The device
brings the identifier of the display. -/
inductive Project.Copies [Qr.Encoder] (p : Project) (config : Config) : String → Prop
  | entity {s : Sensor} (hs : s ∈ (p.declare config.mode config.device).sensors) :
      Copies p config ("    entity_id: " ++ s.entityId)
  | toggle {w : Widget} (hw : w ∈ p.widgets) (htype : w.type = Kind.tag .touchArea) {entity : String}
      (hentity : w.entity? = some entity) : Copies p config ("                  entity_id: " ++ entity)
  | duration {w : Widget} (hw : w ∈ p.widgets) (htype : w.type = Kind.tag .graph) :
      Copies p config ("    duration: " ++ trim ((w.view Graph.behaviour).text "duration"))
  | family {f : Font} (hf : f ∈ (p.generation config).fonts.map Prod.snd) :
      Copies p config ("      family: " ++ f.family)
  | display {lead : String} (hlead : Section.isPlain lead = true) :
      Copies p config (lead ++ config.device.displayId)

/-- The identifiers that sections declare. -/
inductive Project.Names [Qr.Encoder] (p : Project) (config : Config) : String → Prop
  | time : Names p config Ledger.timeSource
  | signal : Names p config SignalGauge.localId
  | globalVariable {g : Global} (hg : g ∈ (p.declare config.mode config.device).globals) :
      Names p config g.id
  | sensor {s : Sensor} (hs : s ∈ (p.declare config.mode config.device).sensors) :
      Names p config s.id
  | component {w : Widget} (hw : w ∈ p.widgets) {k : Kind} (htype : w.type = k.tag) {lead : String}
      (hlead : (k, lead) ∈ Component.leads) : Names p config (lead ++ (w.view k.behaviour).ident)
  | asset {w : Widget} (hw : w ∈ p.widgets) {s : Image.Source} {location : String}
      (hshows : s.Shows w location) : Names p config (s.assetId w location)
  | defaultFont : Names p config (Font.of Font.defaultFamily 400 20 false).id
  | font {f : Font} (hf : f ∈ (p.generation config).fonts.map Prod.snd) : Names p config f.id
  | icons {q : Nat × List String} (hq : q ∈ (p.generation config).icons) :
      Names p config (Icon.fontId q.1)

/-! ## The rows of components -/

/-- What a widget of a project writes into its blocks is among what sections copy and name. -/
theorem Kind.writes_copies [Qr.Encoder] {p : Project} {config : Config} {w : Widget}
    (hw : w ∈ p.widgets)
    {k : Kind} (htype : w.type = k.tag) {around : Surroundings} (hdevice : around.device = config.device) :
    k.Writes (w.view k.behaviour) around (p.Copies config) (p.Names config) where
  display lead hlead := by
    simp only [Section.isSilentLead, Bool.and_eq_true] at hlead
    rw [hdevice]
    exact .display hlead.1.1
  toggle := by
    rintro rfl entity hentity
    exact .toggle hw htype hentity
  duration := by
    rintro rfl
    exact .duration hw htype
  signal := .signal
  own _ hlead := .component hw htype hlead
  file := by
    rintro rfl path hpath
    exact @Project.Names.asset _ p config w hw .file path ⟨htype, hpath⟩
  online := by
    rintro rfl url hurl
    exact @Project.Names.asset _ p config w hw .online url ⟨htype, hurl⟩

/-- A block of silent rows is made of rows. -/
theorem Component.IsBlock.isMadeOf {Raw Named : String → Prop} {c : Component} (h : c.IsBlock Raw Named) :
    c.IsMadeOf Raw Named where
  sectionName := by
    have hnames : ∀ name ∈ sectionNames, name ∈ Section.names := by decide
    exact hnames _ h.sectionName
  lines row hrow := (h.rows row hrow).toIsRow

/-! ## The rows of the other declarations -/

section Declared

open Section

variable [Qr.Encoder] {p : Project} {config : Config}

theorem Global.isSilentRow_lines {g : Global} (hg : g ∈ (p.declare config.mode config.device).globals) :
    ∀ row ∈ g.lines, IsSilentRow (p.Copies config) (p.Names config) row := by
  have hsilent := Project.silent_globals hg
  unfold Global.Silent Global.lines at hsilent
  simp only [List.forall_mem_cons] at hsilent
  obtain ⟨hid, htype, -, hinitial, -⟩ := hsilent
  unfold Global.lines
  simp only [List.forall_mem_cons]
  refine ⟨?_, ?_, ?_, ?_, List.forall_mem_nil _⟩
  · exact isSilentRow_id (by decide) hid (.globalVariable hg)
  · exact isSilentRow_of_isPlain (by decide) (Or.inl htype.oneLine) htype.classify_eq
  · cases g.restore <;> exact isSilentRow_fixed (by decide)
  · rw [String.append_assoc] at hinitial ⊢
    exact isSilentRow_of_isPlain (by decide) (Or.inl hinitial.oneLine) hinitial.classify_eq

theorem Declared.isRow_sensorLines {s : Sensor}
    (hs : s ∈ (p.declare config.mode config.device).sensors) :
    ∀ row ∈ (p.declare config.mode config.device).sensorLines s,
      IsRow (p.Copies config) (p.Names config) row := by
  have hmade := Project.made_of_requests (Project.mem_requests_of_sensor hs)
  obtain ⟨raw, hid⟩ := hmade.exists_sanitize
  have hone : OneLine s.id := hid ▸
    (Identifier.isWordText_sanitize s.kind.isWordText_suffix raw).oneLine
  intro row hrow
  refine IsSilentRow.toIsRow (isSilentRow_sensorLines ?_ hone (.sensor hs) (.entity hs) ?_ row hrow)
  · exact p.silent_triggers config.mode config.device
  · exact fun name hname => Sensor.oneLine_builtIn name (hmade.mem_builtIn name hname)

theorem Project.isMadeOf_component {c : Component}
    (h : c ∈ (p.declare config.mode config.device).components) :
    c.IsMadeOf (p.Copies config) (p.Names config) := by
  obtain ⟨around, w, k, -, hdevice, hw, htype, hasks⟩ :=
    asks_of_mem_requests (mem_requests_of_component h)
  cases hasks with
  | component hc =>
    exact (Kind.isBlock_components (Kind.writes_copies hw htype hdevice) hc).isMadeOf

/-- **Every section of declarations is made of rows** that copy and name nothing else. -/
theorem Project.isMadeOf_sections {s : Section}
    (h : s ∈ (p.declare config.mode config.device).sections) :
    s.IsMadeOf (p.Copies config) (p.Names config) := by
  let Name (name : String) : Prop := name ∈ Section.names
  have hfixed : Name "globals" ∧ Name "time" := by decide
  have hkinds : ∀ kind : SensorKind, Name kind.sectionName := by
    intro kind
    cases kind <;> decide
  have htime : ∀ row ∈ Declared.timeSection.lines, IsRow (p.Copies config) (p.Names config) row := by
    unfold Declared.timeSection
    simp only [List.forall_mem_cons]
    exact ⟨(isSilentRow_fixed (by decide)).toIsRow, (isSilentRow_ownId (by decide) .time).toIsRow,
      List.forall_mem_nil _⟩
  obtain ⟨hname, hlines⟩ := Declared.forall_sections hfixed
    (fun _ hg row hrow => (Global.isSilentRow_lines hg row hrow).toIsRow) htime hkinds
    (fun _ hs => Declared.isRow_sensorLines hs)
    (fun _ hc => ⟨(isMadeOf_component hc).sectionName, (isMadeOf_component hc).lines⟩) s h
  exact ⟨hname, hlines⟩

/-! ## The rows of fonts -/

theorem Project.plain_icons (p : Project) (config : Config) : (p.generation config).icons.Plain := by
  have hstart : Icons.Plain [] := fun _ hq => absurd hq List.not_mem_nil
  let motive (g : Generation) : Prop := g.icons.Plain
  unfold generation
  split
  · exact registries_induct (motive := motive) config hstart fun _ _ e _ _ hg => hg.absorb e.uses
  · exact registries_induct (motive := motive) config hstart fun _ _ e _ _ hg => hg.absorb e.uses

theorem Project.isMadeOf_fontSection (p : Project) (config : Config) :
    (fontSection (p.generation config)).IsMadeOf (p.Copies config) (p.Names config) where
  name := by
    have hname : "font" ∈ Section.names := by decide
    exact hname
  lines row hrow := by
    have hfont : ∀ q ∈ (p.generation config).fonts, p.Names config q.2.id
        ∧ p.Copies config ("      family: " ++ q.2.family) := by
      intro q hq
      have hf : q.2 ∈ (p.generation config).fonts.map Prod.snd := List.mem_map_of_mem hq
      exact ⟨.font hf, .family hf⟩
    have hsilent : IsSilentRow (p.Copies config) (p.Names config) row :=
      Generation.isSilentRow_fontLines (p.plain_icons config) .defaultFont hfont (fun _ hq => .icons hq)
        row hrow
    exact hsilent.toIsRow

/-- **All sections before that of the display are made of such rows.** -/
theorem Project.isMadeOf_declarationSections (p : Project) (config : Config) :
    ∀ s ∈ p.declarationSections config, s.IsMadeOf (p.Copies config) (p.Names config) := by
  rw [declarationSections, List.forall_mem_append, List.forall_mem_singleton]
  exact ⟨fun s hs => isMadeOf_sections hs, p.isMadeOf_fontSection config⟩

end Declared

/-! ## Whole artifacts -/

/-- Sections of rows on one line each stand in a text line by line, whatever comes last. -/
theorem Section.splitOn_renderAll {front : List Section} (hne : front ≠ [])
    (h : ∀ row ∈ rows front, OneLine row) (last : Section) :
    ∃ rest, splitOn '\n' (renderAll (front ++ [last])).toList
      = (rows front).map String.toList ++ rest := by
  refine ⟨splitOn '\n' (unlines ("" :: last.render)).toList, ?_⟩
  rw [renderAll_eq (List.concat_ne_nil _ _), rows_concat hne, unlines_append, String.toList_append,
    splitOn_unlines_append]
  congr 1
  generalize rows front = rows at h
  induction rows with
  | nil => rfl
  | cons row rows ih =>
    rw [List.forall_mem_cons] at h
    rw [List.flatMap_cons, splitOn_eq_singleton h.1, ih h.2]
    rfl

section Artifact

variable [Qr.Encoder] {p : Project} {config : Config}
  (hmode : config.mode = .direct ∨ config.mode = .retained)

include hmode

theorem Project.silent_declarationSections (hdisplay : OneLine config.device.displayId)
    (hunbroken : ∀ w ∈ p.widgets, w.IsUnbroken config.mode) : ∀ s ∈ p.declarationSections config, s.Silent := by
  have hplain : (p.generation config).PlainFonts := by
    rcases hmode with hmode | hmode
    · rw [generation, hmode]
      exact plainFonts_registries DisplayLambda.plainFonts_form hunbroken
    · rw [generation, hmode]
      exact plainFonts_registries PageTree.plainFonts_form hunbroken
  rw [declarationSections, List.forall_mem_append, List.forall_mem_singleton]
  exact ⟨(silent_declare hunbroken hdisplay).sections, hplain.silent_fontSection⟩

/-- **The sections of an artifact have the lines of their rows, but for texts that are copied.** Each
section has a known name, and each of its rows begins with two blanks and has no line feed unless it
copies a text as it is. Where no such text has a line feed, the lines before the display are just
the rows of the sections. -/
theorem Project.rows_declarationSections :
    ∃ display, (p.compile config).artifact.text
        = Section.renderAll (p.declarationSections config ++ [display])
      ∧ (∀ s ∈ p.declarationSections config, s.name ∈ Section.names ∧ ∀ row ∈ s.lines,
          "  ".toList <+: row.toList ∧ (OneLine row ∨ p.Copies config row))
      ∧ (OneLine config.device.displayId → (∀ w ∈ p.widgets, w.IsUnbroken config.mode) →
          (∀ s ∈ p.declarationSections config, ∀ row ∈ s.lines, OneLine row)
            ∧ ∃ rest, splitOn '\n' (p.compile config).artifact.text.toList
                = (Section.rows (p.declarationSections config)).map String.toList ++ rest) := by
  obtain ⟨display, htext⟩ := p.exists_text_compile hmode
  refine ⟨display, htext, fun s hs => ?_, fun hdisplay hunbroken => ?_⟩
  · have hmade := p.isMadeOf_declarationSections config s hs
    exact ⟨hmade.name, fun row hrow => ⟨(hmade.lines row hrow).indented, (hmade.lines row hrow).plain⟩⟩
  · have hsilent := silent_declarationSections hmode hdisplay hunbroken
    refine ⟨fun s hs row hrow => (hsilent s hs row (List.mem_cons_of_mem _ hrow)).oneLine, ?_⟩
    rw [htext]
    exact Section.splitOn_renderAll (List.concat_ne_nil _ _)
      (fun row hrow => (Section.silent_rows hsilent row hrow).oneLine) display

end Artifact

/-- A project of one widget. -/
def Project.single (w : Widget) : Project := { pages := [{ widgets := [w] }] }

/-- A graph of one hour declares a sensor, a graph and a font, all of them line by line. -/
theorem Project.rows_declarationSections_hour :
    let w : Widget :=
      { id := "g", type := "graph", entityId := some "sensor.a", props := [("duration", .string "1h")] }
    let sections := (single w).declarationSections {}
    (∃ s ∈ sections, "    duration: 1h" ∈ s.lines)
      ∧ (∀ s ∈ sections, ∀ row ∈ s.lines, "  ".toList <+: row.toList ∧ OneLine row)
      ∧ ∃ rest, splitOn '\n' ((single w).compile {}).artifact.text.toList
          = (Section.rows sections).map String.toList ++ rest := by
  intro w sections
  have hunbroken : ∀ w' ∈ (single w).widgets, w'.IsUnbroken .direct :=
    List.forall_mem_singleton.2 ⟨by decide, by decide, by decide, by decide⟩
  obtain ⟨-, -, hrows, hplain⟩ :=
    @rows_declarationSections _ (single w) {} (Or.inl rfl)
  obtain ⟨hone, hlines⟩ := hplain (by decide) hunbroken
  refine ⟨by decide +kernel, fun s hs row hrow => ?_, hlines⟩
  exact ⟨((hrows s hs).2 row hrow).1, hone s hs row hrow⟩

/-- **A text of a widget may add a section.** The entity of a reading and that of a condition, the
time that a graph covers and the family of a font are copied as they are: a line feed in one of them
begins a line, and what stands behind it a section. -/
theorem Project.exists_copied_section :
    let reading : Widget := { id := "t", type := "sensor_text", entityId := some "sensor.a\nwifi:" }
    let shown : Widget := { id := "t", type := "text", conditionEntity := some "sensor.a\nwifi:" }
    let history : Widget :=
      { id := "g", type := "graph", entityId := some "sensor.a",
        props := [("duration", .string "1h\nwifi:")] }
    let caption : Widget :=
      { id := "t", type := "text", props := [("font_family", .string "Noto\nwifi:")] }
    let tree : Config := { mode := .retained }
    (∀ w ∈ [reading, shown, history, caption], ∃ s ∈ (single w).declarationSections {},
        ∃ row ∈ s.lines, "wifi:" ∈ lines row)
      ∧ ∀ w ∈ [reading, caption], ∃ s ∈ (single w).declarationSections tree,
          ∃ row ∈ s.lines, "wifi:" ∈ lines row := by
  decide +kernel

end DisplayLayout
