import DisplayLayout.Proofs.Artifact.DisplayLambda
import DisplayLayout.Proofs.Marker.Condition
import DisplayLayout.Proofs.Widget.Determined
import DisplayLayout.Qr.Symbol
import Mathlib.Algebra.Group.Nat.Defs

/-!
# Display lambdas are compiled again

What is recovered from a display lambda is drawn as before: a marker keeps all
that is read of a widget, and of its condition all that is checked. So the
project that is read back from a display lambda compiles to the same text
(`recompile`).
-/

namespace DisplayLayout

/-! ## Widgets -/

namespace Widget

/-- A widget with no condition, or with one whose marker keeps all that is checked. -/
def IsKept (w : Widget) : Prop := ∀ c ∈ Condition.ofWidget? w, c.IsKept

variable [Qr.Encoder] {w : Widget} {k : Kind}

theorem agree_recovered_of_type (htype : w.type = k.tag) :
    View.Agree k.behaviour.table (w.view k.behaviour) (w.recovered.view k.behaviour) := by
  rw [recovered_of_type htype]
  exact w.agree_recovered k

theorem type_recovered (w : Widget) : w.recovered.type = w.type := by
  rw [recovered]
  split <;> rfl

theorem behaviourIn?_recovered (w : Widget) (mode : Mode) :
    w.recovered.behaviourIn? mode = w.behaviourIn? mode := by
  rw [behaviourIn?, behaviour?, kind?, type_recovered]
  rfl

theorem marker_recovered (htype : w.type = k.tag) :
    (w.recovered.view k.behaviour).marker = (w.view k.behaviour).marker := by
  rw [recovered_of_type htype, View.marker_eq k.writable_table, View.marker_eq k.writable_table,
    fields_recovered]
  rfl

theorem ofWidget?_recovered (htype : w.type = k.tag) :
    Condition.ofWidget? w.recovered = (Condition.ofWidget? w).map Condition.kept := by
  rw [recovered_of_type htype]
  exact (w.view k.behaviour).ofWidget?_recovered

/-- The statements of a widget stand behind the same check. -/
theorem guarded_recovered (htype : w.type = k.tag) (h : w.IsKept) (body : List String) :
    DisplayLambda.guarded w.recovered body = DisplayLambda.guarded w body := by
  rw [DisplayLambda.guarded, DisplayLambda.guarded, ofWidget?_recovered htype]
  cases hc : Condition.ofWidget? w with
  | none => rfl
  | some c =>
    dsimp only [Option.map_some]
    rw [Condition.check_kept (h c hc)]

/-- **A widget becomes the same block.** -/
theorem emission_recovered {b : Behaviour} (hb : w.behaviourIn? .direct = some b) (h : w.IsKept)
    (s : Surface) :
    DisplayLambda.form.emission s b w.recovered = DisplayLambda.form.emission s b w := by
  obtain ⟨k, htype, rfl, -⟩ := exists_kind_of_behaviourIn? hb
  have hagree := agree_recovered_of_type htype
  have hid : w.recovered.id = w.id := hagree.id
  unfold Form.emission DisplayLambda.form DisplayLambda.block DisplayLambda.emptyEvent
  dsimp only
  rw [k.direct_congr hagree, k.requirements_congr hagree, marker_recovered htype]
  dsimp only [Widget.view]
  rw [guarded_recovered htype h, hid]

/-- **A widget asks for the same.** -/
theorem requests_recovered (htype : w.type = k.tag) (around : Surroundings) :
    w.recovered.requests around = w.requests around := by
  have hagree := agree_recovered_of_type htype
  have hcondition : ((Condition.ofWidget? w.recovered).map Condition.sensor).toList
      = ((Condition.ofWidget? w).map Condition.sensor).toList := by
    rw [ofWidget?_recovered htype, Option.map_map]
    congr 2
    exact funext Condition.sensor_kept
  rw [requests, requests, behaviourIn?_recovered]
  cases hb : w.behaviourIn? around.mode with
  | none => rfl
  | some b =>
    obtain ⟨j, hj, rfl, -⟩ := exists_kind_of_behaviourIn? hb
    obtain rfl : j = k := Kind.tag_injective (hj.symm.trans htype)
    dsimp only
    rw [readSensors, readSensors, j.sensors_congr hagree, hcondition, j.components_congr hagree,
      j.globals_congr hagree]

end Widget

/-! ## Pages -/

/-- Whatever is read of the supported widgets only is read of what comes back of them. -/
theorem Page.flatMap_recovered [Qr.Encoder] {α : Type} {mode : Mode} {f g : Widget → List α}
    {p : Page} (hnone : ∀ w, w.behaviourIn? mode = none → f w = [])
    (hsome : ∀ w ∈ p.supported mode, g w.recovered = f w) :
    ((p.supported mode).map Widget.recovered).flatMap g = p.widgets.flatMap f := by
  have hsupported : (p.supported mode).flatMap f = p.widgets.flatMap f := by
    rw [Page.supported]
    generalize p.widgets = ws
    induction ws with
    | nil => rfl
    | cons w ws ih =>
      cases hb : w.behaviourIn? mode with
      | none =>
        rw [List.filter_cons_of_neg (by simp [hb]), List.flatMap_cons, hnone w hb, List.nil_append, ih]
      | some b => rw [List.filter_cons_of_pos (by simp [hb]), List.flatMap_cons, List.flatMap_cons, ih]
  rw [List.flatMap_map, ← hsupported]
  exact List.flatMap_congr hsome

namespace Project

variable [Qr.Encoder] {p : Project}

/-- All that the widgets of a project ask for, page by page. -/
theorem requests_eq (p : Project) (mode : Mode) (device : Device) :
    p.requests mode device = (p.pages.mapIdx fun i page =>
      page.widgets.flatMap (Widget.requests ⟨mode, p.pages.length, i, device⟩)).flatten := by
  rw [requests, situated]
  simp only [List.mapIdx_eq_zipIdx_map, ← List.flatMap_def, List.flatMap_assoc, List.flatMap_map]

/-- **A project asks for the same again.** -/
theorem requests_roundTrip (p : Project) (device : Device) :
    (p.roundTrip .direct).requests .direct device = p.requests .direct device := by
  have hlength : (p.roundTrip .direct).pages.length = p.pages.length := List.length_mapIdx
  rw [requests_eq, requests_eq, hlength]
  refine congrArg List.flatten (mapIdx_roundTrip fun i page _ => ?_)
  refine Page.flatMap_recovered (fun w hw => ?_) (fun w hw => ?_)
  · rw [Widget.requests]
    dsimp only
    rw [hw]
  · obtain ⟨-, k, htype, -⟩ := Widget.exists_kind_of_mem_supported hw
    exact Widget.requests_recovered htype _

theorem declare_roundTrip (p : Project) (device : Device) :
    (p.roundTrip .direct).declare .direct device = p.declare .direct device := by
  rw [declare, requests_roundTrip, declare]

end Project

namespace DisplayLambda

section

variable [Qr.Encoder] {config : Config}

section Page

variable {page : Page} {dark : Bool} (hdark : page.theme.isDark false = page.theme.isDark dark)

include hdark

theorem surface_roundTrip (index : Nat) :
    (VisitedPage.ofPage form config false (page.roundTrip .direct index)).surface
      = (VisitedPage.ofPage form config dark page).surface :=
  congrArg (Surface.mk config.device) hdark

/-- What is emitted on a page is emitted again on the one that comes back. -/
theorem emissions_roundTrip (hmode : config.mode = .direct) (hkept : ∀ w ∈ page.widgets, w.IsKept)
    (index : Nat) :
    (VisitedPage.ofPage form config false (page.roundTrip .direct index)).emissions
      = (VisitedPage.ofPage form config dark page).emissions := by
  have hwidgets : (page.roundTrip .direct index).widgets
      = (page.supported .direct).map Widget.recovered := rfl
  rw [VisitedPage.emissions_ofPage, VisitedPage.emissions_ofPage, surface_roundTrip hdark, hmode,
    hwidgets, List.filterMap_eq_flatMap_toList, List.filterMap_eq_flatMap_toList]
  refine Page.flatMap_recovered (fun w hw => ?_) (fun w hw => ?_)
  · rw [hw]
    rfl
  · have hmem : w ∈ page.widgets := (List.mem_filter.1 hw).1
    rw [Widget.behaviourIn?_recovered]
    exact congrArg Option.toList
      (Option.map_congr fun b hb => Widget.emission_recovered hb (hkept w hmem) _)

/-- The branch of a page does not change. -/
theorem pageLines_roundTrip (hmode : config.mode = .direct) (hkept : ∀ w ∈ page.widgets, w.IsKept)
    (index : Nat) :
    pageLines index (VisitedPage.ofPage form config false (page.roundTrip .direct index))
      = pageLines index (VisitedPage.ofPage form config dark page) := by
  rw [pageLines, pageLines, VisitedPage.contents, VisitedPage.contents,
    emissions_roundTrip hdark hmode hkept, surface_roundTrip hdark]
  rfl

end Page

/-- **The text of what comes back is the same text.** -/
theorem text_compile_roundTrip {p : Project} (hmode : config.mode = .direct)
    (hkept : ∀ w ∈ p.widgets, w.IsKept)
    (hdark : p.dark = false ∨ ∀ page ∈ p.pages, page.theme ≠ .inherit) :
    ((p.roundTrip .direct).compile config).artifact.text = (p.compile config).artifact.text := by
  have hpage : ∀ page ∈ p.pages, page.theme.isDark false = page.theme.isDark p.dark
      ∧ ∀ w ∈ page.widgets, w.IsKept := by
    intro page hmem
    refine ⟨?_, fun w hw => hkept w (List.mem_flatMap.2 ⟨page, hmem, hw⟩)⟩
    rcases hdark with hdark | hdark
    · rw [hdark]
    · -- A page with a theme of its own does not look at that of the project.
      cases htheme : page.theme with
      | inherit => exact absurd htheme (hdark page hmem)
      | _ => rfl
  have hemissions : ((p.roundTrip .direct).visit form config).flatMap VisitedPage.emissions
      = (p.visit form config).flatMap VisitedPage.emissions := by
    have hindexed : ∀ visited : List (VisitedPage (List String)),
        visited.map VisitedPage.emissions = visited.mapIdx fun _ v => v.emissions :=
      fun visited => List.ext_getElem (by simp) (by simp)
    rw [List.flatMap_def, List.flatMap_def, hindexed, hindexed, Project.mapIdx_visit,
      Project.mapIdx_visit]
    exact congrArg List.flatten (Project.mapIdx_roundTrip fun i page hmem =>
      emissions_roundTrip (hpage page hmem).1 hmode (hpage page hmem).2 i)
  have hregistries : registries config ((p.roundTrip .direct).visit form config)
      = registries config (p.visit form config) := by
    rw [registries, hemissions, registries]
  have hpages : ((p.roundTrip .direct).visit form config).mapIdx pageLines
      = (p.visit form config).mapIdx pageLines := by
    rw [Project.mapIdx_visit, Project.mapIdx_visit]
    exact Project.mapIdx_roundTrip fun i page hmem =>
      pageLines_roundTrip (hpage page hmem).1 hmode (hpage page hmem).2 i
  rw [text_compile hmode, text_compile hmode, Project.declare_roundTrip]
  dsimp only
  rw [hregistries, lines, hpages, lines]

/-- **Compiling what comes back reproduces the text.** The project that is read back from a display
lambda compiles to the same text, byte for byte. A range that is asked of an entity that is on or
off is the one condition that a marker does not keep, and the theme of the project is kept only on
pages that say their own. -/
theorem recompile {p : Project} (hloaded : p.IsLoaded) (hpages : p.pages ≠ [])
    (hcount : p.pages.length ≤ 2 ^ 32) (hunbroken : ∀ w ∈ p.widgets, w.IsUnbroken .direct)
    (hrange : ∀ w ∈ p.widgets, ∀ c ∈ Condition.ofWidget? w,
      c.operator = .range → isBinaryEntity c.entityId = false)
    (hdark : p.dark = false ∨ ∀ page ∈ p.pages, page.theme ≠ .inherit)
    (hmode : config.mode = .direct) (hdisplay : config.device.IsNamed) :
    ∃ l, Project.ofAnyText (p.compile config).artifact.text = .ok l
      ∧ (l.project.compile config).artifact.text = (p.compile config).artifact.text := by
  obtain ⟨l, hl, hproject⟩ :=
    ofAnyText_compile hloaded.isNormal hpages hcount hunbroken hmode hdisplay
  refine ⟨l, hl, ?_⟩
  rw [hproject]
  exact text_compile_roundTrip hmode hrange hdark

end

/-- A widget with a condition, an entity with blanks around it and a property of the wrong type. -/
theorem recompile_conditional :
    let p : Project := { pages := [{ id := "home", name := "Home", theme := .dark, widgets := [
      { id := "a", type := "progress_bar", x := 1, y := 2, width := 30, height := 40,
        entityId := some " sensor.charge ", title := some "Charge",
        conditionEntity := some "switch.lamp", conditionState := some "on",
        props := [("bar_height", .string "12")] }] }], dark := true }
    p.IsLoaded ∧ ∃ l, Project.ofAnyText (p.compile {}).artifact.text = .ok l
      ∧ (l.project.compile {}).artifact.text = (p.compile {}).artifact.text := by
  intro p
  let document : Json := .object [("dark_mode", .bool true), ("pages", .array [.object [
    ("id", .string "home"), ("name", .string "Home"), ("dark_mode", .string "dark"),
    ("widgets", .array [.object [("id", .string "a"), ("type", .string "progress_bar"),
      ("x", .number (.int 1)), ("y", .number (.int 2)), ("width", .number (.int 30)),
      ("height", .number (.int 40)), ("entity_id", .string " sensor.charge "),
      ("title", .string "Charge"), ("condition_entity", .string "switch.lamp"),
      ("condition_state", .string "on"), ("props", .object [("bar_height", .string "12")])]])]])]
  have hloaded : p.IsLoaded := Or.inl ⟨document, ⟨p, []⟩, rfl, rfl⟩
  refine ⟨hloaded, recompile hloaded (by decide) (by decide) ?_ ?_ (Or.inr (by decide)) rfl
    ⟨by decide, by decide⟩⟩
  · intro w hw
    cases List.mem_singleton.1 hw
    exact ⟨by decide, by decide, by decide, by decide⟩
  · intro w hw c hc
    cases List.mem_singleton.1 hw
    cases hc
    exact fun h => absurd h (by decide)

end DisplayLambda

end DisplayLayout
