import DisplayLayout.Proofs.Artifact.Emitted

/-!
# One state for a whole run

A display lambda can be drawn with one state that all widgets share: each takes
in what its type requires, then its fonts, glyphs and helpers, and its statements
go to a buffer, which is taken before the next widget. The buffer is empty between
widgets (`Generation.draw_eq`), so such a run draws every widget as if it were the
only one, and it ends with the same registries (`Project.drawPages_eq`).
-/

namespace DisplayLayout

namespace Generation

/-! ## The run -/

/-- Draws a widget, and takes its statements. -/
def draw (g : Generation) (b : Behaviour) (v : View) : List String × Generation :=
  ((g.absorb (b.requirements v)).absorb (b.direct v g.surface)).takeLines

/-- Draws the widgets that the mode supports, one after the other. -/
def drawAll [Qr.Encoder] (g : Generation) : List Widget → List (List String) × Generation
  | [] => ([], g)
  | w :: ws =>
    match w.behaviourIn? g.mode with
    | none => drawAll g ws
    | some b =>
      let drawn := g.draw b (w.view b)
      let rest := drawAll drawn.2 ws
      (DisplayLambda.block (w.view b) drawn.1 :: rest.1, rest.2)

/-- A state on a page of a theme. -/
def themed (g : Generation) (dark : Bool) : Generation := { g with dark }

/-- Draws pages, each in its theme. -/
def drawPages [Qr.Encoder] (projectDark : Bool) (g : Generation) :
    List Page → List (List (List String)) × Generation
  | [] => ([], g)
  | page :: pages =>
    let drawn := (g.themed (page.theme.isDark projectDark)).drawAll page.widgets
    let rest := drawPages projectDark drawn.2 pages
    (drawn.1 :: rest.1, rest.2)

end Generation

/-! ## One widget -/

theorem Drawing.lines_append (a b : Drawing) : (a ++ b).lines = a.lines ++ b.lines := rfl

theorem Drawing.lines_when {b : Bool} {d : Drawing} (h : d.lines = []) : (Drawing.when b d).lines = [] := by
  cases b
  · rfl
  · exact h

/-- What a type requires has no statements. -/
theorem Kind.lines_requirements [Qr.Encoder] (k : Kind) (v : View) :
    (k.behaviour.requirements v).lines = [] := by
  have hsome : ∀ (b : Behaviour) (f : View → Drawing), b.requirements = f → (f v).lines = [] →
      (b.requirements v).lines = [] := by
    intro b f hb hf
    rw [hb]
    exact hf
  cases k with
  | text => exact hsome Caption.behaviour _ rfl rfl
  | sensorText => exact hsome Readout.behaviour _ rfl rfl
  | datetime => exact hsome Clock.behaviour _ rfl rfl
  | calendar => exact hsome Calendar.behaviour _ rfl rfl
  | icon => exact hsome Symbol.behaviour _ rfl rfl
  | weatherIcon => exact hsome WeatherSymbol.behaviour _ rfl rfl
  | batteryIcon => exact hsome BatteryGauge.behaviour _ rfl (Drawing.lines_when rfl)
  | wifiSignal => exact hsome SignalGauge.behaviour _ rfl (Drawing.lines_when rfl)
  | progressBar => exact hsome ProgressBar.behaviour _ rfl (Drawing.lines_when rfl)
  | touchArea =>
    have hb : Kind.touchArea.behaviour = TouchArea.behaviour := rfl
    rw [hb]
    unfold TouchArea.behaviour
    dsimp only
    split <;> rfl
  | button => exact hsome Control.button _ rfl rfl
  | label => exact hsome Control.label _ rfl rfl
  | _ => exact hsome _ (fun _ => {}) rfl rfl

namespace Generation

theorem absorb_append (g : Generation) (a b : Drawing) : g.absorb (a ++ b) = (g.absorb a).absorb b := by
  have hfonts : (a ++ b).fonts = a.fonts ++ b.fonts := rfl
  have hglyphs : (a ++ b).glyphs = a.glyphs ++ b.glyphs := rfl
  have hhelpers : (a ++ b).helpers = a.helpers ++ b.helpers := rfl
  simp only [absorb, hfonts, hglyphs, hhelpers, Drawing.lines_append, List.foldl_append, List.append_assoc]

/-- **The buffer holds the statements of the widget that is drawn, and no others.** What is left is
the state after its emission, with an empty buffer again. -/
theorem draw_eq [Qr.Encoder] {g : Generation} (hclean : g.lines = []) (k : Kind) (w : Widget) :
    g.draw k.behaviour (w.view k.behaviour)
      = ((k.behaviour.direct (w.view k.behaviour) g.surface).lines,
          g.absorb (DisplayLambda.form.emission g.surface k.behaviour w).uses)
      ∧ (g.draw k.behaviour (w.view k.behaviour)).2.lines = [] := by
  have hrequired := k.lines_requirements (w.view k.behaviour)
  refine ⟨?_, rfl⟩
  rw [draw, takeLines, Form.emission]
  dsimp only [DisplayLambda.form]
  rw [absorb_append]
  simp only [absorb, hclean, hrequired, List.append_nil, List.nil_append]

/-! ## All widgets -/

/-- A state that takes in emissions. -/
def absorbAll {α : Type} (g : Generation) (emissions : List (Emission α)) : Generation :=
  emissions.foldl (fun g e => g.absorb e.uses) g

theorem absorbAll_append {α : Type} (g : Generation) (es more : List (Emission α)) :
    g.absorbAll (es ++ more) = (g.absorbAll es).absorbAll more := List.foldl_append

/-- The theme of a page does not matter to what is taken in. -/
theorem absorbAll_themed {α : Type} (g : Generation) (dark : Bool) (es : List (Emission α)) :
    (g.themed dark).absorbAll es = (g.absorbAll es).themed dark := by
  induction es generalizing g with
  | nil => rfl
  | cons e es ih => exact ih (g.absorb e.uses)

theorem mode_absorbAll {α : Type} (g : Generation) (es : List (Emission α)) :
    (g.absorbAll es).mode = g.mode ∧ (g.absorbAll es).device = g.device := by
  induction es generalizing g with
  | nil => exact ⟨rfl, rfl⟩
  | cons e es ih => exact ih (g.absorb e.uses)

/-- The widgets of a page, drawn with a state that they share, become what each of them becomes on
the surface of the page. -/
theorem drawAll_eq [Qr.Encoder] {g : Generation} (hclean : g.lines = []) (ws : List Widget) :
    let es := ws.filterMap fun w => (w.behaviourIn? g.mode).map fun b =>
      DisplayLambda.form.emission g.surface b w
    g.drawAll ws = (es.map Emission.content, g.absorbAll es) ∧ (g.drawAll ws).2.lines = [] := by
  induction ws generalizing g with
  | nil => exact ⟨rfl, hclean⟩
  | cons w ws ih =>
    rw [drawAll]
    cases hb : w.behaviourIn? g.mode with
    | none =>
      rw [List.filterMap_cons_none (by rw [hb]; rfl)]
      exact ih hclean
    | some b =>
      obtain ⟨k, -, rfl, -⟩ := Widget.exists_kind_of_behaviourIn? hb
      obtain ⟨hdrawn, hlines⟩ := draw_eq hclean k w
      -- What follows is drawn on the same surface, as nothing that is taken in changes it.
      obtain ⟨hrest, hclean'⟩ := ih hlines
      rw [List.filterMap_cons_some (by rw [hb]; rfl)]
      refine ⟨?_, hclean'⟩
      dsimp only
      rw [hrest, hdrawn]
      rfl

/-- **Pages drawn with a state that they share have the contents that they have on their own.** -/
theorem drawPages_eq [Qr.Encoder] {g : Generation} (hclean : g.lines = []) {config : Config}
    (hmode : g.mode = config.mode) (hdevice : g.device = config.device) (dark : Bool) (pages : List Page) :
    let visited := pages.map (VisitedPage.ofPage DisplayLambda.form config dark)
    (g.drawPages dark pages).1 = visited.map VisitedPage.contents
      ∧ (g.drawPages dark pages).2.themed false
        = (g.themed false).absorbAll (visited.flatMap VisitedPage.emissions) := by
  induction pages generalizing g with
  | nil => exact ⟨rfl, rfl⟩
  | cons page pages ih =>
    let visited := VisitedPage.ofPage DisplayLambda.form config dark page
    let start := g.themed (page.theme.isDark dark)
    have hsurface : start.surface = visited.surface := by
      show (⟨g.device, _⟩ : Surface) = _
      rw [hdevice]
      rfl
    have hstart : start.mode = config.mode := hmode
    obtain ⟨hdrawn, hlines⟩ := drawAll_eq (g := start) hclean page.widgets
    rw [hstart, hsurface, ← VisitedPage.emissions_ofPage] at hdrawn
    have hstate : (start.drawAll page.widgets).2 = start.absorbAll visited.emissions := by
      rw [hdrawn]
    obtain ⟨hm, hd⟩ := mode_absorbAll start visited.emissions
    rw [← hstate] at hm hd
    obtain ⟨hrest, hregistries⟩ := ih hlines (hm.trans hmode) (hd.trans hdevice)
    -- The theme of this page is left behind when the next one begins.
    have hthemes : (start.absorbAll visited.emissions).themed false
        = (g.themed false).absorbAll visited.emissions := by
      rw [absorbAll_themed, absorbAll_themed]
      rfl
    rw [drawPages]
    refine ⟨?_, ?_⟩
    · show (start.drawAll page.widgets).1 :: ((start.drawAll page.widgets).2.drawPages dark pages).1 = _
      rw [hrest, hdrawn]
      rfl
    · show ((start.drawAll page.widgets).2.drawPages dark pages).2.themed false = _
      rw [hregistries, hstate, hthemes, List.map_cons, List.flatMap_cons, absorbAll_append]

end Generation

/-- **A run that shares one state draws what the widgets draw on their own,** and ends with the
registries of the run. -/
theorem Project.drawPages_eq [Qr.Encoder] (p : Project) (config : Config) :
    let run := Generation.drawPages p.dark { mode := config.mode, device := config.device } p.pages
    run.1 = (p.visit DisplayLambda.form config).map VisitedPage.contents
      ∧ run.2.themed false = registries config (p.visit DisplayLambda.form config) :=
  Generation.drawPages_eq rfl rfl rfl p.dark p.pages

end DisplayLayout
