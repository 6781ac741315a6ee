import DisplayLayout.Catalogue

/-!
# Where glyphs are asked for

Only what a type requires asks for glyphs (`Kind.glyphs_direct`,
`Kind.glyphs_retained`), and it asks for them at the size of a property, which
is kept within 32 bits (`Kind.size_requirements`).
-/

namespace DisplayLayout

namespace Drawing

theorem glyphs_append {a b : Drawing} (ha : a.glyphs = []) (hb : b.glyphs = []) :
    (a ++ b).glyphs = [] := List.append_eq_nil_iff.2 ⟨ha, hb⟩

theorem glyphs_when {b : Bool} {d : Drawing} (h : d.glyphs = []) : (when b d).glyphs = [] := by
  unfold when
  split
  · exact h
  · rfl

end Drawing

open Drawing

section Direct

variable (v : View) (s : Surface)

theorem Caption.glyphs_direct : (Caption.direct v s).glyphs = [] := by
  have hback : (Caption.background v s).glyphs = [] := by
    unfold background
    dsimp only
    split
    · rfl
    · split <;> rfl
  exact glyphs_append (glyphs_append hback rfl) rfl

theorem ProgressBar.glyphs_direct : (ProgressBar.direct v s).glyphs = [] := by
  have hborder : (borderDrawing v s).glyphs = [] := by
    unfold borderDrawing
    split
    · rfl
    · split <;> rfl
  have hfill : (fillDrawing v s).glyphs = [] := by
    unfold fillDrawing
    dsimp only
    split <;> rfl
  exact glyphs_append (glyphs_append (glyphs_append (glyphs_append rfl rfl) hborder) hfill) rfl

theorem Shape.glyphs_painted (key : String) (mask : DitherShape) {solid : String → Drawing}
    (h : ∀ color, (solid color).glyphs = []) : (painted v s key mask solid).glyphs = [] := by
  unfold painted
  split
  · rfl
  · exact h _

/-- A shape whose inside and edge are painted. -/
theorem Shape.glyphs_fillThenBorder (border : Int) {key edgeKey : String} {mask edgeMask : DitherShape}
    {inside edge : String → Drawing} (hinside : ∀ color, (inside color).glyphs = [])
    (hedge : ∀ color, (edge color).glyphs = []) :
    (fillThenBorder v border (painted v s key mask inside)
      (painted v s edgeKey edgeMask edge)).glyphs = [] :=
  glyphs_append (glyphs_when (glyphs_painted v s _ _ hinside))
    (glyphs_when (glyphs_painted v s _ _ hedge))

theorem StraightLine.glyphs_direct : (StraightLine.direct v s).glyphs = [] := by
  refine Shape.glyphs_painted v s _ _ fun color => ?_
  dsimp only
  split <;> rfl

theorem Image.Store.glyphs_direct (k : Store) (table : PropertyTable)
    (declare : View → Surroundings → String → List Component) :
    ((k.behaviour table declare).direct v s).glyphs = [] := by
  unfold Store.behaviour drawAsset
  dsimp only
  split
  · split <;> rfl
  · rfl

theorem Graph.glyphs_direct : (Graph.direct v s).glyphs = [] := by
  unfold Graph.direct
  dsimp only
  split
  · exact glyphs_append rfl (glyphs_when rfl)
  · rfl

theorem TouchArea.glyphs_direct : (TouchArea.direct v s).glyphs = [] := by
  unfold TouchArea.direct
  split <;> rfl

/-- **The display lambda asks for no glyphs.** -/
theorem Kind.glyphs_direct [Qr.Encoder] (k : Kind) : (k.behaviour.direct v s).glyphs = [] := by
  have hsome : ∀ (b : Behaviour) (f : View → Surface → Drawing), b.direct = f →
      (f v s).glyphs = [] → (b.direct v s).glyphs = [] := by
    intro b f hb hf
    rw [hb]
    exact hf
  cases k with
  | text => exact hsome Caption.behaviour _ rfl (Caption.glyphs_direct v s)
  | sensorText => exact hsome Readout.behaviour _ rfl (glyphs_append rfl rfl)
  | datetime => exact hsome Clock.behaviour _ rfl (glyphs_append rfl rfl)
  | calendar => exact hsome Calendar.behaviour _ rfl (glyphs_append rfl rfl)
  | icon => exact hsome Symbol.behaviour _ rfl rfl
  | weatherIcon => exact hsome WeatherSymbol.behaviour _ rfl rfl
  | batteryIcon => exact hsome BatteryGauge.behaviour _ rfl (glyphs_append (glyphs_when rfl) rfl)
  | wifiSignal => exact hsome SignalGauge.behaviour _ rfl (glyphs_append (glyphs_when rfl) rfl)
  | progressBar => exact hsome ProgressBar.behaviour _ rfl (ProgressBar.glyphs_direct v s)
  | qrCode => exact hsome QrCode.behaviour _ rfl rfl
  | shapeRect =>
    exact hsome PlainRect.behaviour PlainRect.direct rfl
      (Shape.glyphs_fillThenBorder v s _ (fun _ => rfl) fun _ => rfl)
  | roundedRect =>
    exact hsome RoundedRect.behaviour RoundedRect.direct rfl
      (Shape.glyphs_fillThenBorder v s _ (fun _ => rfl) fun _ => rfl)
  | shapeCircle =>
    exact hsome Circle.behaviour Circle.direct rfl
      (Shape.glyphs_fillThenBorder v s _ (fun _ => rfl) fun _ => rfl)
  | line => exact hsome StraightLine.behaviour _ rfl (StraightLine.glyphs_direct v s)
  | image =>
    dsimp only [Kind.behaviour, Image.fileBehaviour]
    exact Image.Store.glyphs_direct v s _ _ _
  | onlineImage =>
    dsimp only [Kind.behaviour, Image.onlineBehaviour]
    exact Image.Store.glyphs_direct v s _ _ _
  | touchArea => exact hsome TouchArea.behaviour _ rfl (TouchArea.glyphs_direct v s)
  | graph => exact hsome Graph.behaviour _ rfl (Graph.glyphs_direct v s)
  | _ => exact hsome _ (fun _ _ => {}) rfl rfl

/-- **The widget tree asks for no glyphs.** -/
theorem Kind.glyphs_retained [Qr.Encoder] (k : Kind) :
    (k.behaviour.retained v s).uses.glyphs = [] := by
  cases k with
  | wifiSignal => exact glyphs_when rfl
  | progressBar => exact glyphs_when rfl
  | image =>
    dsimp only [Kind.behaviour, Image.fileBehaviour, Image.Store.behaviour]
    split <;> rfl
  | onlineImage =>
    dsimp only [Kind.behaviour, Image.onlineBehaviour, Image.Store.behaviour]
    split <;> rfl
  | _ => rfl

/-- **The glyphs that a type requires have a size of 32 bits.** -/
theorem Kind.size_requirements [Qr.Encoder] (k : Kind) :
    ∀ g ∈ (k.behaviour.requirements v).glyphs, g.size ≤ Numeric.maxWord32 := by
  have hsize : ∀ key least, v.size key least ≤ Numeric.maxWord32 := fun _ _ => Nat.min_le_left _ _
  have hat : ∀ (codes : List String) (size : Nat), size ≤ Numeric.maxWord32 →
      ∀ g ∈ (glyphsAt codes size).glyphs, g.size ≤ Numeric.maxWord32 := by
    intro codes size hle
    exact List.forall_mem_map.2 fun _ _ => hle
  have hgauge : ∀ g : Gauge.Setup, ∀ glyph ∈ (Gauge.requirements g v).glyphs,
      glyph.size ≤ Numeric.maxWord32 := by
    intro g
    refine List.forall_mem_append.2 ⟨hat _ _ (hsize _ _), ?_⟩
    rw [glyphs_when rfl]
    exact List.forall_mem_nil _
  cases k with
  | icon => exact List.forall_mem_singleton.2 (hsize _ _)
  | weatherIcon => exact hat _ _ (hsize _ _)
  | batteryIcon => exact hgauge _
  | wifiSignal => exact hgauge _
  | progressBar =>
    have hnone : (progressBar.behaviour.requirements v).glyphs = [] := glyphs_when rfl
    rw [hnone]
    exact List.forall_mem_nil _
  | touchArea =>
    dsimp only [Kind.behaviour, TouchArea.behaviour]
    split
    · exact List.forall_mem_singleton.2 (hsize _ _)
    · exact List.forall_mem_nil _
  | _ => exact List.forall_mem_nil _

end Direct
end DisplayLayout
