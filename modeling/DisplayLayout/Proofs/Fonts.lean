import DisplayLayout.Proofs.Declared
import DisplayLayout.Proofs.Icon

/-!
# The font section is silent

The families of fonts are written as they are, and every one that a widget uses
is either its own or fixed. The glyphs of the icon fonts are codepoints, whatever
a widget asked for.
-/

namespace DisplayLayout

open Text

/-! ## Fonts in use -/

/-- A contribution whose fonts have families without line feeds. -/
def Drawing.PlainFonts (d : Drawing) : Prop := ∀ f ∈ d.fonts, OneLine f.family

namespace Drawing

theorem plainFonts_append {a b : Drawing} (ha : a.PlainFonts) (hb : b.PlainFonts) :
    (a ++ b).PlainFonts := by
  intro f hf
  rcases List.mem_append.1 (show f ∈ a.fonts ++ b.fonts from hf) with h | h
  · exact ha f h
  · exact hb f h

theorem plainFonts_of_nil {d : Drawing} (h : d.fonts = []) : d.PlainFonts := by
  intro f hf
  rw [h] at hf
  exact absurd hf List.not_mem_nil

theorem plainFonts_font {f : Font} (h : OneLine f.family) : (font f).PlainFonts := by
  intro g hg
  rw [List.mem_singleton.1 hg]
  exact h

theorem plainFonts_when {b : Bool} {d : Drawing} (h : d.PlainFonts) : (when b d).PlainFonts := by
  cases b with
  | false => exact plainFonts_of_nil rfl
  | true => exact h

end Drawing

theorem Font.oneLine_family_of {family : String} (h : OneLine family) (weight size : Nat)
    (italic : Bool) : OneLine (Font.of family weight size italic).family := by
  unfold Font.of
  dsimp only
  split
  · decide
  · exact oneLine_trim h

section Uses

variable (v : View) (s : Surface)

theorem Drawing.plainFonts_fixed (weight size : Nat) (italic : Bool) :
    (Drawing.font (Font.of "Roboto" weight size italic)).PlainFonts :=
  plainFonts_font (Font.oneLine_family_of (by decide) _ _ _)

variable {v}

theorem Drawing.plainFonts_named (h : OneLine (v.text "font_family")) (weight size : Nat)
    (italic : Bool) : (Drawing.font (Font.of (v.text "font_family") weight size italic)).PlainFonts :=
  plainFonts_font (Font.oneLine_family_of h _ _ _)

theorem Caption.plainFonts_background : (background v s).PlainFonts := by
  unfold background
  dsimp only
  split
  · exact Drawing.plainFonts_of_nil rfl
  · split <;> exact Drawing.plainFonts_of_nil rfl

theorem Caption.plainFonts_direct (h : OneLine (v.text "font_family")) :
    (direct v s).PlainFonts := by
  unfold direct
  dsimp only
  refine Drawing.plainFonts_append (Drawing.plainFonts_append (plainFonts_background s) ?_)
    (Drawing.plainFonts_of_nil rfl)
  exact Drawing.plainFonts_named h _ _ _

theorem Readout.plainFonts_fonts (h : OneLine (v.text "font_family")) : (fonts v).PlainFonts :=
  Drawing.plainFonts_append (Drawing.plainFonts_named h _ _ _) (Drawing.plainFonts_named h _ _ _)

theorem Readout.plainFonts_direct (h : OneLine (v.text "font_family")) :
    (direct v s).PlainFonts := by
  unfold direct
  exact Drawing.plainFonts_append (plainFonts_fonts h) (Drawing.plainFonts_of_nil rfl)

theorem Clock.plainFonts_fonts (h : OneLine (v.text "font_family")) : (fonts v).PlainFonts :=
  Drawing.plainFonts_append (Drawing.plainFonts_named h _ _ _) (Drawing.plainFonts_named h _ _ _)

theorem Clock.uses_retained : (retained v s).uses = fonts v := by
  unfold retained
  split
  rfl

theorem Clock.plainFonts_direct (h : OneLine (v.text "font_family")) :
    (direct v s).PlainFonts := by
  unfold direct
  exact Drawing.plainFonts_append (plainFonts_fonts h) (Drawing.plainFonts_of_nil rfl)

theorem Calendar.plainFonts_fonts (h : OneLine (v.text "font_family")) : (fonts v).PlainFonts :=
  Drawing.plainFonts_append
    (Drawing.plainFonts_append (Drawing.plainFonts_named h _ _ _) (Drawing.plainFonts_named h _ _ _))
    (Drawing.plainFonts_named h _ _ _)

theorem Calendar.plainFonts_direct (h : OneLine (v.text "font_family")) :
    (direct v s).PlainFonts := by
  unfold direct
  exact Drawing.plainFonts_append (plainFonts_fonts h) (Drawing.plainFonts_of_nil rfl)

theorem Gauge.plainFonts_requirements (g : Setup) : (requirements g v).PlainFonts :=
  Drawing.plainFonts_append (Drawing.plainFonts_of_nil rfl)
    (Drawing.plainFonts_when (Drawing.plainFonts_fixed _ _ _))

theorem Gauge.plainFonts_direct (g : Setup) : (direct g v s).PlainFonts := by
  unfold direct
  exact Drawing.plainFonts_append (Drawing.plainFonts_when (Drawing.plainFonts_fixed _ _ _))
    (Drawing.plainFonts_of_nil rfl)

theorem ProgressBar.plainFonts_direct : (direct v s).PlainFonts := by
  have hborder : (borderDrawing v s).PlainFonts := by
    unfold borderDrawing
    split
    · exact Drawing.plainFonts_of_nil rfl
    · split <;> exact Drawing.plainFonts_of_nil rfl
  have hfill : (fillDrawing v s).PlainFonts := by
    unfold fillDrawing
    dsimp only
    split <;> exact Drawing.plainFonts_of_nil rfl
  unfold direct
  refine Drawing.plainFonts_append (Drawing.plainFonts_append (Drawing.plainFonts_append
    (Drawing.plainFonts_append ?_ (Drawing.plainFonts_of_nil rfl)) hborder) hfill)
    (Drawing.plainFonts_of_nil rfl)
  exact Drawing.plainFonts_fixed _ _ _

theorem Image.plainFonts_drawAsset (id : String) : (drawAsset v s id).PlainFonts := by
  unfold drawAsset
  dsimp only
  split <;> exact Drawing.plainFonts_of_nil rfl

theorem Image.Store.plainFonts_direct (k : Store) (table : PropertyTable)
    (declare : View → Surroundings → String → List Component) :
    ((k.behaviour table declare).direct v s).PlainFonts := by
  unfold Store.behaviour
  dsimp only
  split
  · exact Image.plainFonts_drawAsset s _
  · exact Drawing.plainFonts_of_nil rfl

theorem Graph.plainFonts_direct : (direct v s).PlainFonts := by
  unfold direct
  dsimp only
  split
  · exact Drawing.plainFonts_append (Drawing.plainFonts_of_nil rfl)
      (Drawing.plainFonts_when (Drawing.plainFonts_of_nil rfl))
  · exact Drawing.plainFonts_of_nil rfl

theorem Image.Store.plainFonts_retained (k : Store) (table : PropertyTable)
    (declare : View → Surroundings → String → List Component) :
    ((k.behaviour table declare).retained v s).uses.PlainFonts := by
  unfold Store.behaviour
  dsimp only
  split <;> exact Drawing.plainFonts_of_nil rfl

theorem TouchArea.plainFonts_requirements :
    (TouchArea.behaviour.requirements v).PlainFonts := by
  unfold TouchArea.behaviour
  dsimp only
  split <;> exact Drawing.plainFonts_of_nil rfl

theorem TouchArea.plainFonts_direct : (direct v s).PlainFonts := by
  unfold direct
  split <;> exact Drawing.plainFonts_of_nil rfl

theorem Shape.plainFonts_painted (key : String) (mask : DitherShape) {solid : String → Drawing}
    (h : ∀ color, (solid color).PlainFonts) : (painted v s key mask solid).PlainFonts := by
  unfold painted
  split
  · exact Drawing.plainFonts_of_nil rfl
  · exact h _

theorem Shape.plainFonts_fillThenBorder (border : Int) {inside edge : Drawing}
    (hinside : inside.PlainFonts) (hedge : edge.PlainFonts) :
    (fillThenBorder v border inside edge).PlainFonts :=
  Drawing.plainFonts_append (Drawing.plainFonts_when hinside) (Drawing.plainFonts_when hedge)

theorem PlainRect.plainFonts_direct : (direct v s).PlainFonts :=
  Shape.plainFonts_fillThenBorder _
    (Shape.plainFonts_painted s _ _ fun _ => Drawing.plainFonts_of_nil rfl)
    (Shape.plainFonts_painted s _ _ fun _ => Drawing.plainFonts_of_nil rfl)

theorem RoundedRect.plainFonts_direct : (direct v s).PlainFonts :=
  Shape.plainFonts_fillThenBorder _
    (Shape.plainFonts_painted s _ _ fun _ => Drawing.plainFonts_of_nil rfl)
    (Shape.plainFonts_painted s _ _ fun _ => Drawing.plainFonts_of_nil rfl)

theorem Circle.plainFonts_direct : (direct v s).PlainFonts :=
  Shape.plainFonts_fillThenBorder _
    (Shape.plainFonts_painted s _ _ fun _ => Drawing.plainFonts_of_nil rfl)
    (Shape.plainFonts_painted s _ _ fun _ => Drawing.plainFonts_of_nil rfl)

theorem StraightLine.plainFonts_direct : (direct v s).PlainFonts := by
  refine Shape.plainFonts_painted s _ _ fun color => ?_
  dsimp only
  split <;> exact Drawing.plainFonts_of_nil rfl

end Uses

/-! ## All types -/

section Kinds

variable {w : Widget} (hw : ∀ s ∈ w.propText? "font_family", OneLine s)

include hw

theorem View.oneLine_fontFamily {b : Behaviour}
    (hb : b.table.default? "font_family" = some (.text "Roboto")) :
    OneLine ((w.view b).text "font_family") :=
  View.oneLine_text hw hb (by decide)

/-- **The fonts that a type requires have families without line feeds.** -/
theorem Kind.plainFonts_requirements [Qr.Encoder] (k : Kind) :
    (k.behaviour.requirements (w.view k.behaviour)).PlainFonts := by
  have hnone : ∀ b : Behaviour, b.requirements = (fun _ => {}) →
      (b.requirements (w.view b)).PlainFonts := by
    intro b hb
    rw [hb]
    exact Drawing.plainFonts_of_nil rfl
  have hsome : ∀ (b : Behaviour) (f : View → Drawing), b.requirements = f →
      (f (w.view b)).PlainFonts → (b.requirements (w.view b)).PlainFonts := by
    intro b f hb hf
    rw [hb]
    exact hf
  cases k with
  | text =>
    exact hsome Caption.behaviour _ rfl
      (Drawing.plainFonts_named (View.oneLine_fontFamily hw (by rfl)) _ _ _)
  | sensorText =>
    exact hsome Readout.behaviour _ rfl
      (Readout.plainFonts_fonts (View.oneLine_fontFamily hw (by rfl)))
  | datetime =>
    exact hsome Clock.behaviour _ rfl (Clock.plainFonts_fonts (View.oneLine_fontFamily hw (by rfl)))
  | calendar =>
    exact hsome Calendar.behaviour _ rfl
      (Calendar.plainFonts_fonts (View.oneLine_fontFamily hw (by rfl)))
  | icon => exact hsome Symbol.behaviour _ rfl (Drawing.plainFonts_of_nil rfl)
  | weatherIcon => exact hsome WeatherSymbol.behaviour _ rfl (Drawing.plainFonts_of_nil rfl)
  | batteryIcon => exact hsome BatteryGauge.behaviour _ rfl (Gauge.plainFonts_requirements _)
  | wifiSignal => exact hsome SignalGauge.behaviour _ rfl (Gauge.plainFonts_requirements _)
  | progressBar =>
    exact hsome ProgressBar.behaviour _ rfl
      (Drawing.plainFonts_when (Drawing.plainFonts_fixed _ _ _))
  | touchArea =>
    have hb : Kind.touchArea.behaviour = TouchArea.behaviour := rfl
    rw [hb]
    exact TouchArea.plainFonts_requirements
  | button => exact hsome Control.button _ rfl (Drawing.plainFonts_fixed _ _ _)
  | label =>
    exact hsome Control.label _ rfl
      (Drawing.plainFonts_named (View.oneLine_fontFamily hw (by rfl)) _ _ _)
  | _ => exact hnone _ rfl

/-- **The fonts of the display lambda have families without line feeds.** -/
theorem Kind.plainFonts_direct [Qr.Encoder] (k : Kind) (s : Surface) :
    (k.behaviour.direct (w.view k.behaviour) s).PlainFonts := by
  have hnone : ∀ b : Behaviour, b.direct = (fun _ _ => {}) →
      (b.direct (w.view b) s).PlainFonts := by
    intro b hb
    rw [hb]
    exact Drawing.plainFonts_of_nil rfl
  have hsome : ∀ (b : Behaviour) (f : View → Surface → Drawing), b.direct = f →
      (f (w.view b) s).PlainFonts → (b.direct (w.view b) s).PlainFonts := by
    intro b f hb hf
    rw [hb]
    exact hf
  cases k with
  | text =>
    exact hsome Caption.behaviour Caption.direct rfl
      (Caption.plainFonts_direct s (View.oneLine_fontFamily hw (by rfl)))
  | sensorText =>
    exact hsome Readout.behaviour Readout.direct rfl
      (Readout.plainFonts_direct s (View.oneLine_fontFamily hw (by rfl)))
  | datetime =>
    exact hsome Clock.behaviour Clock.direct rfl
      (Clock.plainFonts_direct s (View.oneLine_fontFamily hw (by rfl)))
  | calendar =>
    exact hsome Calendar.behaviour Calendar.direct rfl
      (Calendar.plainFonts_direct s (View.oneLine_fontFamily hw (by rfl)))
  | icon => exact hsome Symbol.behaviour Symbol.behaviour.direct rfl (Drawing.plainFonts_of_nil rfl)
  | weatherIcon =>
    exact hsome WeatherSymbol.behaviour WeatherSymbol.direct rfl (Drawing.plainFonts_of_nil rfl)
  | batteryIcon =>
    exact hsome BatteryGauge.behaviour (Gauge.direct _) rfl (Gauge.plainFonts_direct s _)
  | wifiSignal =>
    exact hsome SignalGauge.behaviour (Gauge.direct _) rfl (Gauge.plainFonts_direct s _)
  | progressBar =>
    exact hsome ProgressBar.behaviour ProgressBar.direct rfl (ProgressBar.plainFonts_direct s)
  | qrCode => exact hsome QrCode.behaviour QrCode.direct rfl (Drawing.plainFonts_of_nil rfl)
  | shapeRect => exact hsome PlainRect.behaviour PlainRect.direct rfl (PlainRect.plainFonts_direct s)
  | roundedRect =>
    exact hsome RoundedRect.behaviour RoundedRect.direct rfl (RoundedRect.plainFonts_direct s)
  | shapeCircle => exact hsome Circle.behaviour Circle.direct rfl (Circle.plainFonts_direct s)
  | line =>
    exact hsome StraightLine.behaviour StraightLine.direct rfl (StraightLine.plainFonts_direct s)
  | image =>
    have hb : Kind.image.behaviour = Image.file.behaviour Image.fileTable Image.declareFile := rfl
    rw [hb]
    exact Image.Store.plainFonts_direct s _ _ _
  | onlineImage =>
    have hb : Kind.onlineImage.behaviour
        = Image.online.behaviour Image.onlineTable Image.declareOnline := rfl
    rw [hb]
    exact Image.Store.plainFonts_direct s _ _ _
  | touchArea =>
    dsimp only [Kind.behaviour, TouchArea.behaviour]
    exact TouchArea.plainFonts_direct s
  | graph => exact hsome Graph.behaviour Graph.direct rfl (Graph.plainFonts_direct s)
  | _ => exact hnone _ rfl

/-- **The fonts of the widget tree have families without line feeds.** -/
theorem Kind.plainFonts_retained [Qr.Encoder] (k : Kind) (s : Surface) :
    (k.behaviour.retained (w.view k.behaviour) s).uses.PlainFonts := by
  have hnone : ∀ b : Behaviour, (b.retained (w.view b) s).uses.fonts = [] →
      (b.retained (w.view b) s).uses.PlainFonts := fun b hb => Drawing.plainFonts_of_nil hb
  have hsome : ∀ (b : Behaviour) (d : Drawing), (b.retained (w.view b) s).uses = d →
      d.PlainFonts → (b.retained (w.view b) s).uses.PlainFonts := by
    intro b d hb hd
    rw [hb]
    exact hd
  cases k with
  | text =>
    exact hsome Caption.behaviour _ rfl
      (Drawing.plainFonts_named (View.oneLine_fontFamily hw (by rfl)) _ _ _)
  | sensorText =>
    exact hsome Readout.behaviour _ rfl
      (Readout.plainFonts_fonts (View.oneLine_fontFamily hw (by rfl)))
  | datetime =>
    have huses : (Clock.behaviour.retained (w.view Clock.behaviour) s).uses = _ := Clock.uses_retained s
    exact hsome Clock.behaviour _ huses
      (Clock.plainFonts_fonts (View.oneLine_fontFamily hw (by rfl)))
  | calendar =>
    exact hsome Calendar.behaviour _ rfl
      (Calendar.plainFonts_fonts (View.oneLine_fontFamily hw (by rfl)))
  | batteryIcon =>
    exact hsome BatteryGauge.behaviour _ rfl
      (Drawing.plainFonts_when (Drawing.plainFonts_fixed _ _ _))
  | wifiSignal =>
    exact hsome SignalGauge.behaviour _ rfl
      (Drawing.plainFonts_when (Drawing.plainFonts_fixed _ _ _))
  | progressBar =>
    exact hsome ProgressBar.behaviour _ rfl
      (Drawing.plainFonts_when (Drawing.plainFonts_fixed _ _ _))
  | label =>
    exact hsome Control.label _ rfl
      (Drawing.plainFonts_named (View.oneLine_fontFamily hw (by rfl)) _ _ _)
  | button => exact hsome Control.button _ rfl (Drawing.plainFonts_fixed _ _ _)
  | image =>
    have hb : Kind.image.behaviour = Image.file.behaviour Image.fileTable Image.declareFile := rfl
    rw [hb]
    exact Image.Store.plainFonts_retained s _ _ _
  | onlineImage =>
    have hb : Kind.onlineImage.behaviour
        = Image.online.behaviour Image.onlineTable Image.declareOnline := rfl
    rw [hb]
    exact Image.Store.plainFonts_retained s _ _ _
  | _ => exact hnone _ rfl

end Kinds

/-! ## Registries -/

/-- The entry of a text font copies its family and declares its identifier. -/
theorem Font.isSilentRow_manifestLines {Raw Named : String → Prop} {f : Font} (hid : Named f.id)
    (hfamily : OneLine f.family ∨ Raw ("      family: " ++ f.family)) :
    ∀ row ∈ f.manifestLines, Section.IsSilentRow Raw Named row := by
  have hrow : Section.IsSilentRow Raw Named ("      family: " ++ f.family) :=
    hfamily.elim (Section.isSilentRow_append (by decide)) (Section.isSilentRow_raw (by decide))
  unfold manifestLines
  simp only [List.forall_mem_append, List.forall_mem_cons]
  refine ⟨⟨⟨Section.isSilentRow_fixed (by decide), Section.isSilentRow_fixed (by decide), hrow, ?_,
    List.forall_mem_nil _⟩, ?_⟩, ?_, ?_, Section.isSilentRow_fixed (by decide),
    Section.isSilentRow_fixed (by decide), List.forall_mem_nil _⟩
  · exact Section.isSilentRow_append (by decide) (Numeric.oneLine_toString_nat _)
  · split
    · exact List.forall_mem_singleton.2 (Section.isSilentRow_fixed (by decide))
    · exact List.forall_mem_nil _
  · exact Section.isSilentRow_ownId f.isWordText_id.oneLine hid
  · exact Section.isSilentRow_append (by decide) (Numeric.oneLine_toString_nat _)

/-- Registered glyphs on one line each. -/
def Icons.Plain (icons : Icons) : Prop := ∀ p ∈ icons, ∀ code ∈ p.2, OneLine code

namespace Icons

theorem Plain.insertAt {icons : Icons} (h : icons.Plain) {code : String} (hcode : OneLine code)
    (size : Nat) : (insertAt size code icons).Plain := by
  intro p hp c hc
  rcases lists_insertAt.1 ⟨p.2, hp, hc⟩ with ⟨-, rfl⟩ | ⟨codes, hmem, hc⟩
  · exact hcode
  · exact h _ hmem c hc

theorem Plain.track {icons : Icons} (h : icons.Plain) (code : String) (size : Nat) :
    (icons.track code size).Plain := by
  unfold Icons.track
  split
  · next c hc => exact h.insertAt (Icon.isWordText_of_normalize? hc).oneLine _
  · exact h

theorem Plain.isSilentRow_manifestLines {Raw Named : String → Prop} {icons : Icons} (h : icons.Plain)
    (hid : ∀ q ∈ icons, Named (Icon.fontId q.1)) :
    ∀ row ∈ icons.manifestLines, Section.IsSilentRow Raw Named row := by
  unfold manifestLines
  rw [List.forall_mem_flatMap]
  rintro ⟨size, codes⟩ hq
  have hname : Named (Icon.fontId size) := hid (size, codes) hq
  simp only [List.forall_mem_append, List.forall_mem_cons, List.forall_mem_map]
  refine ⟨⟨Section.isSilentRow_fixed (by decide +kernel), ?_, ?_, Section.isSilentRow_fixed (by decide),
    List.forall_mem_nil _⟩, fun code hcode => ?_⟩
  · exact Section.isSilentRow_ownId (Icon.oneLine_fontId size) hname
  · exact Section.isSilentRow_append (by decide) (Numeric.oneLine_toString_nat size)
  · have hescape := Icon.oneLine_escape (h _ hq code hcode)
    rw [String.append_assoc]
    exact Section.isSilentRow_append (by decide) (oneLine_append.2 ⟨hescape, by decide⟩)

end Icons

/-- A run whose fonts and glyphs say nothing. -/
structure Generation.PlainFonts (g : Generation) : Prop where
  fonts : ∀ p ∈ g.fonts, OneLine p.2.family
  icons : g.icons.Plain

/-- A font is there after one has been registered if it was there before or is the new one. -/
theorem Fonts.mem_add {fonts : Fonts} {f : Font} {p : String × Font} (h : p ∈ fonts.add f) :
    p ∈ fonts ∨ p = (f.id, f) := by
  unfold add Keyed.putNew at h
  split at h
  · exact Or.inl h
  · exact (List.mem_append.1 h).imp_right List.mem_singleton.1

theorem Icons.Plain.absorb {g : Generation} (h : g.icons.Plain) (d : Drawing) : (g.absorb d).icons.Plain :=
  List.foldlRecOn (motive := Icons.Plain) d.glyphs _ h fun _ hicons _ _ => hicons.track _ _

theorem Generation.PlainFonts.absorb {g : Generation} (h : g.PlainFonts) {d : Drawing}
    (hd : d.PlainFonts) : (g.absorb d).PlainFonts where
  fonts := by
    let motive (fonts : Fonts) : Prop := ∀ p ∈ fonts, OneLine p.2.family
    refine List.foldlRecOn (motive := motive) d.fonts _ h.fonts fun fonts hfonts f hf p hp => ?_
    rcases Fonts.mem_add hp with hp | rfl
    · exact hfonts p hp
    · exact hd f hf
  icons := h.icons.absorb d

/-- What holds at the beginning of a run, and of whatever it takes in next, holds at its end. -/
theorem registries_induct {α : Type} {motive : Generation → Prop} (config : Config)
    {pages : List (VisitedPage α)} (hstart : motive { mode := config.mode, device := config.device })
    (hstep : ∀ page ∈ pages, ∀ e ∈ page.emissions, ∀ g, motive g → motive (g.absorb e.uses)) :
    motive (registries config pages) := by
  refine List.foldlRecOn (pages.flatMap VisitedPage.emissions) _ hstart fun g hg e he => ?_
  obtain ⟨page, hpage, he⟩ := List.mem_flatMap.1 he
  exact hstep page hpage e he g hg

theorem plainFonts_registries {α : Type} (config : Config) {pages : List (VisitedPage α)}
    (h : ∀ page ∈ pages, ∀ e ∈ page.emissions, e.uses.PlainFonts) :
    (registries config pages).PlainFonts :=
  registries_induct config ⟨fun _ hp => absurd hp List.not_mem_nil, fun _ hp => absurd hp List.not_mem_nil⟩
    fun page hpage e he _ hg => hg.absorb (h page hpage e he)

/-- The rows of fonts copy their families and declare their identifiers. -/
theorem Generation.isSilentRow_fontLines {Raw Named : String → Prop} {g : Generation} (h : g.icons.Plain)
    (hdefault : Named (Font.of Font.defaultFamily 400 20 false).id)
    (hfonts : ∀ q ∈ g.fonts, Named q.2.id ∧ Raw ("      family: " ++ q.2.family))
    (hicons : ∀ q ∈ g.icons, Named (Icon.fontId q.1)) :
    ∀ row ∈ g.fontLines, Section.IsSilentRow Raw Named row := by
  unfold Generation.fontLines Fonts.manifestLines
  simp only [List.forall_mem_append]
  refine ⟨⟨?_, fun row hrow => ?_⟩, h.isSilentRow_manifestLines hicons⟩
  · split
    · exact Font.isSilentRow_manifestLines hdefault (Or.inl (by decide))
    · exact List.forall_mem_nil _
  · obtain ⟨q, hq, hrow⟩ := List.mem_flatMap.1 hrow
    exact Font.isSilentRow_manifestLines (hfonts q hq).1 (Or.inr (hfonts q hq).2) row hrow

/-- **The font section says nothing.** -/
theorem Generation.PlainFonts.silent_fontSection {g : Generation} (h : g.PlainFonts) :
    (fontSection g).Silent := by
  have hrows : ∀ row ∈ g.fontLines, Section.IsSilentRow OneLine (fun _ => True) row := by
    refine isSilentRow_fontLines h.icons trivial (fun q hq => ⟨trivial, ?_⟩) fun _ _ => trivial
    exact oneLine_append.2 ⟨by decide, h.fonts q hq⟩
  exact Section.silent_mk (by decide) fun row hrow => (hrows row hrow).silent id

end DisplayLayout
