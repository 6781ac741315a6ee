import DisplayLayout.Generation
import DisplayLayout.Proofs.Widget.Elements
import DisplayLayout.Proofs.Widget.Nodes
import DisplayLayout.Qr.Symbol

/-!
# The marker determines the output

Widgets that agree do the same in every mode (`Kind.direct_congr` and its
companions), and widgets of one type with the same marker fields agree
(`Widget.agree_of_markerFields`). What a widget does is therefore determined by
its marker (`Widget.output_determined`), however its properties are spelled.
-/

namespace DisplayLayout

/-! ## All types -/

namespace Kind

variable [Qr.Encoder] {k : Kind} {v v' : View}

/-- **Widgets that agree are drawn alike.** -/
theorem direct_congr (h : View.Agree k.behaviour.table v v') (s : Surface) :
    k.behaviour.direct v' s = k.behaviour.direct v s := by
  cases k with
  | text => exact Caption.direct_congr h
  | sensorText => exact Readout.direct_congr h
  | datetime => exact Clock.direct_congr h
  | icon => exact Symbol.direct_congr h
  | weatherIcon => exact WeatherSymbol.direct_congr h
  | batteryIcon => exact Gauge.direct_congr BatteryGauge.reads_table h (BatteryGauge.source_congr h) rfl
  | wifiSignal =>
    exact Gauge.direct_congr SignalGauge.reads_table h (SignalGauge.source_congr h)
      (SignalGauge.showsValue_congr h)
  | progressBar => exact ProgressBar.direct_congr h
  | qrCode => exact QrCode.direct_congr h
  | shapeRect => exact PlainRect.direct_congr h
  | roundedRect => exact RoundedRect.direct_congr h
  | shapeCircle => exact Circle.direct_congr h
  | line => exact StraightLine.direct_congr h
  | image =>
    have hb : Kind.image.behaviour = Image.file.behaviour Image.fileTable Image.declareFile := rfl
    rw [hb]
    replace h : View.Agree Image.fileTable v v' := h
    exact Image.Store.direct_congr h (by decide) (by decide)
  | onlineImage =>
    have hb : Kind.onlineImage.behaviour
        = Image.online.behaviour Image.onlineTable Image.declareOnline := rfl
    rw [hb]
    replace h : View.Agree Image.onlineTable v v' := h
    exact Image.Store.direct_congr h (by decide) (by decide)
  | touchArea =>
    dsimp only [Kind.behaviour, TouchArea.behaviour] at h ⊢
    exact TouchArea.direct_congr h
  | calendar => exact Calendar.direct_congr h
  | graph => exact Graph.direct_congr h
  | _ => rfl

/-- Widgets that agree require the same. -/
theorem requirements_congr (h : View.Agree k.behaviour.table v v') :
    k.behaviour.requirements v' = k.behaviour.requirements v := by
  cases k with
  | text => exact congrArg Drawing.font (Caption.font_congr h)
  | sensorText =>
    obtain ⟨hlabel, hvalue⟩ := Readout.fonts_congr h
    exact congrArg₂ (fun f g => Drawing.font f ++ Drawing.font g) hlabel hvalue
  | datetime =>
    obtain ⟨htime, hdate⟩ := Clock.fonts_congr h
    exact congrArg₂ (fun f g => Drawing.font f ++ Drawing.font g) htime hdate
  | icon => exact congrArg₂ Drawing.glyph (Symbol.code_congr h) (Symbol.size_congr h rfl)
  | weatherIcon => exact congrArg (Drawing.glyphsAt _) (Symbol.size_congr h rfl)
  | batteryIcon => exact Gauge.requirements_congr BatteryGauge.reads_table h rfl
  | wifiSignal =>
    exact Gauge.requirements_congr SignalGauge.reads_table h (SignalGauge.showsValue_congr h)
  | progressBar =>
    exact congrArg₂ (fun b f => Drawing.when b (.font f)) (ProgressBar.hasRow_congr h)
      (ProgressBar.font_congr h)
  | touchArea =>
    have hb : Kind.touchArea.behaviour = TouchArea.behaviour := rfl
    rw [hb] at h ⊢
    exact TouchArea.requirements_congr h
  | calendar => exact Calendar.requirements_congr h
  | label => exact congrArg Drawing.font (Control.labelFont_congr h)
  | _ => rfl

/-- Widgets that agree read the same sensors. -/
theorem sensors_congr (h : View.Agree k.behaviour.table v v') (around : Surroundings) :
    k.behaviour.sensors v' around = k.behaviour.sensors v around := by
  cases k with
  | sensorText => exact Readout.sensors_congr h around
  | weatherIcon => exact WeatherSymbol.sensors_congr h around
  | batteryIcon => exact Gauge.sensors_congr h (BatteryGauge.source_congr h)
  | wifiSignal => exact Gauge.sensors_congr h (SignalGauge.source_congr h)
  | progressBar => exact ProgressBar.sensors_congr h around
  | calendar => exact congrArg Option.toList (Calendar.entries?_congr h)
  | graph => exact congrArg Option.toList (Graph.sensor?_congr h)
  | meter => exact Instrument.meter_sensors_congr h around
  | label => exact Binding.refreshed_congr h (Binding.any?_congr h)
  | switch => exact Binding.refreshed_congr h (Binding.binary?_congr h)
  | checkbox => exact Binding.refreshed_congr h (Binding.binary?_congr h)
  | led => exact Binding.refreshed_congr h (Binding.binary?_congr h)
  | qrSymbol => exact Binding.refreshed_congr h (Binding.text?_congr h)
  | arc => exact Binding.refreshed_congr h (Binding.numeric?_congr h)
  | bar => exact Binding.refreshed_congr h (Binding.numeric?_congr h)
  | slider => exact Binding.refreshed_congr h (Binding.numeric?_congr h)
  | dropdown => exact Binding.refreshed_congr h (Binding.numeric?_congr h)
  | roller => exact Binding.refreshed_congr h (Binding.numeric?_congr h)
  | spinbox => exact Binding.refreshed_congr h (Binding.numeric?_congr h)
  | _ => rfl

/-- Widgets that agree declare the same components. -/
theorem components_congr (h : View.Agree k.behaviour.table v v') (around : Surroundings) :
    k.behaviour.components v' around = k.behaviour.components v around := by
  cases k with
  | wifiSignal => exact SignalGauge.components_congr h around
  | qrCode => exact QrCode.components_congr h around
  | image =>
    have hb : Kind.image.behaviour = Image.file.behaviour Image.fileTable Image.declareFile := rfl
    rw [hb]
    replace h : View.Agree Image.fileTable v v' := h
    exact Image.Store.components_congr h (by decide) fun path => Image.declareFile_congr h around path
  | onlineImage =>
    have hb : Kind.onlineImage.behaviour
        = Image.online.behaviour Image.onlineTable Image.declareOnline := rfl
    rw [hb]
    replace h : View.Agree Image.onlineTable v v' := h
    exact Image.Store.components_congr h (by decide) fun url => Image.declareOnline_congr h around url
  | touchArea =>
    dsimp only [Kind.behaviour, TouchArea.behaviour] at h ⊢
    exact TouchArea.components_congr h around
  | graph => exact Graph.components_congr h around
  | _ => rfl

/-- Widgets that agree declare the same global variables. -/
theorem globals_congr (h : View.Agree k.behaviour.table v v') (around : Surroundings) :
    k.behaviour.globals v' around = k.behaviour.globals v around := by
  cases k with
  | touchArea =>
    dsimp only [Kind.behaviour, TouchArea.behaviour] at h ⊢
    exact TouchArea.globals_congr h around
  | _ => rfl

/-- Widgets that agree are the same nodes of the widget tree. -/
theorem retained_congr (h : View.Agree k.behaviour.table v v') (s : Surface) :
    k.behaviour.retained v' s = k.behaviour.retained v s := by
  cases k with
  | text => exact Caption.retained_congr h
  | sensorText => exact Readout.retained_congr h
  | datetime => exact Clock.retained_congr h
  | icon => exact Symbol.retained_congr h
  | weatherIcon => exact WeatherSymbol.retained_congr h
  | batteryIcon =>
    exact Gauge.retained_congr (g := BatteryGauge.setup) BatteryGauge.reads_table h
      (BatteryGauge.source_congr h) rfl
  | wifiSignal =>
    exact Gauge.retained_congr SignalGauge.reads_table h (SignalGauge.source_congr h)
      (SignalGauge.showsValue_congr h)
  | progressBar => exact ProgressBar.retained_congr h
  | qrCode => exact QrCode.retained_congr h
  | shapeRect => exact PlainRect.retained_congr h
  | roundedRect => exact RoundedRect.retained_congr h
  | shapeCircle => exact Circle.retained_congr h
  | line => exact StraightLine.retained_congr h
  | image =>
    have hb : Kind.image.behaviour = Image.file.behaviour Image.fileTable Image.declareFile := rfl
    rw [hb] at h ⊢
    exact Image.Store.retained_congr h (by decide)
  | onlineImage =>
    have hb : Kind.onlineImage.behaviour
        = Image.online.behaviour Image.onlineTable Image.declareOnline := rfl
    rw [hb] at h ⊢
    exact Image.Store.retained_congr h (by decide)
  | calendar => exact Calendar.retained_congr h
  | button => exact Control.buttonNode_congr h
  | label => exact Control.labelNode_congr h
  | arc => exact Control.arcNode_congr h
  | bar => exact Control.barNode_congr h
  | slider => exact Control.sliderNode_congr h
  | switch => exact Control.switchNode_congr h
  | checkbox => exact Control.checkboxNode_congr h
  | led => exact Control.ledNode_congr h
  | meter => exact Instrument.meterNode_congr h
  | chart => exact Instrument.chartNode_congr h
  | dropdown => exact Entry.dropdownNode_congr h
  | roller => exact Entry.rollerNode_congr h
  | textarea => exact Entry.textareaNode_congr (s := s) h
  | qrSymbol => exact Picture.symbolNode_congr h
  | picture => exact Picture.imageNode_congr h
  | polyline => exact Picture.lineNode_congr h
  | box => exact Panel.boxNode_congr h
  | buttonMatrix => exact Entry.matrixNode_congr h
  | keyboard => exact Entry.keyboardNode_congr (s := s) h
  | spinbox => exact Entry.spinboxNode_congr (s := s) h
  | tabview => exact Panel.tabNode_congr h
  | tileview => exact Panel.tileNode_congr h
  | _ => rfl

/-- Widgets that agree are the same elements of a payload. -/
theorem element_congr (h : View.Agree k.behaviour.table v v') (p : Protocol) (s : Surface) :
    k.behaviour.element p v' s = k.behaviour.element p v s := by
  cases k with
  | text => exact Caption.element_congr h
  | sensorText => exact Readout.element_congr h
  | datetime =>
    dsimp only [Kind.behaviour, Clock.behaviour] at h ⊢
    exact Clock.element_congr h
  | icon => exact Symbol.element_congr h
  | weatherIcon => exact WeatherSymbol.element_congr h
  | batteryIcon =>
    exact Gauge.element_congr (g := BatteryGauge.setup) BatteryGauge.reads_table h
      (BatteryGauge.source_congr h) rfl
  | wifiSignal =>
    exact Gauge.element_congr SignalGauge.reads_table h (SignalGauge.source_congr h)
      (SignalGauge.showsValue_congr h)
  | progressBar => exact ProgressBar.element_congr h
  | qrCode => exact QrCode.element_congr (p := p) h
  | shapeRect => exact PlainRect.element_congr h
  | roundedRect => exact RoundedRect.element_congr h
  | shapeCircle => exact Circle.element_congr (p := p) h
  | line => exact StraightLine.element_congr h
  | image =>
    have hb : Kind.image.behaviour = Image.file.behaviour Image.fileTable Image.declareFile := rfl
    rw [hb] at h ⊢
    exact Image.Store.element_congr h (by decide)
  | onlineImage =>
    have hb : Kind.onlineImage.behaviour
        = Image.online.behaviour Image.onlineTable Image.declareOnline := rfl
    rw [hb] at h ⊢
    exact Image.Store.element_congr h (by decide)
  | ellipse => exact congrArg some (Figure.ellipseElement_congr h)
  | polygon => exact Figure.polygonElement_congr h
  | multiline => exact congrArg some (Figure.multilineElement_congr h)
  | arcOutline => exact congrArg some (Figure.arcElement_congr h)
  | debugGrid => exact congrArg some (Figure.gridElement_congr h)
  | plot => exact congrArg some (Figure.plotElement_congr h)
  | iconSequence => exact Figure.sequenceElement_congr h
  | rectanglePattern => exact congrArg some (Figure.patternElement_congr h)
  | _ => rfl

end Kind

/-! ## Widgets with one marker -/

/-- **Widgets of a type with the same marker fields agree.** -/
theorem Widget.agree_of_markerFields [Qr.Encoder] {k : Kind} {w w' : Widget}
    (htype : w.type = k.tag) (htype' : w'.type = k.tag) (h : w'.markerFields = w.markerFields) :
    View.Agree k.behaviour.table (w.view k.behaviour) (w'.view k.behaviour) := by
  have htable : k.behaviour.table.Writable := k.writable_table
  rw [markerFields_eq htype, markerFields_eq htype'] at h
  -- Every part of the marker is found under its key, and read back without loss.
  have hplaced (key : String) {value value' : String}
      (hvalue : Keyed.get? (View.placement w) key = some value)
      (hvalue' : Keyed.get? (View.placement w') key = some value') : value' = value := by
    have hget := View.get?_fields_placement (v := w'.view k.behaviour) hvalue'
    rw [h, View.get?_fields_placement (v := w.view k.behaviour) hvalue] at hget
    exact (Option.some.inj hget).symm
  constructor
  case id => exact hplaced "id" rfl rfl
  case box =>
    have hx := toString_int_inj (hplaced "x" rfl rfl)
    have hy := toString_int_inj (hplaced "y" rfl rfl)
    have hw := toString_int_inj (hplaced "w" rfl rfl)
    have hh := toString_int_inj (hplaced "h" rfl rfl)
    show (⟨w'.x, w'.y, w'.width, w'.height⟩ : Rect) = ⟨w.x, w.y, w.width, w.height⟩
    rw [hx, hy, hw, hh]
  case entity? =>
    rw [← View.get?_fields_entity (v := w'.view k.behaviour) htable, h,
      View.get?_fields_entity (v := w.view k.behaviour) htable]
  case heading? =>
    intro huntitled
    have hcarried (u : Widget) : (u.view k.behaviour).carriedTitle = (u.view k.behaviour).heading? := by
      rw [View.carriedTitle]
      exact if_neg (Bool.eq_false_iff.1 huntitled)
    have htitle (u : Widget) : Keyed.get? (u.view k.behaviour).fields "title"
        = (u.view k.behaviour).carriedTitle :=
      View.get?_fields_title htable fun p hp hkey => k.fieldValue_title rfl hp hkey
    rw [← hcarried w', ← hcarried w, ← htitle w', ← htitle w, h]
  case fieldValue =>
    intro p hp
    have hget := View.get?_fields_property (v := w'.view k.behaviour) htable hp
    rw [h, View.get?_fields_property (v := w.view k.behaviour) htable hp] at hget
    exact (Option.some.inj hget).symm

/-- What two widgets of a type do is the same: in every mode, on every page, device and state of a
run. -/
structure Behaviour.SameOutput (b : Behaviour) (v v' : View) : Prop where
  requirements : ∀ g : Generation, g.absorb (b.requirements v') = g.absorb (b.requirements v)
  direct : ∀ g : Generation,
    (b.direct v' g.surface).lines = (b.direct v g.surface).lines
      ∧ g.absorb (b.direct v' g.surface) = g.absorb (b.direct v g.surface)
  retained : ∀ g : Generation,
    (b.retained v' g.surface).node = (b.retained v g.surface).node
      ∧ g.absorb (b.retained v' g.surface).uses = g.absorb (b.retained v g.surface).uses
  element : ∀ (p : Protocol) (g : Generation), b.element p v' g.surface = b.element p v g.surface
  sensors : ∀ around, b.sensors v' around = b.sensors v around
  components : ∀ around, b.components v' around = b.components v around
  globals : ∀ around, b.globals v' around = b.globals v around

/-- Widgets that agree have the same output. -/
theorem Kind.sameOutput [Qr.Encoder] {k : Kind} {v v' : View}
    (h : View.Agree k.behaviour.table v v') :
    k.behaviour.SameOutput v v' where
  requirements g := by rw [k.requirements_congr h]
  direct g := by rw [k.direct_congr h]; exact ⟨rfl, rfl⟩
  retained g := by rw [k.retained_congr h]; exact ⟨rfl, rfl⟩
  element p g := k.element_congr h p g.surface
  sensors around := k.sensors_congr h around
  components around := k.components_congr h around
  globals around := k.globals_congr h around

/-- **The marker determines the output.** Two widgets of a type with the same marker fields do the
same, whatever else is different about them. -/
theorem Widget.output_determined [Qr.Encoder] {b : Behaviour} {w w' : Widget}
    (hb : w.behaviour? = some b) (htype : w'.type = w.type) (h : w'.markerFields = w.markerFields) :
    b.SameOutput (w.view b) (w'.view b) := by
  obtain ⟨k, hk, rfl⟩ := exists_kind_of_behaviour? hb
  exact Kind.sameOutput (agree_of_markerFields hk (htype.trans hk) h)

/-- A number as a text, a title of blanks, and a property that no table has. -/
theorem Widget.output_of_other_spelling :
    let w : Widget :=
      { id := "a", type := "text", width := 80, height := 20,
        props := [("font_size", .string "18")] }
    let w' : Widget :=
      { id := "a", type := "text", width := 80, height := 20, title := some " ",
        props := [("font_size", .number (.int 18)), ("other", .null)] }
    w'.markerFields = w.markerFields
      ∧ Kind.text.behaviour.SameOutput (w.view Kind.text.behaviour) (w'.view Kind.text.behaviour) := by
  intro w w'
  have h : w'.markerFields = w.markerFields := by decide
  exact ⟨h, output_determined (b := Kind.text.behaviour) rfl rfl h⟩

end DisplayLayout
