import DisplayLayout.Proofs.Widget.Agree

/-!
# Widgets that agree are drawn alike

Everything that the configuration of a display lambda says about a widget is
read through the table of its type. So widgets that agree contribute the same,
type by type, and nothing that is left out of a marker is missed.
-/

namespace DisplayLayout

section Kinds

variable {t : PropertyTable} {v v' : View} {s : Surface}

/-! ## Texts -/

namespace Caption

variable (h : View.Agree table v v')

include h

theorem font_congr : font v' = font v := by
  simp (disch := decide) only [font, h.text, h.weight, h.size, h.flag]

theorem direct_congr : direct v' s = direct v s := by
  simp (disch := decide) only [direct, background, pitch, font_congr h, h.box, h.text, h.align, h.int32]

end Caption

namespace Readout

variable (h : View.Agree table v v')

include h

theorem sensor?_congr : sensor? v' = sensor? v := by
  simp (disch := decide) only [sensor?, h.entity?, h.flag]

theorem sensors_congr (around : Surroundings) :
    behaviour.sensors v' around = behaviour.sensors v around := by
  simp only [behaviour, sensor?_congr h, h.ident]

theorem fonts_congr : labelFont v' = labelFont v ∧ valueFont v' = valueFont v := by
  simp (disch := decide) only [labelFont, valueFont, h.text, h.weight, h.size, and_self]

theorem arrangement_congr : arrangement v' = arrangement v := by
  simp (disch := decide) only [arrangement, h.heading?, h.text]

theorem valueCall_congr (style : Lambda.TextStyle) (label : String) :
    valueCall v' style label = valueCall v style label := by
  simp (disch := decide) only [valueCall, sensor?_congr h, places, before, behind, h.text, h.int]

theorem direct_congr : direct v' s = direct v s := by
  simp (disch := decide) only [direct, fonts, fonts_congr h, arrangement_congr h, valueCall_congr h,
    heading, stackOffsets, h.text, h.align, h.box, h.heading?, h.int32, h.y, h.height]

end Readout

namespace Clock

variable (h : View.Agree table v v')

include h

theorem fonts_congr : timeFont v' = timeFont v ∧ dateFont v' = dateFont v := by
  simp (disch := decide) only [timeFont, dateFont, h.text, h.size, h.flag, and_self]

theorem direct_congr : direct v' s = direct v s := by
  simp (disch := decide) only [direct, fonts, fonts_congr h, face, stackOffsets, h.text, h.align, h.box,
    h.int32, h.y, h.height]

end Clock

/-! ## Symbols and gauges -/

namespace Symbol

theorem size_congr (h : View.Agree t v v') (hsize : t.hasInt "size" = true) : size v' = size v :=
  h.size hsize 1

theorem top_congr (h : View.Agree t v v') (n : Nat) : top v' n = top v n := by
  simp only [top, h.y, h.height]

theorem style_congr (h : View.Agree t v v') (hsize : t.hasInt "size" = true)
    (hcolor : t.hasText "color" = true) (y : Int) : style v' s y = style v s y := by
  simp only [style, h.box, size_congr h hsize, h.text hcolor]

theorem code_congr (h : View.Agree table v v') : code v' = code v := by
  unfold code
  rw [h.text (by decide)]

theorem direct_congr (h : View.Agree table v v') : behaviour.direct v' s = behaviour.direct v s := by
  dsimp only [behaviour]
  rw [code_congr h, size_congr h (by decide), top_congr h, style_congr h (by decide) (by decide)]

end Symbol

namespace WeatherSymbol

variable (h : View.Agree table v v')

include h

theorem sensor_congr : sensor v' = sensor v := by
  simp only [sensor, h.entity?]

theorem sensors_congr (around : Surroundings) :
    behaviour.sensors v' around = behaviour.sensors v around := by
  simp only [behaviour, sensor_congr h, h.ident]

theorem direct_congr : direct v' s = direct v s := by
  unfold direct readState
  rw [sensor_congr h, Symbol.size_congr h (by decide), Symbol.top_congr h,
    Symbol.style_congr h (by decide) (by decide)]

end WeatherSymbol

namespace Gauge

/-- What a gauge needs of its table. -/
structure Reads (t : PropertyTable) : Prop where
  size : t.hasInt "size" = true
  fontSize : t.hasInt "font_size" = true
  color : t.hasText "color" = true

theorem direct_congr {g : Setup} (ht : Reads t) (h : View.Agree t v v')
    (hsource : g.source v' = g.source v) (hshows : g.showsValue v' = g.showsValue v) :
    direct g v' s = direct g v s := by
  simp only [direct, stackOffsets, readValue, font, hsource, hshows, Symbol.style_congr h ht.size ht.color,
    h.int32 ht.size, h.int32 ht.fontSize, h.size ht.fontSize, h.y, h.height]

theorem requirements_congr {g : Setup} (ht : Reads t) (h : View.Agree t v v')
    (hshows : g.showsValue v' = g.showsValue v) : requirements g v' = requirements g v := by
  simp only [requirements, font, hshows, Symbol.size_congr h ht.size, h.size ht.fontSize]

theorem sensors_congr {g : Setup} (h : View.Agree t v v') (hsource : g.source v' = g.source v) :
    sensors g v' = sensors g v := by
  simp only [sensors, hsource, h.identWith]

end Gauge

theorem BatteryGauge.reads_table : Gauge.Reads table := ⟨by decide, by decide, by decide⟩

theorem BatteryGauge.source_congr (h : View.Agree table v v') : source v' = source v := by
  simp (disch := decide) only [source, h.entity?, h.flag]

theorem SignalGauge.reads_table : Gauge.Reads table := ⟨by decide, by decide, by decide⟩

theorem SignalGauge.source_congr (h : View.Agree table v v') : source v' = source v := by
  simp (disch := decide) only [source, h.entity?, h.flag]

theorem SignalGauge.components_congr (h : View.Agree table v v') (around : Surroundings) :
    components v' around = components v around := by
  simp only [components, source_congr h]

theorem SignalGauge.showsValue_congr (h : View.Agree table v v') :
    setup.showsValue v' = setup.showsValue v := h.flag (by decide)

/-! ## Bars, codes and graphs -/

namespace ProgressBar

variable (h : View.Agree table v v')

include h

theorem sensor?_congr : sensor? v' = sensor? v := by
  simp only [sensor?, h.entity?]

theorem sensors_congr (around : Surroundings) :
    behaviour.sensors v' around = behaviour.sensors v around := by
  simp only [behaviour, sensor?_congr h, h.identWith]

theorem font_congr : font v' = font v := by
  simp (disch := decide) only [font, h.size]

theorem shows_congr : showsLabel v' = showsLabel v ∧ showsPercentage v' = showsPercentage v := by
  simp (disch := decide) only [showsPercentage, showsLabel, h.flag, h.heading?, and_self]

theorem hasRow_congr : hasRow v' = hasRow v := by
  simp only [hasRow, shows_congr h]

theorem barBox_congr : barBox v' = barBox v ∧ border v' = border v := by
  simp (disch := decide) only [border, barBox, rowHeight, hasRow_congr h, h.int32, h.x, h.y, h.width,
    h.height, and_self]

theorem rowCalls_congr : rowCalls v' s = rowCalls v s := by
  simp (disch := decide) only [rowCalls, heading, shows_congr h, font_congr h, h.text, h.heading?, h.x,
    h.y, h.width]

theorem borderDrawing_congr : borderDrawing v' s = borderDrawing v s := by
  simp (disch := decide) only [borderDrawing, barBox_congr h, h.text]

theorem fillDrawing_congr : fillDrawing v' s = fillDrawing v s := by
  simp (disch := decide) only [fillDrawing, barBox_congr h, h.text]

theorem direct_congr : direct v' s = direct v s := by
  simp only [direct, rowCalls_congr h, borderDrawing_congr h, fillDrawing_congr h, sensor?_congr h,
    font_congr h, barBox_congr h]

end ProgressBar

namespace QrCode

variable (h : View.Agree table v v')

include h

theorem level_congr : level v' = level v := by
  simp (disch := decide) only [level, h.text]

theorem componentId_congr : componentId v' = componentId v := by
  simp only [componentId, h.ident]

theorem direct_congr [Qr.Encoder] : direct v' s = direct v s := by
  simp (disch := decide) only [direct, scale, level_congr h, componentId_congr h, h.text, h.int32, h.box,
    h.x, h.y]

theorem components_congr (around : Surroundings) : components v' around = components v around := by
  simp (disch := decide) only [components, level_congr h, componentId_congr h, h.text]

end QrCode

namespace Graph

variable (h : View.Agree table v v')

include h

theorem sensor?_congr : sensor? v' = sensor? v := by
  simp only [sensor?, h.entity?]

theorem componentId_congr : componentId v' = componentId v := by
  simp only [componentId, h.ident]

theorem direct_congr : direct v' s = direct v s := by
  simp (disch := decide) only [direct, frameEvent, sensor?_congr h, componentId_congr h, h.text, h.flag,
    h.id, h.box, h.x, h.y]

theorem components_congr (around : Surroundings) : components v' around = components v around := by
  simp (disch := decide) only [components, boundLine, sensor?_congr h, componentId_congr h, h.text,
    h.flag, h.width, h.height]

end Graph

/-! ## Shapes -/

theorem Shape.borderWidth_congr (h : View.Agree t v v') (ht : t.hasInt "border_width" = true) :
    borderWidth v' = borderWidth v := by
  simp only [borderWidth, h.int32 ht, h.box]

theorem Shape.isFilled_congr (h : View.Agree t v v') (ht : t.hasFlag "fill" = true) :
    isFilled v' = isFilled v := h.flag ht

theorem PlainRect.direct_congr (h : View.Agree table v v') : direct v' s = direct v s := by
  simp (disch := decide) only [direct, Shape.fillThenBorder, Shape.painted, Shape.borderWidth_congr h,
    Shape.isFilled_congr h, h.text, h.box]

theorem RoundedRect.direct_congr (h : View.Agree table v v') : direct v' s = direct v s := by
  simp (disch := decide) only [direct, border, radius, Shape.fillThenBorder, Shape.painted,
    Shape.borderWidth_congr h, Shape.isFilled_congr h, h.text, h.flag, h.int32, h.box]

theorem Circle.direct_congr (h : View.Agree table v v') : direct v' s = direct v s := by
  simp (disch := decide) only [direct, radius, Shape.fillThenBorder, Shape.painted,
    Shape.borderWidth_congr h, Shape.isFilled_congr h, h.text, h.box]

theorem StraightLine.stroke_congr (h : View.Agree table v v') :
    isVertical v' = isVertical v ∧ stroke v' = stroke v := by
  simp (disch := decide) only [isVertical, stroke, h.text, h.int32, and_self]

theorem StraightLine.direct_congr (h : View.Agree table v v') : direct v' s = direct v s := by
  simp (disch := decide) only [direct, strokeBox, endPoint, stroke_congr h, Shape.painted, h.text, h.x,
    h.y, h.width, h.height]

/-! ## Images -/

namespace Image

theorem assetId_congr (h : View.Agree t v v') (family location : String) :
    assetId family location v' = assetId family location v := by
  simp only [assetId, h.width, h.height]

theorem drawAsset_congr (h : View.Agree t v v') (ht : t.hasFlag "invert" = true) (id : String) :
    drawAsset v' s id = drawAsset v s id := by
  simp only [drawAsset, h.flag ht, h.x, h.y]

theorem Store.direct_congr {k : Store} {declare : View → Surroundings → String → List Component}
    (h : View.Agree t v v') (hkey : t.hasText k.key = true) (ht : t.hasFlag "invert" = true) :
    (k.behaviour t declare).direct v' s = (k.behaviour t declare).direct v s := by
  dsimp only [Store.behaviour, Store.location?, Store.id]
  simp only [h.text hkey, assetId_congr h, drawAsset_congr h ht]

theorem Store.components_congr {k : Store} {declare : View → Surroundings → String → List Component}
    (h : View.Agree t v v') (hkey : t.hasText k.key = true) {around : Surroundings}
    (hdeclare : ∀ location, declare v' around location = declare v around location) :
    (k.behaviour t declare).components v' around = (k.behaviour t declare).components v around := by
  dsimp only [Store.behaviour, Store.location?]
  simp only [h.text hkey, hdeclare]

theorem declareFile_congr (h : View.Agree t v v') (around : Surroundings) (path : String) :
    declareFile v' around path = declareFile v around path := by
  simp only [declareFile, Store.id, resizeText, assetId_congr h, h.width, h.height]

theorem declareOnline_congr (h : View.Agree onlineTable v v') (around : Surroundings) (url : String) :
    declareOnline v' around url = declareOnline v around url := by
  simp (disch := decide) only [declareOnline, Store.id, resizeText, assetId_congr h, h.ident, h.int,
    h.width, h.height]

end Image

/-! ## Touch areas and calendars -/

namespace TouchArea

variable (h : View.Agree table v v')

include h

theorem action_congr : action v' = action v := by
  simp (disch := decide) only [action, h.text, h.entity?]

theorem icon?_congr : icon? v' = icon? v ∧ iconSize v' = iconSize v := by
  simp (disch := decide) only [icon?, iconSize, h.text, h.size, and_self]

theorem direct_congr : direct v' s = direct v s := by
  unfold direct
  rw [(icon?_congr h).1, (icon?_congr h).2, h.text (by decide), h.box]

theorem steps_congr (around : Surroundings) : steps v' around = steps v around := by
  simp only [steps, action_congr h, h.entity?]

theorem components_congr (around : Surroundings) : components v' around = components v around := by
  simp only [components, sensorId, steps_congr h, h.ident, h.x, h.y, h.width, h.height]

theorem globals_congr (around : Surroundings) : globals v' around = globals v around := by
  simp only [globals, action_congr h]

theorem requirements_congr : behaviour.requirements v' = behaviour.requirements v := by
  dsimp only [behaviour]
  rw [(icon?_congr h).1, (icon?_congr h).2]

end TouchArea

namespace Calendar

variable (h : View.Agree table v v')

include h

theorem fonts_congr : dateFont v' = dateFont v ∧ dayFont v' = dayFont v ∧ gridFont v' = gridFont v := by
  simp (disch := decide) only [dateFont, dayFont, gridFont, fontOf, h.text, h.size, and_self]

theorem requirements_congr : behaviour.requirements v' = behaviour.requirements v := by
  simp only [behaviour, fonts, fonts_congr h]

theorem entries?_congr : entries? v' = entries? v := by
  simp only [entries?, h.entity?]

theorem direct_congr : direct v' s = direct v s := by
  simp (disch := decide) only [direct, fonts, rows, fonts_congr h, entries?_congr h, h.text, h.int32,
    h.box, h.x, h.y, h.width, h.height]

end Calendar

end Kinds

end DisplayLayout
