import DisplayLayout.Proofs.Widget.Alike

/-!
# Widgets that agree have the same nodes

The widget tree reads a widget through the table of its type, too: numbers as
numbers, words as words, and nothing besides. So widgets that agree become the
same nodes, with the same bindings to their entities.
-/

namespace DisplayLayout

section Nodes

variable {t : PropertyTable} {v v' : View} {s : Surface}

/-! ## Entries and bindings -/

namespace Node

variable (h : View.Agree t v v') {key : String}

include h

theorem geometry_congr : geometry v' = geometry v := by
  simp only [geometry, h.ident, h.x, h.y, h.width, h.height]

theorem container_congr (children : List Json) : container v' children = container v children := by
  simp only [container, geometry_congr h]

theorem color_congr (hkey : t.hasText key = true) : color v' s key = color v s key := by
  simp only [color, h.text hkey]

theorem atLeast_congr (hkey : t.hasInt key = true) (least : Int) :
    atLeast v' key least = atLeast v key least := by
  simp only [atLeast, h.int hkey]

theorem flag_congr (hkey : t.hasFlag key = true) : flag v' key = flag v key := by
  simp only [flag, h.flag hkey]

theorem word_congr (hkey : t.hasText key = true) : word v' key = word v key := by
  simp only [word, h.text hkey]

theorem text_congr (hkey : t.hasText key = true) : text v' key = text v key := by
  simp only [text, h.text hkey]

theorem opacity_congr (hkey : t.hasInt "opa" = true) : opacity v' = opacity v := by
  simp only [opacity, h.int hkey]

theorem linesOf_congr (hkey : t.hasText key = true) : linesOf v' key = linesOf v key := by
  simp only [linesOf, h.text hkey]

end Node

namespace Binding

variable (h : View.Agree t v v')

include h

theorem numeric?_congr : numeric? v' = numeric? v := by
  simp only [numeric?, h.entity?]

theorem binary?_congr : binary? v' = binary? v := by
  simp only [binary?, h.entity?]

theorem text?_congr : text? v' = text? v := by
  simp only [text?, h.entity?]

theorem any?_congr : any? v' = any? v := by
  simp only [any?, h.entity?]

theorem refreshed_congr {sensor? : View → Option Sensor} (hsensor : sensor? v' = sensor? v) :
    refreshed sensor? v' = refreshed sensor? v := by
  simp only [refreshed, hsensor, h.ident]

theorem action_congr (trigger : String) (call : String → Json) :
    action v' trigger call = action v trigger call := by
  simp only [action, h.entity?]

end Binding

open Node Binding

/-! ## Controls -/

namespace Control

section Parts

variable (h : View.Agree t v v')

include h

theorem range_congr (hmin : t.hasInt "min" = true) (hmax : t.hasInt "max" = true) :
    range v' = range v := by
  simp only [range, h.int hmin, h.int hmax]

theorem value_congr (hvalue : t.hasInt "value" = true) : value v' = value v := by
  simp only [value, numeric?_congr h, h.int hvalue]

theorem filled_congr {key : String} (hkey : t.hasText key = true) : filled v' s key = filled v s key := by
  simp only [filled, color_congr h hkey]

theorem checkedState_congr (hkey : t.hasFlag "checked" = true) : checkedState v' = checkedState v := by
  simp only [checkedState, binary?_congr h, flag_congr h hkey]

theorem checkedMark_congr (hkey : t.hasText "color" = true) : checkedMark v' s = checkedMark v s := by
  simp only [checkedMark, filled_congr h hkey]

theorem toggle_congr (trigger : String) : toggle v' trigger = toggle v trigger :=
  action_congr h trigger _

end Parts

theorem buttonNode_congr (h : View.Agree buttonTable v v') : buttonNode v' s = buttonNode v s := by
  simp (disch := decide) only [buttonNode, geometry_congr h, color_congr h, atLeast_congr h,
    action_congr h, h.text]

theorem labelFont_congr (h : View.Agree labelTable v v') : labelFont v' = labelFont v := by
  simp (disch := decide) only [labelFont, h.text, h.size]

theorem labelNode_congr (h : View.Agree labelTable v v') : labelNode v' s = labelNode v s := by
  simp (disch := decide) only [labelNode, labelText, labelFont_congr h, geometry_congr h, color_congr h,
    any?_congr h, h.text, h.align]

theorem arcNode_congr (h : View.Agree arcTable v v') : arcNode v' s = arcNode v s := by
  simp (disch := decide) only [arcNode, angle, geometry_congr h, value_congr h, range_congr h,
    color_congr h, atLeast_congr h, word_congr h, h.int]

theorem barNode_congr (h : View.Agree barTable v v') : barNode v' s = barNode v s := by
  simp (disch := decide) only [barNode, geometry_congr h, value_congr h, range_congr h, color_congr h,
    filled_congr h]

theorem sliderNode_congr (h : View.Agree sliderTable v v') : sliderNode v' s = sliderNode v s := by
  simp (disch := decide) only [sliderNode, geometry_congr h, value_congr h, range_congr h,
    filled_congr h, action_congr h]

theorem switchNode_congr (h : View.Agree switchTable v v') : switchNode v' s = switchNode v s := by
  simp (disch := decide) only [switchNode, geometry_congr h, checkedState_congr h, checkedMark_congr h,
    toggle_congr h]

theorem checkboxNode_congr (h : View.Agree checkboxTable v v') :
    checkboxNode v' s = checkboxNode v s := by
  simp (disch := decide) only [checkboxNode, geometry_congr h, checkedState_congr h,
    checkedMark_congr h, toggle_congr h, h.text]

theorem ledNode_congr (h : View.Agree ledTable v v') : ledNode v' s = ledNode v s := by
  simp (disch := decide) only [ledNode, ledBrightness, brightness, geometry_congr h, color_congr h,
    binary?_congr h, h.int]

end Control

/-! ## Instruments -/

namespace Instrument

theorem meterNode_congr (h : View.Agree meterTable v v') : meterNode v' s = meterNode v s := by
  have hneedle : needle v' s = needle v s := by
    simp (disch := decide) only [needle, needleId, numeric?_congr h, color_congr h, atLeast_congr h,
      h.identWith, h.int]
  have hticks : ticks v' s = ticks v s := by
    simp (disch := decide) only [ticks, color_congr h, h.int]
  simp (disch := decide) only [meterNode, scale, hneedle, hticks, geometry_congr h, color_congr h,
    opacity_congr h, h.int]

theorem meter_sensors_congr (h : View.Agree meterTable v v') (around : Surroundings) :
    meter.sensors v' around = meter.sensors v around := by
  simp only [meter, moveNeedle, needleId, numeric?_congr h, h.identWith]

theorem chartNode_congr (h : View.Agree chartTable v v') : chartNode v' s = chartNode v s := by
  simp (disch := decide) only [chartNode, geometry_congr h, color_congr h, word_congr h, text_congr h,
    atLeast_congr h, opacity_congr h, h.int]

end Instrument

/-! ## Entry fields -/

namespace Entry

theorem selectedIndex_congr (h : View.Agree t v v') (hkey : t.hasInt "selected_index" = true) :
    selectedIndex v' = selectedIndex v := by
  simp only [selectedIndex, numeric?_congr h, atLeast_congr h hkey]

theorem dropdownNode_congr (h : View.Agree dropdownTable v v') :
    dropdownNode v' s = dropdownNode v s := by
  simp (disch := decide) only [dropdownNode, geometry_congr h, linesOf_congr h, selectedIndex_congr h,
    color_congr h, word_congr h, atLeast_congr h, opacity_congr h]

theorem rollerNode_congr (h : View.Agree rollerTable v v') : rollerNode v' s = rollerNode v s := by
  simp (disch := decide) only [rollerNode, geometry_congr h, linesOf_congr h, selectedIndex_congr h,
    color_congr h, word_congr h, atLeast_congr h, opacity_congr h]

theorem textareaNode_congr (h : View.Agree textareaTable v v') :
    textareaNode v' s = textareaNode v s := by
  simp (disch := decide) only [textareaNode, geometry_congr h, text_congr h, atLeast_congr h,
    flag_congr h]

theorem spinboxNode_congr (h : View.Agree spinboxTable v v') : spinboxNode v' s = spinboxNode v s := by
  simp (disch := decide) only [spinboxNode, geometry_congr h, numeric?_congr h, atLeast_congr h, h.int]

theorem matrixNode_congr (h : View.Agree matrixTable v v') : matrixNode v' s = matrixNode v s := by
  simp (disch := decide) only [matrixNode, geometry_congr h, color_congr h, opacity_congr h, h.text]

theorem keyboardNode_congr (h : View.Agree keyboardTable v v') :
    keyboardNode v' s = keyboardNode v s := by
  simp (disch := decide) only [keyboardNode, keyboardMode, geometry_congr h, word_congr h,
    opacity_congr h]

end Entry

/-! ## Panels and pictures -/

namespace Panel

theorem boxNode_congr (h : View.Agree boxTable v v') : boxNode v' s = boxNode v s := by
  simp (disch := decide) only [boxNode, geometry_congr h, color_congr h, atLeast_congr h,
    opacity_congr h, h.flag]

theorem tabNode_congr (h : View.Agree tabTable v v') : tabNode v' s = tabNode v s := by
  simp (disch := decide) only [tabNode, tabNames, geometry_congr h, color_congr h, word_congr h,
    linesOf_congr h, h.text, h.int]

theorem tileNode_congr (h : View.Agree tileTable v v') : tileNode v' s = tileNode v s := by
  simp (disch := decide) only [tileNode, geometry_congr h, color_congr h]

end Panel

namespace Picture

theorem symbolNode_congr (h : View.Agree symbolTable v v') : symbolNode v' s = symbolNode v s := by
  simp (disch := decide) only [symbolNode, symbolText, geometry_congr h, color_congr h, text_congr h,
    text?_congr h, h.box]

theorem imageNode_congr (h : View.Agree imageTable v v') : imageNode v' s = imageNode v s := by
  simp (disch := decide) only [imageNode, imageSource, geometry_congr h, color_congr h, h.text, h.int]

theorem lineNode_congr (h : View.Agree lineTable v v') : lineNode v' s = lineNode v s := by
  simp (disch := decide) only [lineNode, linePoints, farEnd, geometry_congr h, color_congr h,
    word_congr h, atLeast_congr h, flag_congr h, opacity_congr h, h.text, h.width, h.height]

end Picture

/-! ## Types of all modes -/

theorem Caption.retained_congr (h : View.Agree Caption.table v v') :
    Caption.retained v' s = Caption.retained v s := by
  simp (disch := decide) only [Caption.retained, Caption.font_congr h, geometry_congr h, h.text, h.align]

namespace Readout

theorem treeText_congr (h : View.Agree table v v') : treeText v' = treeText v := by
  simp (disch := decide) only [treeText, arrangement_congr h, heading, sensor?_congr h, places, before,
    behind, h.heading?, h.text, h.int]

theorem retained_congr (h : View.Agree table v v') : retained v' s = retained v s := by
  simp (disch := decide) only [retained, fonts, treeText_congr h, arrangement_congr h, fonts_congr h,
    geometry_congr h, h.text, h.align]

end Readout

theorem Clock.retained_congr (h : View.Agree Clock.table v v') :
    Clock.retained v' s = Clock.retained v s := by
  simp (disch := decide) only [Clock.retained, Clock.fonts, Clock.fonts_congr h, Clock.face,
    geometry_congr h, h.text, h.align]

theorem Symbol.label_congr (h : View.Agree t v v') (hsize : t.hasInt "size" = true)
    (hcolor : t.hasText "color" = true) (text : Json) :
    Symbol.label v' s text = Symbol.label v s text := by
  simp only [Symbol.label, geometry_congr h, Symbol.size_congr h hsize, h.text hcolor]

theorem Symbol.retained_congr (h : View.Agree Symbol.table v v') :
    Symbol.behaviour.retained v' s = Symbol.behaviour.retained v s := by
  dsimp only [Symbol.behaviour]
  rw [Symbol.code_congr h, Symbol.label_congr h (by decide) (by decide)]

theorem WeatherSymbol.retained_congr (h : View.Agree WeatherSymbol.table v v') :
    WeatherSymbol.behaviour.retained v' s = WeatherSymbol.behaviour.retained v s := by
  dsimp only [WeatherSymbol.behaviour, WeatherSymbol.readState]
  rw [WeatherSymbol.sensor_congr h, Symbol.label_congr h (by decide) (by decide)]

theorem Gauge.retained_congr {g : Gauge.Setup} (ht : Gauge.Reads t) (h : View.Agree t v v')
    (hsource : g.source v' = g.source v) (hshows : g.showsValue v' = g.showsValue v) :
    Gauge.retained g v' s = Gauge.retained g v s := by
  simp only [Gauge.retained, Gauge.stackOffsets, Gauge.readValue, Gauge.font, hsource, hshows,
    Symbol.size_congr h ht.size, container_congr h, h.identWith, h.text ht.color, h.int32 ht.size,
    h.int32 ht.fontSize, h.size ht.fontSize, h.height]

namespace ProgressBar

theorem rowText_congr (h : View.Agree table v v') : rowText v' = rowText v := by
  unfold rowText heading
  rw [(shows_congr h).1, (shows_congr h).2, sensor?_congr h, h.heading? (by decide)]

theorem retained_congr (h : View.Agree table v v') : retained v' s = retained v s := by
  simp (disch := decide) only [retained, rowHeight, rowText_congr h, font_congr h, sensor?_congr h,
    barBox_congr h, hasRow_congr h, container_congr h, h.identWith, h.text, h.int32, h.width]

end ProgressBar

theorem QrCode.retained_congr (h : View.Agree QrCode.table v v') :
    QrCode.retained v' s = QrCode.retained v s := by
  simp (disch := decide) only [QrCode.retained, h.ident, h.box, h.text, h.x, h.y]

theorem Shape.treeBox_congr (h : View.Agree t v v') (hfill : t.hasFlag "fill" = true)
    (hcolor : t.hasText "color" = true) (hborder : t.hasText "border_color" = true)
    (border radius : Int) : Shape.treeBox v' s border radius = Shape.treeBox v s border radius := by
  simp only [Shape.treeBox, Shape.isFilled_congr h hfill, geometry_congr h, h.text hcolor,
    h.text hborder]

theorem PlainRect.retained_congr (h : View.Agree PlainRect.table v v') :
    PlainRect.behaviour.retained v' s = PlainRect.behaviour.retained v s := by
  simp (disch := decide) only [PlainRect.behaviour, Shape.treeBox_congr h, Shape.borderWidth_congr h]

theorem RoundedRect.retained_congr (h : View.Agree RoundedRect.table v v') :
    RoundedRect.behaviour.retained v' s = RoundedRect.behaviour.retained v s := by
  simp (disch := decide) only [RoundedRect.behaviour, Shape.treeBox_congr h, RoundedRect.border,
    RoundedRect.radius, Shape.borderWidth_congr h, h.flag, h.int32, h.box]

theorem Circle.retained_congr (h : View.Agree Circle.table v v') :
    Circle.behaviour.retained v' s = Circle.behaviour.retained v s := by
  simp (disch := decide) only [Circle.behaviour, Shape.treeBox_congr h, Circle.radius,
    Shape.borderWidth_congr h, h.box]

theorem StraightLine.retained_congr (h : View.Agree StraightLine.table v v') :
    StraightLine.retained v' s = StraightLine.retained v s := by
  simp (disch := decide) only [StraightLine.retained, StraightLine.stroke_congr h, h.ident, h.text, h.x,
    h.y, h.width, h.height]

theorem Image.Store.retained_congr {k : Image.Store}
    {declare : View → Surroundings → String → List Component} (h : View.Agree t v v')
    (hkey : t.hasText k.key = true) :
    (k.behaviour t declare).retained v' s = (k.behaviour t declare).retained v s := by
  dsimp only [Image.Store.behaviour, Image.Store.location?, Image.Store.id, Image.treeAsset]
  simp only [h.text hkey, Image.assetId_congr h, h.ident, h.x, h.y]

theorem Calendar.retained_congr (h : View.Agree Calendar.table v v') :
    Calendar.retained v' s = Calendar.retained v s := by
  simp (disch := decide) only [Calendar.retained, Calendar.rows, Calendar.fonts, Calendar.fonts_congr h,
    container_congr h, h.identWith, h.text, h.int32]

end Nodes

end DisplayLayout
