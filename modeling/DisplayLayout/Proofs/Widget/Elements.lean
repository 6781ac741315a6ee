import DisplayLayout.Proofs.Widget.Alike

/-!
# Widgets that agree have the same elements

Elements of a payload carry templates in place of readings. Like everything
else they are made of what the table of a type gives, so widgets that agree
become the same elements in either protocol.
-/

namespace DisplayLayout

section Elements

variable {t : PropertyTable} {v v' : View} {s : Surface} {p : Protocol}

/-! ## Types of all modes -/

theorem Caption.element_congr (h : View.Agree Caption.table v v') :
    Caption.element p v' s = Caption.element p v s := by
  simp (disch := decide) only [Caption.element, h.align, h.text, h.size, h.box, h.width]

theorem Readout.element_congr (h : View.Agree Readout.table v v') :
    Readout.element p v' s = Readout.element p v s := by
  simp (disch := decide) only [Readout.element, Readout.before, Readout.behind, Readout.places,
    Readout.heading, Readout.stackOffsets, Readout.arrangement_congr h, Readout.sensor?_congr h,
    h.heading?, h.text, h.int, h.int32, h.size, h.align, h.box, h.y, h.width, h.height]

theorem Clock.element_congr (h : View.Agree Clock.table v v') :
    Clock.element p v' s = Clock.element p v s := by
  simp (disch := decide) only [Clock.element, Clock.face, Clock.stackOffsets, h.text, h.int32, h.size,
    h.align, h.box, h.y, h.width, h.height]

theorem Symbol.icon_congr (h : View.Agree t v v') (hsize : t.hasInt "size" = true)
    (hcolor : t.hasText "color" = true) (name : String) :
    Symbol.icon p v' s name = Symbol.icon p v s name := by
  simp only [Symbol.icon, Symbol.size_congr h hsize, Symbol.top_congr h, h.text hcolor, h.box]

theorem Symbol.element_congr (h : View.Agree Symbol.table v v') :
    Symbol.behaviour.element p v' s = Symbol.behaviour.element p v s := by
  dsimp only [Symbol.behaviour]
  rw [Symbol.code_congr h, Symbol.icon_congr h (by decide) (by decide)]

theorem WeatherSymbol.element_congr (h : View.Agree WeatherSymbol.table v v') :
    WeatherSymbol.behaviour.element p v' s = WeatherSymbol.behaviour.element p v s := by
  dsimp only [WeatherSymbol.behaviour]
  rw [WeatherSymbol.sensor_congr h, Symbol.icon_congr h (by decide) (by decide)]

theorem Gauge.element_congr {g : Gauge.Setup} (ht : Gauge.Reads t) (h : View.Agree t v v')
    (hsource : g.source v' = g.source v) (hshows : g.showsValue v' = g.showsValue v) :
    Gauge.element g p v' s = Gauge.element g p v s := by
  simp only [Gauge.element, Gauge.stackOffsets, hsource, hshows, Symbol.size_congr h ht.size,
    h.text ht.color, h.int32 ht.size, h.int32 ht.fontSize, h.size ht.fontSize, h.box, h.y, h.height]

theorem ProgressBar.element_congr (h : View.Agree ProgressBar.table v v') :
    ProgressBar.element p v' s = ProgressBar.element p v s := by
  simp (disch := decide) only [ProgressBar.element, ProgressBar.heading, ProgressBar.shows_congr h,
    ProgressBar.barBox_congr h, ProgressBar.sensor?_congr h, h.heading?, h.text, h.size, h.x, h.y,
    h.width]

theorem QrCode.element_congr [Qr.Encoder] (h : View.Agree QrCode.table v v') :
    QrCode.element p v' s = QrCode.element p v s := by
  simp (disch := decide) only [QrCode.element, QrCode.scale, QrCode.level_congr h, h.text, h.int32,
    h.box, h.x, h.y]

namespace Shape

theorem protocolFill_congr (h : View.Agree t v v') (hfill : t.hasFlag "fill" = true)
    (hcolor : t.hasText "color" = true) : protocolFill v' s = protocolFill v s := by
  simp only [protocolFill, isFilled_congr h hfill, h.text hcolor]

theorem rectangleElement_congr (h : View.Agree t v v') (hfill : t.hasFlag "fill" = true)
    (hcolor : t.hasText "color" = true) (hborder : t.hasText "border_color" = true)
    (border radius : Int) : rectangleElement v' s border radius = rectangleElement v s border radius := by
  simp only [rectangleElement, protocolFill_congr h hfill hcolor, h.text hborder, h.x, h.y, h.width,
    h.height]

end Shape

theorem PlainRect.element_congr (h : View.Agree PlainRect.table v v') :
    PlainRect.behaviour.element p v' s = PlainRect.behaviour.element p v s := by
  simp (disch := decide) only [PlainRect.behaviour, Shape.rectangleElement_congr h,
    Shape.borderWidth_congr h]

theorem RoundedRect.element_congr (h : View.Agree RoundedRect.table v v') :
    RoundedRect.behaviour.element p v' s = RoundedRect.behaviour.element p v s := by
  simp (disch := decide) only [RoundedRect.behaviour, Shape.rectangleElement_congr h,
    RoundedRect.border, RoundedRect.radius, Shape.borderWidth_congr h, h.flag, h.int32, h.box]

theorem Circle.element_congr (h : View.Agree Circle.table v v') :
    Circle.element p v' s = Circle.element p v s := by
  simp (disch := decide) only [Circle.element, Circle.radius, Shape.protocolFill_congr h,
    Shape.borderWidth_congr h, h.text, h.box]

theorem StraightLine.element_congr (h : View.Agree StraightLine.table v v') :
    StraightLine.element p v' s = StraightLine.element p v s := by
  simp (disch := decide) only [StraightLine.element, StraightLine.endPoint, StraightLine.stroke_congr h,
    h.text, h.x, h.y, h.width, h.height]

theorem Image.Store.element_congr {k : Image.Store}
    {declare : View → Surroundings → String → List Component} (h : View.Agree t v v')
    (hkey : t.hasText k.key = true) :
    (k.behaviour t declare).element p v' s = (k.behaviour t declare).element p v s := by
  have hdownload (location : String) : Image.download v' location = Image.download v location := by
    simp only [Image.download, h.x, h.y, h.width, h.height]
  dsimp only [Image.Store.behaviour, Image.Store.location?]
  rw [h.text hkey, funext hdownload]

/-! ## Figures -/

namespace Figure

section Parts

variable (h : View.Agree t v v') {key : String}

include h

theorem optionalColor_congr (hkey : t.hasText key = true) :
    optionalColor v' s key = optionalColor v s key := by
  simp only [optionalColor, h.text hkey]

theorem color_congr (hkey : t.hasText key = true) : color v' s key = color v s key := by
  simp only [color, h.text hkey]

theorem atLeast_congr (hkey : t.hasInt key = true) (least : Int) :
    atLeast v' key least = atLeast v key least := by
  simp only [atLeast, h.int hkey]

theorem corners_congr : start v' = start v ∧ finish v' = finish v ∧ corner v' = corner v := by
  simp only [start, finish, corner, h.x, h.y, h.width, h.height, and_self]

end Parts

theorem ellipseElement_congr (h : View.Agree ellipseTable v v') :
    ellipseElement v' s = ellipseElement v s := by
  simp (disch := decide) only [ellipseElement, corners_congr h, optionalColor_congr h, color_congr h,
    atLeast_congr h]

theorem polygonElement_congr (h : View.Agree polygonTable v v') :
    polygonElement v' s = polygonElement v s := by
  simp (disch := decide) only [polygonElement, optionalColor_congr h, color_congr h, atLeast_congr h,
    h.text, h.x, h.y]

theorem arcElement_congr (h : View.Agree arcTable v v') : arcElement v' s = arcElement v s := by
  simp (disch := decide) only [arcElement, color_congr h, atLeast_congr h, h.int, h.box]

theorem multilineElement_congr (h : View.Agree multilineTable v v') :
    multilineElement v' s = multilineElement v s := by
  simp (disch := decide) only [multilineElement, delimiter, color_congr h, atLeast_congr h, h.text,
    h.size, h.x, h.y]

theorem sequenceElement_congr (h : View.Agree sequenceTable v v') :
    sequenceElement p v' s = sequenceElement p v s := by
  simp (disch := decide) only [sequenceElement, direction, color_congr h, atLeast_congr h, h.text,
    h.size, h.x, h.y]

theorem gridElement_congr (h : View.Agree gridTable v v') : gridElement v' s = gridElement v s := by
  simp (disch := decide) only [gridElement, color_congr h, atLeast_congr h]

theorem plotElement_congr (h : View.Agree plotTable v v') : plotElement v' s = plotElement v s := by
  simp (disch := decide) only [plotElement, series, corners_congr h, color_congr h, atLeast_congr h,
    h.entity?, h.flag]

theorem patternElement_congr (h : View.Agree patternTable v v') :
    patternElement v' s = patternElement v s := by
  simp (disch := decide) only [patternElement, corners_congr h, color_congr h, atLeast_congr h]

end Figure

end Elements

end DisplayLayout
