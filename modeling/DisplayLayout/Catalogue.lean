import DisplayLayout.Project.Normal
import DisplayLayout.Widget.Calendar
import DisplayLayout.Widget.Caption
import DisplayLayout.Widget.Clock
import DisplayLayout.Widget.Control
import DisplayLayout.Widget.Entry
import DisplayLayout.Widget.Figure
import DisplayLayout.Widget.Gauge
import DisplayLayout.Widget.Graph
import DisplayLayout.Widget.Image
import DisplayLayout.Widget.Instrument
import DisplayLayout.Widget.Panel
import DisplayLayout.Widget.Picture
import DisplayLayout.Widget.ProgressBar
import DisplayLayout.Widget.QrCode
import DisplayLayout.Widget.Readout
import DisplayLayout.Widget.Shape
import DisplayLayout.Widget.TouchArea

/-!
# Catalogue

The behaviour of every widget type, and the way from a widget to its marker and
back. All that is said of widgets from here on is said of any encoder of QR
symbols.
-/

namespace DisplayLayout

variable [Qr.Encoder]

/-- What the widgets of a type do. -/
def Kind.behaviour : Kind → Behaviour
  | .text => Caption.behaviour
  | .sensorText => Readout.behaviour
  | .datetime => Clock.behaviour
  | .icon => Symbol.behaviour
  | .weatherIcon => WeatherSymbol.behaviour
  | .batteryIcon => BatteryGauge.behaviour
  | .wifiSignal => SignalGauge.behaviour
  | .progressBar => ProgressBar.behaviour
  | .qrCode => QrCode.behaviour
  | .shapeRect => PlainRect.behaviour
  | .roundedRect => RoundedRect.behaviour
  | .shapeCircle => Circle.behaviour
  | .line => StraightLine.behaviour
  | .image => Image.fileBehaviour
  | .onlineImage => Image.onlineBehaviour
  | .touchArea => TouchArea.behaviour
  | .calendar => Calendar.behaviour
  | .graph => Graph.behaviour
  | .button => Control.button
  | .label => Control.label
  | .arc => Control.arc
  | .bar => Control.bar
  | .slider => Control.slider
  | .switch => Control.switch
  | .checkbox => Control.checkbox
  | .led => Control.led
  | .meter => Instrument.meter
  | .chart => Instrument.chart
  | .dropdown => Entry.dropdown
  | .roller => Entry.roller
  | .textarea => Entry.textarea
  | .qrSymbol => Picture.symbol
  | .picture => Picture.image
  | .polyline => Picture.line
  | .box => Panel.box
  | .buttonMatrix => Entry.buttonMatrix
  | .keyboard => Entry.keyboard
  | .spinbox => Entry.spinbox
  | .tabview => Panel.tabview
  | .tileview => Panel.tileview
  | .ellipse => Figure.ellipse
  | .polygon => Figure.polygon
  | .multiline => Figure.multiline
  | .arcOutline => Figure.arcOutline
  | .debugGrid => Figure.debugGrid
  | .plot => Figure.plot
  | .iconSequence => Figure.iconSequence
  | .rectanglePattern => Figure.rectanglePattern

namespace Widget

/-- The type of a widget; none if no type has its tag. -/
def kind? (w : Widget) : Option Kind := Kind.ofTag? w.type

/-- The behaviour of a widget. -/
def behaviour? (w : Widget) : Option Behaviour := w.kind?.map Kind.behaviour

/-- A widget through the table of a behaviour. -/
def view (w : Widget) (b : Behaviour) : View := ⟨w, b.table⟩

/-- What the marker of a widget carries; nothing for a widget of no type. -/
def markerFields (w : Widget) : Keyed String :=
  match w.behaviour? with
  | some b => (w.view b).marker.fields
  | none => []

/-- A coordinate of a marker. -/
def markerNumber? (m : Marker) (key : String) : Option Int :=
  ((m.get? key).bind Json.integerOfText?).map Numeric.clampInt32

/-- The widget of a marker; none if no type has its tag. A missing place is the corner of the
page, and a missing size that of the type. -/
def ofMarker? (m : Marker) : Option Widget := do
  let blank : Widget := resolveAlias { type := m.type }
  let b ← blank.behaviour?
  let placed : Widget :=
    { blank with
      id := (m.get? "id").getD ""
      x := (markerNumber? m "x").getD 0
      y := (markerNumber? m "y").getD 0
      width := (markerNumber? m "w").getD b.size.1
      height := (markerNumber? m "h").getD b.size.2
      entityId := m.get? "ent"
      title := m.get? "title" }
  return Condition.readMarker m (View.readProps m b.table placed)

end Widget

end DisplayLayout
