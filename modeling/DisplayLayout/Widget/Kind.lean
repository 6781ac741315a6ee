import DisplayLayout.Keyed

/-!
# Widget types

The types a widget can have, in the order of the catalogue, and the other names
under which projects know some of them.
-/

namespace DisplayLayout

/-- A widget type. -/
inductive Kind where
  | text
  | sensorText
  | datetime
  | icon
  | weatherIcon
  | batteryIcon
  | wifiSignal
  | progressBar
  | qrCode
  | shapeRect
  | roundedRect
  | shapeCircle
  | line
  | image
  | onlineImage
  | touchArea
  | calendar
  | graph
  | button
  | label
  | arc
  | bar
  | slider
  | switch
  | checkbox
  | led
  | meter
  | chart
  | dropdown
  | roller
  | textarea
  | qrSymbol
  | picture
  | polyline
  | box
  | buttonMatrix
  | keyboard
  | spinbox
  | tabview
  | tileview
  | ellipse
  | polygon
  | multiline
  | arcOutline
  | debugGrid
  | plot
  | iconSequence
  | rectanglePattern
deriving DecidableEq, Repr, Inhabited

namespace Kind

/-- All types in order. -/
def all : List Kind :=
  [text, sensorText, datetime, icon, weatherIcon, batteryIcon, wifiSignal, progressBar, qrCode,
    shapeRect, roundedRect, shapeCircle, line, image, onlineImage, touchArea, calendar, graph,
    button, label, arc, bar, slider, switch, checkbox, led, meter, chart, dropdown, roller,
    textarea, qrSymbol, picture, polyline, box, buttonMatrix, keyboard, spinbox, tabview, tileview,
    ellipse, polygon, multiline, arcOutline, debugGrid, plot, iconSequence, rectanglePattern]

/-- The tag of a type in projects and markers. -/
def tag : Kind → String
  | text => "text"
  | sensorText => "sensor_text"
  | datetime => "datetime"
  | icon => "icon"
  | weatherIcon => "weather_icon"
  | batteryIcon => "battery_icon"
  | wifiSignal => "wifi_signal"
  | progressBar => "progress_bar"
  | qrCode => "qr_code"
  | shapeRect => "shape_rect"
  | roundedRect => "rounded_rect"
  | shapeCircle => "shape_circle"
  | line => "line"
  | image => "image"
  | onlineImage => "online_image"
  | touchArea => "touch_area"
  | calendar => "calendar"
  | graph => "graph"
  | button => "lvgl_button"
  | label => "lvgl_label"
  | arc => "lvgl_arc"
  | bar => "lvgl_bar"
  | slider => "lvgl_slider"
  | switch => "lvgl_switch"
  | checkbox => "lvgl_checkbox"
  | led => "lvgl_led"
  | meter => "lvgl_meter"
  | chart => "lvgl_chart"
  | dropdown => "lvgl_dropdown"
  | roller => "lvgl_roller"
  | textarea => "lvgl_textarea"
  | qrSymbol => "lvgl_qrcode"
  | picture => "lvgl_img"
  | polyline => "lvgl_line"
  | box => "lvgl_obj"
  | buttonMatrix => "lvgl_buttonmatrix"
  | keyboard => "lvgl_keyboard"
  | spinbox => "lvgl_spinbox"
  | tabview => "lvgl_tabview"
  | tileview => "lvgl_tileview"
  | ellipse => "odp_ellipse"
  | polygon => "odp_polygon"
  | multiline => "odp_multiline"
  | arcOutline => "odp_arc"
  | debugGrid => "debug_grid"
  | plot => "odp_plot"
  | iconSequence => "odp_icon_sequence"
  | rectanglePattern => "odp_rectangle_pattern"

/-- The type with a tag. -/
def ofTag? (s : String) : Option Kind := all.find? fun k => k.tag == s

end Kind

/-- Another name of a type, with the properties that the name implies. -/
structure Alias where
  name : String
  kind : Kind
  implied : List (String × String) := []
deriving Repr

namespace Alias

/-- All other names. -/
def all : List Alias :=
  [⟨"label", .text, []⟩,
    ⟨"rectangle", .shapeRect, []⟩,
    ⟨"rrect", .roundedRect, []⟩,
    ⟨"circle", .shapeCircle, []⟩,
    ⟨"qrcode", .qrCode, []⟩,
    ⟨"progress", .progressBar, []⟩,
    ⟨"puppet", .onlineImage, []⟩,
    ⟨"nav_next_page", .touchArea, [("action", "next_page")]⟩,
    ⟨"nav_previous_page", .touchArea, [("action", "prev_page")]⟩,
    ⟨"nav_reload_page", .touchArea, [("action", "reload_page")]⟩,
    ⟨"multiline", .multiline, []⟩,
    ⟨"polygon", .polygon, []⟩,
    ⟨"ellipse", .ellipse, []⟩,
    ⟨"arc", .arcOutline, []⟩]

/-- The alias with a name. -/
def ofName? (s : String) : Option Alias := all.find? fun a => a.name == s

/-- The other names of a type. -/
def namesOf (k : Kind) : List String := (all.filter fun a => a.kind == k).map Alias.name

end Alias

end DisplayLayout
