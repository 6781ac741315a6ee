import DisplayLayout.Widget.Symbol

/-!
# Touch areas

Parts of a touchscreen that change the page or switch an entity. They exist
only on devices that have a touchscreen.
-/

namespace DisplayLayout.TouchArea

/-- The properties of a touch area. -/
def table : PropertyTable :=
  [.text "action" "none", .text "icon" "", .int "icon_size" 40, .text "color" "theme_auto"]

/-- The feature of devices with a touchscreen, the touchscreen, and the number of pages. -/
def feature : String := "touch"
def touchscreenId : String := "my_touchscreen"
def pageCountId : String := "display_page_count"

/-- Whether a device has a touchscreen. -/
def isAvailable (d : Device) : Bool := (Keyed.get? d.features feature).getD false

/-- What a touch does. -/
inductive Action where
  | nothing
  | nextPage
  | previousPage
  | reloadPage
  | toggle
deriving DecidableEq, Repr

/-- The action of a touch area. One that names none toggles its entity. -/
def action (v : View) : Action :=
  match Text.trim (v.text "action") with
  | "next_page" => .nextPage
  | "prev_page" => .previousPage
  | "previous_page" => .previousPage
  | "reload_page" => .reloadPage
  | "refresh" => .reloadPage
  | "toggle" => .toggle
  | _ => if v.entity?.isSome then .toggle else .nothing

/-- The identifier of the sensor of touches. -/
def sensorId (v : View) : String := "touch_" ++ v.ident

/-- The icon of a touch area. -/
def icon? (v : View) : Option String := Icon.normalize? (v.text "icon")

/-- The size of the icon. -/
def iconSize (v : View) : Nat := v.size "icon_size" 1

def direct (v : View) (s : Surface) : Drawing :=
  match icon? v with
  | none => {}
  | some code =>
    let (x, y) := Align.centered.anchor v.box
    .line (Symbol.glyphCall ⟨x, y, Icon.fontId (iconSize v), s.direct (v.text "color"), .centered⟩
      ("\"" ++ Icon.escape code ++ "\""))

/-- The steps that a touch runs. -/
def steps (v : View) (around : Surroundings) : List String :=
  let update := "            - component.update: " ++ around.device.displayId
  let turn (expression : String) :=
    "            - lambda: 'id(display_page) = (id(display_page) + " ++ expression ++ "id("
      ++ pageCountId ++ ");'"
  match action v with
  | .nothing => []
  | .nextPage => [turn "1) % ", update]
  | .previousPage => [turn ("id(" ++ pageCountId ++ ") - 1) % "), update]
  | .reloadPage => [update]
  | .toggle => match v.entity? with
    | some entity =>
      ["            - homeassistant.service:", "                service: homeassistant.toggle",
        "                data:", "                  entity_id: " ++ entity]
    | none => []

def components (v : View) (around : Surroundings) : List Component :=
  if isAvailable around.device then
    let w := v.widget
    let steps := steps v around
    [⟨"binary_sensor", sensorId v,
      ["  - platform: touchscreen", "    id: " ++ sensorId v, "    touchscreen_id: " ++ touchscreenId,
        s!"    x_min: {w.x}", s!"    x_max: {w.x + w.width}", s!"    y_min: {w.y}",
        s!"    y_max: {w.y + w.height}"]
      ++ if steps.isEmpty then []
        else
          ["    on_press:", "      - if:", "          condition:",
            s!"            lambda: 'return id(display_page) == {around.pageIndex};'",
            "          then:"] ++ steps⟩]
  else []

/-- The warning about a device without a touchscreen. -/
def componentEvents (v : View) (around : Surroundings) : List Event :=
  if isAvailable around.device then []
  else [⟨.warn, "touch_area on a device without a touchscreen skipped", [("widget", .text v.widget.id)]⟩]

def globals (v : View) (around : Surroundings) : List Global :=
  let pageCount : Global := { id := pageCountId, restore := false, initial := toString (max 1 around.pageCount) }
  if isAvailable around.device then
    match action v with
    | .nextPage => [pageCount]
    | .previousPage => [pageCount]
    | _ => []
  else []

/-- The type of touch areas. -/
def behaviour : Behaviour where
  modes := .directOnly
  size := (100, 100)
  table := table
  requirements v := match icon? v with
    | some code => .glyph code (iconSize v)
    | none => {}
  direct := direct
  components := components
  componentEvents := componentEvents
  globals := globals

end DisplayLayout.TouchArea
