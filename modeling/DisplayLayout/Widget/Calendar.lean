import DisplayLayout.Lambda.Statement
import DisplayLayout.Ledger
import DisplayLayout.Widget.Node

/-!
# Calendars

The date of today above the days of its month.
-/

namespace DisplayLayout.Calendar

/-- The properties of a calendar. -/
def table : PropertyTable :=
  [.text "font_family" "Roboto", .int "date_font_size" 48, .int "day_font_size" 20,
    .int "grid_font_size" 14, .text "color" "theme_auto"]

/-- The fonts of the date, of the day of the week, and of the days of the month. -/
def fontOf (v : View) (weight : Nat) (key : String) : Font :=
  Font.of (v.text "font_family") weight (v.size key 1) false

def dateFont (v : View) : Font := fontOf v 700 "date_font_size"
def dayFont (v : View) : Font := fontOf v 400 "day_font_size"
def gridFont (v : View) : Font := fontOf v 400 "grid_font_size"

def fonts (v : View) : Drawing := .font (dateFont v) ++ .font (dayFont v) ++ .font (gridFont v)

/-- The sensor of the entries of a calendar. -/
def entries? (v : View) : Option Sensor :=
  v.entity?.map fun entity => (Sensor.of .text entity).withAttribute "entries"

/-- The number of days of the current month. -/
def daysInMonth : List String :=
  ["static const int month_days[] = \x7b31, 28, 31, 30, 31, 30, 31, 31, 30, 31, 30, 31\x7d;",
    "int days = month_days[(now.month - 1) % 12];",
    "if (now.month == 2 && ((now.year % 4 == 0 && now.year % 100 != 0) || now.year % 400 == 0)) days = 29;"]

/-- The column of the first day of the month, weeks starting on Monday. -/
def firstColumn : String := "int first = ((now.day_of_week + 5) - (now.day_of_month - 1) % 7 + 7) % 7;"

/-- The statement that reads the time source. -/
def readTime : String := "auto now = id(" ++ Ledger.timeSource ++ ").now();"

/-- Where the rows of a calendar begin, from its upper edge. -/
structure Rows where
  day : Int
  month : Int
  grid : Int

def rows (v : View) : Rows :=
  let day := v.int32 "date_font_size" + 2
  let month := day + v.int32 "day_font_size" + 2
  ⟨day, month, month + v.int32 "grid_font_size" + 6⟩

def direct (v : View) (s : Surface) : Drawing :=
  let w := v.widget
  let color := s.direct (v.text "color")
  let top := Align.topCenter.direct
  let r := rows v
  let gridSize := v.int32 "grid_font_size"
  let gridTop := w.y + r.grid
  let rowHeight := gridSize + 4
  let cell := max 1 (Int.tdiv w.width 7)
  let half := Int.tdiv cell 2
  let grid := (gridFont v).id
  let heading (y : Int) (f : Font) (format : String) :=
    "    " ++ Lambda.strftime ⟨v.box.centerX, y, f.id, color, .topCenter⟩ format
  let cellCall (color : String) :=
    s!"        it.printf(cx, cy, id({grid}), {color}, {top}, \"%d\", d);"
  fonts v ++ .ofLines
    (["\x7b", Lambda.indent readTime, "  if (now.is_valid()) \x7b",
      heading w.y (dateFont v) "%d", heading (w.y + r.day) (dayFont v) "%A",
      heading (w.y + r.month) (gridFont v) "%B %Y"]
    ++ daysInMonth.map ("    " ++ ·)
    ++ ["    " ++ firstColumn,
      "    const char *weekdays[] = \x7b\"Mo\", \"Tu\", \"We\", \"Th\", \"Fr\", \"Sa\", \"Su\"\x7d;",
      "    for (int c = 0; c < 7; c++) \x7b",
      s!"      it.print({w.x} + c * {cell} + {half}, {gridTop}, id({grid}), {color}, {top}, weekdays[c]);",
      "    \x7d",
      "    for (int d = 1; d <= days; d++) \x7b",
      "      int slot = first + d - 1;",
      s!"      int cx = {w.x} + (slot % 7) * {cell} + {half};",
      s!"      int cy = {gridTop} + (slot / 7 + 1) * {rowHeight};",
      "      if (d == now.day_of_month) \x7b",
      s!"        it.filled_rectangle(cx - {half - 1}, cy - 1, {max (cell - 2) 1}, {rowHeight}, {color});",
      cellCall s.background,
      "      \x7d else \x7b",
      cellCall color,
      "      \x7d",
      "    \x7d",
      "  \x7d"]
    ++ (match entries? v with
      | some sensor =>
        [Lambda.indent (Lambda.printf ⟨w.x, w.y + w.height - gridSize - 2, grid, color, .topLeft⟩ "%s"
          (Lambda.state sensor.id ++ ".c_str()"))]
      | none => [])
    ++ ["\x7d"])

/-- The current time in a format, in the widget tree. -/
def treeTime (format : String) : Json :=
  Node.lambda ("return id(" ++ Ledger.timeSource ++ ").now().strftime(\"" ++ format ++ "\");")

/-- The code that writes the days of the month as text. -/
def gridCode : List String :=
  [readTime, "if (!now.is_valid()) return std::string(\"\");"] ++ daysInMonth ++
  [firstColumn,
    "std::string out = \"Mo Tu We Th Fr Sa Su\\n\";",
    "for (int i = 0; i < first; i++) out += \"   \";",
    "for (int d = 1; d <= days; d++) \x7b",
    "  char cell[4];",
    "  snprintf(cell, sizeof(cell), \"%2d \", d);",
    "  out += cell;",
    "  if ((first + d) % 7 == 0) out += \"\\n\";",
    "\x7d",
    "return out;"]

def retained (v : View) (s : Surface) : Branch :=
  let color := s.retained (v.text "color")
  let r := rows v
  ⟨some (Node.container v
    [Node.childLabel (v.identWith "_date") 0 (treeTime "%d") (dateFont v).id color,
      Node.childLabel (v.identWith "_day") r.day (treeTime "%A") (dayFont v).id color,
      Node.childLabel (v.identWith "_month") r.month (treeTime "%B %Y") (gridFont v).id color,
      Node.childLabel (v.identWith "_grid") r.grid (Node.lambda (Text.join "\n" gridCode))
        (gridFont v).id color]),
    fonts v⟩

/-- The type of calendars. -/
def behaviour : Behaviour where
  modes := .screen
  size := (300, 300)
  table := table
  requirements := fonts
  direct := direct
  retained := retained
  sensors v _ := (entries? v).toList

end DisplayLayout.Calendar
