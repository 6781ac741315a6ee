import DisplayLayout.Align
import DisplayLayout.Drawing
import DisplayLayout.Lambda.Literal

/-!
# Statements of the display lambda

Calls that draw text. The text of the user stands in a literal, and only in a
literal.
-/

namespace DisplayLayout.Lambda

/-- A literal with a text. -/
def literal (s : String) : String := "\"" ++ escape s ++ "\""

/-- The state of a sensor. -/
def state (id : String) : String := "id(" ++ id ++ ").state"

/-- Where and how a text is drawn. -/
structure TextStyle where
  x : Int
  y : Int
  font : String
  color : String
  align : Align
deriving DecidableEq, Repr

/-- The arguments that every text call starts with. -/
def TextStyle.arguments (s : TextStyle) : String :=
  s!"{s.x}, {s.y}, id({s.font}), {s.color}, {s.align.direct}"

/-- Draws a text. -/
def print (style : TextStyle) (text : String) : String :=
  "it.print(" ++ style.arguments ++ ", " ++ literal text ++ ");"

/-- Draws values in a format, which is given as the contents of a literal. -/
def printf (style : TextStyle) (format arguments : String) : String :=
  "it.printf(" ++ style.arguments ++ ", \"" ++ format ++ "\", " ++ arguments ++ ");"

/-- Draws a point in time in a format. -/
def strftime (style : TextStyle) (format : String) : String :=
  "it.strftime(" ++ style.arguments ++ ", \"" ++ format ++ "\", now);"

/-- Numbers as arguments of a call. -/
def arguments (ns : List Int) : String := Text.join ", " (ns.map toString)

/-- A call of a drawing primitive: its name, its numbers and its color. -/
def shape (name : String) (ns : List Int) (color : String) : String :=
  "it." ++ name ++ "(" ++ arguments ns ++ ", " ++ color ++ ");"

/-- Fills a box. -/
def fillRect (box : Rect) (color : String) : String :=
  shape "filled_rectangle" [box.x, box.y, box.w, box.h] color

/-- Outlines a box. -/
def outlineRect (box : Rect) (color : String) : String :=
  shape "rectangle" [box.x, box.y, box.w, box.h] color

/-- Draws a border as nested outlines. -/
def outlineBorder (box : Rect) (border : Int) (color : String) : List String :=
  (box.nested border).map (outlineRect · color)

/-- Indents a line by one step. -/
def indent (line : String) : String := "  " ++ line

end DisplayLayout.Lambda
