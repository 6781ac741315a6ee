import DisplayLayout.Text.Basic

/-!
# Literals of the display lambda

User text between the quotes of a literal. A line break or a tab is written as
an escape, and a carriage return, which nothing shows, is left out.
-/

namespace DisplayLayout.Lambda

/-- One character of a literal. -/
def escapeChar (c : Char) : List Char :=
  if c = '"' then ['\\', '"']
  else if c = '\\' then ['\\', '\\']
  else if c = '\n' then ['\\', 'n']
  else if c = '\r' then []
  else if c = '\t' then ['\\', 't']
  else [c]

/-- The contents of a literal that holds a text. -/
def escape (s : String) : String := String.ofList (s.toList.flatMap escapeChar)

/-- The contents of a literal that is used as a format and prints a text. -/
def escapeFormat (s : String) : String := Text.replaceChar '%' "%%" (escape s)

end DisplayLayout.Lambda
