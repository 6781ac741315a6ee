import DisplayLayout.Text.Basic

/-!
# Quoted values

How a value is written after its key in a one-line record, and how it is read
back. A value is written bare when nothing in it could end it early, and in
double quotes otherwise. Main statement: `unquote_quote`.
-/

namespace DisplayLayout.Marker

/-- The escaped form of one character between quotes. -/
def escapeChar (c : Char) : List Char :=
  if c = '"' then ['\\', '"']
  else if c = '\\' then ['\\', '\\']
  else if c = '\n' then ['\\', 'n']
  else if c = '\r' then ['\\', 'r']
  else [c]

/-- Escapes quotes, backslashes and line breaks. -/
def escape (cs : List Char) : List Char := cs.flatMap escapeChar

/-- Resolves the four escapes; an unknown one stands for itself. -/
def resolve : List Char → List Char
  | [] => []
  | '\\' :: '"' :: rest => '"' :: resolve rest
  | '\\' :: '\\' :: rest => '\\' :: resolve rest
  | '\\' :: 'n' :: rest => '\n' :: resolve rest
  | '\\' :: 'r' :: rest => '\r' :: resolve rest
  | '\\' :: c :: rest => '\\' :: c :: resolve rest
  | c :: rest => c :: resolve rest

/-- The characters between a quote at the start and a quote at the end, if both are there. -/
def between? : List Char → Option (List Char)
  | '"' :: rest => if rest.getLast? = some '"' then some rest.dropLast else none
  | _ => none

/-- Puts a value in quotes. -/
def quote (s : String) : String := String.ofList ('"' :: escape s.toList ++ ['"'])

/-- Removes the surrounding quotes, if there are both, and resolves the escapes. -/
def unquote (s : String) : String :=
  String.ofList (resolve ((between? s.toList).getD s.toList))

/-- A character that may not stand in a bare value. -/
def endsBare (c : Char) : Bool := Text.isBlank c || c == '"' || c == ':' || c == '\\'

/-- Writes a value bare if it is not empty and nothing in it ends a bare value. -/
def encode (s : String) : String :=
  if s.isEmpty || s.toList.any endsBare then quote s else s

theorem resolve_cons_of_ne {c : Char} (h : c ≠ '\\') (rest : List Char) :
    resolve (c :: rest) = c :: resolve rest := by
  rw [resolve] <;> grind

theorem resolve_escapeChar_append (c : Char) (rest : List Char) :
    resolve (escapeChar c ++ rest) = c :: resolve rest := by
  unfold escapeChar
  split
  · next h => subst h; simp [resolve]
  split
  · next h => subst h; simp [resolve]
  split
  · next h => subst h; simp [resolve]
  split
  · next h => subst h; simp [resolve]
  · next h _ _ => exact resolve_cons_of_ne h rest

theorem resolve_escape (cs : List Char) : resolve (escape cs) = cs := by
  induction cs with
  | nil => rfl
  | cons c rest ih =>
    rw [escape, List.flatMap_cons, resolve_escapeChar_append]
    exact congrArg (c :: ·) ih

/-- **Quoting loses nothing.** -/
theorem unquote_quote (s : String) : unquote (quote s) = s := by
  simp [unquote, quote, between?, resolve_escape]

end DisplayLayout.Marker
