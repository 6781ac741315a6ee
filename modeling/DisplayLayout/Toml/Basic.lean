import DisplayLayout.Keyed

/-!
# Configuration trees

The tree of a TOML file. While it is built up, a table remembers how it came to
be, because that decides which later lines may add to it.
-/

namespace DisplayLayout.Toml

/-- How a table came to be. -/
inductive Origin where
  /-- By a header of its own, or as the root. -/
  | header
  /-- As a step on the way to another header. -/
  | implied
  /-- As a step of a dotted key. -/
  | dotted
  /-- Within braces, which close it. -/
  | inline
deriving DecidableEq, Repr

/-- A value. -/
inductive Value where
  | string (value : String)
  | integer (value : Int)
  | bool (value : Bool)
  /-- A number with a fraction or an exponent, which no setting uses. -/
  | float
  /-- A date or a time, which no setting uses. -/
  | moment
  | array (items : List Value)
  | table (origin : Origin) (entries : List (String × Value))
  /-- Tables that come from repeated headers in double brackets, the last one first. -/
  | tables (last : List (String × Value)) (earlier : List (List (String × Value)))
deriving Repr, Inhabited

/-- The entries of a table. -/
abbrev Entries := List (String × Value)

/-- Descends along the path of a header and changes the table at its end. Tables that are
missing on the way come into being. -/
def atHeaderPath (f : Entries → Option Entries) : List String → Entries → Option Entries
  | [], entries => f entries
  | key :: path, entries =>
    match Keyed.get? entries key with
    | none => do
      let inner ← atHeaderPath f path []
      some (Keyed.put entries key (.table .implied inner))
    | some (.table .inline _) => none
    | some (.table origin inner) => do
      let inner ← atHeaderPath f path inner
      some (Keyed.put entries key (.table origin inner))
    | some (.tables last earlier) => do
      let last ← atHeaderPath f path last
      some (Keyed.put entries key (.tables last earlier))
    | some _ => none

/-- Descends along a dotted key and sets the value at its end. Only tables that dotted keys
made may be added to, and a key may be set only once. -/
def setDotted (value : Value) : (path : List String) → (last : String) → Entries → Option Entries
  | [], last, entries =>
    if Keyed.contains entries last then none else some (Keyed.put entries last value)
  | key :: path, last, entries =>
    match Keyed.get? entries key with
    | none => do
      let inner ← setDotted value path last []
      some (Keyed.put entries key (.table .dotted inner))
    | some (.table .dotted inner) => do
      let inner ← setDotted value path last inner
      some (Keyed.put entries key (.table .dotted inner))
    | some (.table .implied inner) =>
      if path.isEmpty then none
      else do
        let inner ← setDotted value path last inner
        some (Keyed.put entries key (.table .implied inner))
    | some _ => none

/-- Opens the table of a header: it has to be new, or only implied so far. -/
def openTable (last : String) (entries : Entries) : Option Entries :=
  match Keyed.get? entries last with
  | none => some (Keyed.put entries last (.table .header []))
  | some (.table .implied inner) => some (Keyed.put entries last (.table .header inner))
  | some _ => none

/-- Opens one more table of a header in double brackets. -/
def openElement (last : String) (entries : Entries) : Option Entries :=
  match Keyed.get? entries last with
  | none => some (Keyed.put entries last (.tables [] []))
  | some (.tables table earlier) => some (Keyed.put entries last (.tables [] (table :: earlier)))
  | some _ => none

/-- The items of a value that is a list of any kind. -/
def Value.items? : Value → Option (List Value)
  | array items => some items
  | tables last earlier => some ((last :: earlier).reverse.map (.table .header ·))
  | _ => none

/-- The entries of a value that is a table of any kind. -/
def Value.entries? : Value → Option Entries
  | table _ entries => some entries
  | _ => none

end DisplayLayout.Toml
