import DisplayLayout.Keyed

/-!
# Events

What a run reports while it works, for a log. Events are values: a function
that reports something returns it.
-/

namespace DisplayLayout

/-- How much an event matters. -/
inductive Severity where
  | debug
  | info
  | warn
deriving DecidableEq, Repr

/-- A fact that comes with an event. -/
inductive Fact where
  | text (value : String)
  | count (value : Int)
  | flag (value : Bool)
deriving DecidableEq, Repr

/-- A report. -/
structure Event where
  severity : Severity
  message : String
  facts : Keyed Fact := []
deriving DecidableEq, Repr

namespace Severity

/-- The label of a severity, all of one width. -/
def label : Severity → String
  | debug => "DEBUG"
  | info => " INFO"
  | warn => " WARN"

end Severity

/-- The text of a fact. -/
def Fact.render : Fact → String
  | text s => s
  | count n => toString n
  | flag b => if b then "true" else "false"

/-- The line of a report in a log. -/
def Event.render (e : Event) : String :=
  e.severity.label ++ " " ++ e.message
    ++ String.join (e.facts.map fun (key, fact) => " " ++ key ++ "=" ++ fact.render)

end DisplayLayout
