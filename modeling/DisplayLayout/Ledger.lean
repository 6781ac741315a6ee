import DisplayLayout.Keyed
import DisplayLayout.Text.Basic

/-!
# Ledger and triggers

The identifiers that a run has declared, each once, and the directives that
refresh widgets when an entity changes.
-/

namespace DisplayLayout

/-- Declared identifiers in order, without repetition. -/
abbrev Ledger := List String

namespace Ledger

/-- The time source, which every configuration declares. -/
def timeSource : String := "ha_time"

/-- The ledger of a new run. -/
def initial : Ledger := [timeSource]

/-- Whether an identifier may still be declared. -/
def isFree (l : Ledger) (id : String) : Bool := !l.contains id

/-- Declares an identifier. -/
def claim (l : Ledger) (id : String) : Ledger := if l.contains id then l else l ++ [id]

end Ledger

/-- The directives of each entity, both in the order of their first registration. -/
abbrev Triggers := Keyed (List String)

namespace Triggers

/-- Registers a directive; a repeated one counts once. -/
def register (t : Triggers) (entity directive : String) : Triggers :=
  let key := Text.trim entity
  let known := (Keyed.get? t key).getD []
  t.put key (if known.contains directive then known else known ++ [directive])

end Triggers

end DisplayLayout
