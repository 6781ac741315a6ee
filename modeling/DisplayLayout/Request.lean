import DisplayLayout.Declaration
import DisplayLayout.Ledger

/-!
# Requests

What widgets ask a configuration to declare. Every request has an identifier,
and of several requests with one identifier the first is granted.
-/

namespace DisplayLayout

/-- Something that is to be declared. -/
inductive Request where
  | sensor (sensor : Sensor)
  | component (component : Component)
  | globalVariable (declared : Global)
deriving DecidableEq, Repr

namespace Request

/-- The identifier of a request. -/
def id : Request → String
  | sensor s => s.id
  | component c => c.key
  | globalVariable g => g.id

/-- The requests that are granted: the first ones with identifiers that are free. -/
def granted (taken : Ledger) : List Request → List Request
  | [] => []
  | r :: rest =>
    if taken.isFree r.id then r :: granted (taken.claim r.id) rest else granted taken rest

/-- The ledger after requests. -/
def claimAll (taken : Ledger) (requests : List Request) : Ledger :=
  requests.foldl (fun taken r => taken.claim r.id) taken

/-- The sensor of a request. -/
def sensor? : Request → Option Sensor
  | sensor s => some s
  | _ => none

/-- The component of a request. -/
def component? : Request → Option Component
  | component c => some c
  | _ => none

/-- The global variable of a request. -/
def global? : Request → Option Global
  | globalVariable g => some g
  | _ => none

end Request

end DisplayLayout
