/-!
# Keyed sequences

Pairs in the order in which their keys first came. Markers, documents and the
registries of a generation run all keep their entries this way, so that the
output depends on the input's order and on nothing else.
-/

namespace DisplayLayout

/-- Pairs in order of insertion; the operations below keep the keys distinct. -/
abbrev Keyed (α : Type) := List (String × α)

namespace Keyed

variable {α : Type}

/-- The keys in order. -/
def keys (m : Keyed α) : List String := m.map Prod.fst

/-- The value of a key. -/
def get? (m : Keyed α) (k : String) : Option α :=
  match m with
  | [] => none
  | (k', v) :: rest => if k' = k then some v else get? rest k

/-- Whether a key is present. -/
def contains (m : Keyed α) (k : String) : Bool := (get? m k).isSome

/-- Sets a key: a present key keeps its place, a new one goes to the end. -/
def put (m : Keyed α) (k : String) (v : α) : Keyed α :=
  match m with
  | [] => [(k, v)]
  | (k', v') :: rest => if k' = k then (k, v) :: rest else (k', v') :: put rest k v

/-- Adds a key that is not there yet; a present key keeps its value. -/
def putNew (m : Keyed α) (k : String) (v : α) : Keyed α :=
  if contains m k then m else m ++ [(k, v)]

/-- Enters pairs one after the other, the last value of a key winning. -/
def ofPairs (pairs : List (String × α)) : Keyed α :=
  pairs.foldl (fun m p => put m p.1 p.2) []

/-- Enters pairs one after the other, the first value of a key winning. -/
def ofPairsFirst (pairs : List (String × α)) : Keyed α :=
  pairs.foldl (fun m p => putNew m p.1 p.2) []

/-- Equal up to order: the same size, and every entry of one is an entry of the other. -/
def sameEntries [DecidableEq α] (m n : Keyed α) : Bool :=
  m.length == n.length && m.all fun p => decide (get? n p.1 = some p.2)

theorem get?_put_self (m : Keyed α) (k : String) (v : α) : get? (put m k v) k = some v := by
  induction m with
  | nil => simp [put, get?]
  | cons p rest ih =>
    obtain ⟨k', v'⟩ := p
    by_cases h : k' = k <;> simp [put, get?, h, ih]

theorem get?_put_of_ne (m : Keyed α) {k k' : String} (v : α) (h : k ≠ k') :
    get? (put m k v) k' = get? m k' := by
  induction m with
  | nil => simp [put, get?, h]
  | cons p rest ih =>
    obtain ⟨j, w⟩ := p
    by_cases hj : j = k
    · subst hj; simp [put, get?, h]
    · by_cases hj' : j = k'
      · subst hj'; simp [put, get?, hj]
      · simp [put, get?, hj, hj', ih]

end Keyed

end DisplayLayout
