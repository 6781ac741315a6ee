import DisplayLayout.Catalogue
import DisplayLayout.Proofs.Keyed

/-!
# Tags and tables of the catalogue

What the catalogue promises about every type: its tag is a word that names this
type only and no alias, and the keys of its table are words that no marker uses
for anything else. A title of its own stands at the front of a table.
-/

namespace DisplayLayout

/-! ## Tags -/

namespace Kind

theorem mem_all (k : Kind) : k ∈ all := by
  cases k <;> decide

theorem ofTag?_tag (k : Kind) : ofTag? k.tag = some k := by
  have h : ∀ k ∈ all, ofTag? k.tag = some k := by decide +kernel
  exact h k k.mem_all

theorem tag_injective : Function.Injective tag := by
  intro j k h
  refine Option.some.inj ?_
  rw [← j.ofTag?_tag, h, k.ofTag?_tag]

theorem tag_of_ofTag? {s : String} {k : Kind} (h : ofTag? s = some k) : s = k.tag := by
  have hfound := List.find?_some h
  exact (beq_iff_eq.1 hfound).symm

theorem isWord_tag (k : Kind) : Text.isWord k.tag.toList = true := by
  have h : ∀ k ∈ all, Text.isWord k.tag.toList = true := by decide +kernel
  exact h k k.mem_all

/-- No tag is another name of a type. -/
theorem alias_tag (k : Kind) : Alias.ofName? k.tag = none := by
  have h : ∀ k ∈ all, Alias.ofName? k.tag = none := by decide +kernel
  exact h k k.mem_all

theorem resolveAlias_tag {w : Widget} {k : Kind} (h : w.type = k.tag) : w.resolveAlias = w := by
  rw [Widget.resolveAlias, h, k.alias_tag]

end Kind

theorem Widget.kind?_eq_some_iff {w : Widget} {k : Kind} : w.kind? = some k ↔ w.type = k.tag := by
  constructor
  · exact Kind.tag_of_ofTag?
  · intro h
    rw [Widget.kind?, h, k.ofTag?_tag]

theorem Widget.behaviour?_of_type [Qr.Encoder] {w : Widget} {k : Kind} (h : w.type = k.tag) :
    w.behaviour? = some k.behaviour := by
  rw [Widget.behaviour?, Widget.kind?_eq_some_iff.2 h]
  rfl

theorem Widget.exists_kind_of_behaviour? [Qr.Encoder] {w : Widget} {b : Behaviour}
    (h : w.behaviour? = some b) :
    ∃ k : Kind, w.type = k.tag ∧ b = k.behaviour := by
  obtain ⟨k, hk, rfl⟩ := Option.map_eq_some_iff.1 h
  exact ⟨k, Widget.kind?_eq_some_iff.1 hk, rfl⟩

/-! ## Keys -/

/-- The keys of the place of a widget. -/
def placementKeys : List String := ["id", "type", "x", "y", "w", "h"]

/-- The keys of a condition. -/
def conditionKeys : List String := ["cond_ent", "cond_op", "cond_state", "cond_min", "cond_max"]

namespace PropertyTable

/-- The keys of a table. -/
def keys (t : PropertyTable) : List String := t.map Property.key

/-- Whether a table has a title of its own, which then is what a marker says under that key. -/
def isTitled (t : PropertyTable) : Bool := t.keys.contains "title"

/-- All keys that a marker can have, in their order. -/
def markerKeys (t : PropertyTable) : List String :=
  placementKeys ++ "ent" :: ((if t.isTitled then [] else ["title"]) ++ (t.keys ++ conditionKeys))

/-- A table that can be written to markers. -/
structure Writable (t : PropertyTable) : Prop where
  nodup : t.markerKeys.Nodup
  isWord : ∀ key ∈ t.markerKeys, Text.isWord key.toList = true
  titleFirst : t.isTitled = true → t.keys.head? = some "title"

theorem keys_sublist_markerKeys (t : PropertyTable) : t.keys.Sublist t.markerKeys :=
  (List.sublist_append_left _ _).trans <| (List.sublist_append_right _ _).trans <|
    (List.sublist_cons_self _ _).trans (List.sublist_append_right _ _)

theorem Writable.keys_nodup {t : PropertyTable} (h : t.Writable) : t.keys.Nodup :=
  t.keys_sublist_markerKeys.nodup h.nodup

end PropertyTable

/-- The encoder whose symbols hold no text. -/
abbrev Qr.Encoder.blank : Encoder := ⟨fun _ _ => none⟩

/-- The modes and the properties of a type are the same with any encoder, so one that can be run
will do to check what all types have. -/
theorem Kind.forall_table [Qr.Encoder] (P : Modes → PropertyTable → Prop)
    (h : ∀ k ∈ all, P (@behaviour .blank k).modes (@behaviour .blank k).table) (k : Kind) :
    P k.behaviour.modes k.behaviour.table := by
  have hmodes : k.behaviour.modes = (@behaviour .blank k).modes := by cases k <;> rfl
  have htable : k.behaviour.table = (@behaviour .blank k).table := by cases k <;> rfl
  rw [hmodes, htable]
  exact h k k.mem_all

/-- **Every table of the catalogue can be written to markers.** -/
theorem Kind.writable_table [Qr.Encoder] (k : Kind) : k.behaviour.table.Writable where
  nodup := forall_table (fun _ t => t.markerKeys.Nodup) (by decide +kernel) k
  isWord := forall_table (fun _ t => ∀ key ∈ t.markerKeys, Text.isWord key.toList = true)
    (by decide +kernel) k
  titleFirst := forall_table (fun _ t => t.isTitled = true → t.keys.head? = some "title")
    (by decide +kernel) k

end DisplayLayout
