import DisplayLayout.Proofs.Marker.Codec
import DisplayLayout.Proofs.Widget.Table

/-!
# The fields of a widget's marker

A marker is the place of its widget, the entity and the title if there are any,
the properties in the order of the table, and the condition (`marker_eq`). No
key comes twice, so every field is found under its key.
-/

namespace DisplayLayout

namespace Keyed

theorem put_put {α : Type} (m : Keyed α) (k : String) (v w : α) : put (put m k v) k w = put m k w := by
  induction m with
  | nil => simp [put]
  | cons p m ih =>
    obtain ⟨j, u⟩ := p
    by_cases h : j = k
    · simp [put, h]
    · simp [put, h, ih]

/-- Enters pairs behind others. -/
def enter {α : Type} (m n : Keyed α) : Keyed α := n.foldl (fun m p => put m p.1 p.2) m

theorem enter_append {α : Type} (m n o : Keyed α) : enter m (n ++ o) = enter (enter m n) o :=
  List.foldl_append

theorem enter_of_nodup {α : Type} {m n : Keyed α} (h : (keys (m ++ n)).Nodup) :
    enter m n = m ++ n := by
  rw [keys_append, List.nodup_append] at h
  obtain ⟨-, hn, hdisjoint⟩ := h
  exact foldl_put_of_nodup hn fun k hk hm => hdisjoint k hm k hk rfl

/-- A pair that may be missing. -/
def optional {α : Type} (k : String) (value : Option α) : Keyed α := (value.map (k, ·)).toList

theorem keys_optional_sublist {α : Type} (k : String) (value : Option α) :
    (keys (optional k value)).Sublist [k] := by
  cases value with
  | none => exact List.nil_sublist _
  | some v => exact List.Sublist.refl _

end Keyed

/-! ## Conditions -/

namespace Condition

/-- The fields of a condition: bounds for a range, a state otherwise. -/
def fields (c : Condition) : Keyed String :=
  ("cond_ent", c.entityId) :: ("cond_op", c.operator.name) ::
    if c.operator = .range then
      Keyed.optional "cond_min" c.min ++ Keyed.optional "cond_max" c.max
    else Keyed.optional "cond_state" c.state

theorem fields_pushSome (m : Marker) (key : String) (value : Option String) :
    pushSome m key value = ⟨m.type, Keyed.enter m.fields (Keyed.optional key value)⟩ := by
  cases value <;> rfl

theorem writeMarker_eq (c : Condition) (m : Marker) :
    c.writeMarker m = ⟨m.type, Keyed.enter m.fields c.fields⟩ := by
  by_cases h : c.operator = .range
  · rw [writeMarker, if_pos h, fields_pushSome, fields_pushSome, fields, if_pos h]
    simp only [Keyed.enter, List.foldl_cons, List.foldl_append]
    rfl
  · rw [writeMarker, if_neg h, fields_pushSome, fields, if_neg h]
    rfl

theorem keys_fields_sublist (c : Condition) : (Keyed.keys c.fields).Sublist conditionKeys := by
  unfold fields
  rw [Keyed.keys_cons, Keyed.keys_cons]
  refine ((List.Sublist.cons_cons _ (List.Sublist.cons_cons _ ?_)))
  split
  · rw [Keyed.keys_append]
    exact ((Keyed.keys_optional_sublist _ _).append (Keyed.keys_optional_sublist _ _)).trans
      (by decide : ["cond_min", "cond_max"].Sublist ["cond_state", "cond_min", "cond_max"])
  · exact (Keyed.keys_optional_sublist _ _).trans (by decide)

end Condition

/-- The fields of the condition of a widget, if it has one. -/
def Widget.conditionFields (w : Widget) : Keyed String :=
  ((Condition.ofWidget? w).map Condition.fields).getD []

theorem Widget.keys_conditionFields_sublist (w : Widget) :
    (Keyed.keys w.conditionFields).Sublist conditionKeys := by
  unfold conditionFields
  cases Condition.ofWidget? w with
  | none => exact List.nil_sublist _
  | some c => exact c.keys_fields_sublist

/-! ## All fields -/

namespace View

/-- The field of the entity. -/
def entityFields (v : View) : Keyed String := Keyed.optional "ent" v.entity?

/-- The field of the title, unless the table has a title of its own. -/
def headingFields (v : View) : Keyed String :=
  if v.table.isTitled then [] else Keyed.optional "title" v.heading?

/-- The fields of the properties. -/
def propertyFields (v : View) : Keyed String := v.table.map fun p => (p.key, v.fieldValue p)

/-- The fields of a marker in their order. -/
def fields (v : View) : Keyed String :=
  placement v.widget ++ (v.entityFields ++ (v.headingFields ++ (v.propertyFields
    ++ v.widget.conditionFields)))

theorem keys_propertyFields (v : View) : Keyed.keys v.propertyFields = v.table.keys := by
  rw [propertyFields, Keyed.keys, List.map_map]
  rfl

theorem keys_fields_sublist (v : View) : (Keyed.keys v.fields).Sublist v.table.markerKeys := by
  have hentity : (Keyed.keys v.entityFields).Sublist ["ent"] := Keyed.keys_optional_sublist _ _
  have hheading : (Keyed.keys v.headingFields).Sublist (if v.table.isTitled then [] else ["title"]) := by
    unfold headingFields
    split
    · exact List.Sublist.refl _
    · exact Keyed.keys_optional_sublist _ _
  simp only [fields, Keyed.keys_append, keys_propertyFields]
  exact (List.Sublist.refl placementKeys).append <| hentity.append <| hheading.append <|
    (List.Sublist.refl _).append v.widget.keys_conditionFields_sublist

theorem nodup_keys_fields {v : View} (h : v.table.Writable) : (Keyed.keys v.fields).Nodup :=
  v.keys_fields_sublist.nodup h.nodup

theorem foldl_push (v : View) (m : Marker) :
    v.table.foldl (fun m p => m.push p.key (v.fieldValue p)) m
      = ⟨m.type, Keyed.enter m.fields v.propertyFields⟩ := by
  rw [propertyFields, Keyed.enter, List.foldl_map]
  generalize v.table = t
  induction t generalizing m with
  | nil => rfl
  | cons p t ih =>
    rw [List.foldl_cons, ih, List.foldl_cons]
    rfl

/-- A title in front of the properties gives way to one among them. -/
theorem enter_heading {v : View} (h : v.table.Writable) (m : Keyed String) :
    Keyed.enter (Keyed.enter m (Keyed.optional "title" v.heading?)) v.propertyFields
      = Keyed.enter (Keyed.enter m v.headingFields) v.propertyFields := by
  unfold headingFields
  split
  · next htitled =>
    have hfirst := h.titleFirst htitled
    cases hh : v.heading? with
    | none => rfl
    | some heading =>
      cases ht : v.table with
      | nil => simp [PropertyTable.keys, ht] at hfirst
      | cons p t =>
        have hkey : p.key = "title" := by
          rw [ht] at hfirst
          exact Option.some.inj hfirst
        have hput := Keyed.put_put m "title" heading (v.fieldValue p)
        simp only [propertyFields, ht, Keyed.optional, Option.map_some, Option.toList_some, Keyed.enter,
          List.map_cons, List.foldl_cons, List.foldl_nil, hkey, hput]
  · rfl

/-- **The marker of a widget.** -/
theorem marker_eq {v : View} (h : v.table.Writable) : v.marker = ⟨v.widget.type, v.fields⟩ := by
  have hall : v.marker = ⟨v.widget.type, Keyed.enter (Keyed.enter (Keyed.enter (Keyed.enter
      (placement v.widget) v.entityFields) (Keyed.optional "title" v.heading?)) v.propertyFields)
      v.widget.conditionFields⟩ := by
    unfold marker Widget.conditionFields
    simp only [Condition.fields_pushSome, foldl_push]
    cases Condition.ofWidget? v.widget with
    | none => rfl
    | some c => exact c.writeMarker_eq _
  have hnodup := nodup_keys_fields h
  rw [hall, enter_heading h, ← Keyed.enter_append, ← Keyed.enter_append, ← Keyed.enter_append,
    Keyed.enter_of_nodup]
  · simp only [fields]
  · simpa only [fields, List.append_assoc] using hnodup

/-- A marker of the catalogue can be read back. -/
theorem isPlain_marker {v : View} (h : v.table.Writable)
    (htype : Text.isWord v.widget.type.toList = true) : v.marker.IsPlain := by
  rw [marker_eq h]
  exact ⟨htype, fun k hk => h.isWord k (v.keys_fields_sublist.subset hk), nodup_keys_fields h⟩

end View

end DisplayLayout
