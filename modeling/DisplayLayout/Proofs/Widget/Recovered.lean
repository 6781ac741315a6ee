import DisplayLayout.Proofs.Widget.Marker
import DisplayLayout.Proofs.Numeric.Decimal

/-!
# The widget of a marker

A widget is read back from its marker with everything that the marker carries
(`ofMarker?_marker`): its place, its entity and its title without blanks at
their ends, all properties of its table spelled out, and its condition.
-/

namespace DisplayLayout

namespace Keyed

theorem get?_optional_self {α : Type} (k : String) (value : Option α) :
    get? (optional k value) k = value := by
  cases value with
  | none => rfl
  | some v => exact if_pos rfl

theorem get?_optional_of_ne {α : Type} {j k : String} (h : j ≠ k) (value : Option α) :
    get? (optional j value) k = none := by
  cases value with
  | none => rfl
  | some v => exact if_neg h

end Keyed

/-- Keys of a marker that no table may use. -/
def reservedKeys : List String := placementKeys ++ "ent" :: conditionKeys

theorem PropertyTable.Writable.notMem_keys {t : PropertyTable} (h : t.Writable) {k : String}
    (hk : k ∈ reservedKeys) : k ∉ t.keys := by
  have hnodup := h.nodup
  rw [markerKeys, List.nodup_append, List.nodup_cons, List.nodup_append, List.nodup_append] at hnodup
  obtain ⟨-, ⟨hent, -, ⟨-, -, hcondition⟩, -⟩, hplacement⟩ := hnodup
  intro hkeys
  have hlater : k ∈ (if t.isTitled then [] else ["title"]) ++ (t.keys ++ conditionKeys) :=
    List.mem_append_right _ (List.mem_append_left _ hkeys)
  rcases List.mem_append.1 hk with hk | hk
  · exact hplacement k hk k (List.mem_cons_of_mem _ hlater) rfl
  rcases List.mem_cons.1 hk with rfl | hk
  · exact hent hlater
  · exact hcondition k hkeys k hk rfl

namespace Widget

/-- A widget whose place is given by 32-bit integers. -/
structure IsPlaced (w : Widget) : Prop where
  x : Numeric.isInt32 w.x = true
  y : Numeric.isInt32 w.y = true
  width : Numeric.isInt32 w.width = true
  height : Numeric.isInt32 w.height = true

theorem get?_conditionFields {w : Widget} {k : String} (hk : k ∉ conditionKeys) :
    Keyed.get? w.conditionFields k = none :=
  Keyed.get?_of_notMem fun h => hk (w.keys_conditionFields_sublist.subset h)

end Widget

namespace View

/-! ## Looking up fields -/

theorem get?_fields (v : View) (k : String) :
    Keyed.get? v.fields k = (Keyed.get? (placement v.widget) k).or
      ((Keyed.get? v.entityFields k).or ((Keyed.get? v.headingFields k).or
        ((Keyed.get? v.propertyFields k).or (Keyed.get? v.widget.conditionFields k)))) := by
  simp only [fields, Keyed.get?_append]

theorem get?_headingFields {v : View} {k : String} (hk : "title" ≠ k) :
    Keyed.get? v.headingFields k = none := by
  unfold headingFields
  split
  · rfl
  · exact Keyed.get?_optional_of_ne hk _

theorem get?_propertyFields {v : View} {k : String} (hk : k ∉ v.table.keys) :
    Keyed.get? v.propertyFields k = none := by
  rw [← v.keys_propertyFields] at hk
  exact Keyed.get?_of_notMem hk

theorem get?_fields_property {v : View} (h : v.table.Writable) {p : Property} (hp : p ∈ v.table) :
    Keyed.get? v.fields p.key = some (v.fieldValue p) := by
  refine Keyed.get?_of_mem (nodup_keys_fields h) ?_
  simp only [fields, List.mem_append]
  exact Or.inr (Or.inr (Or.inr (Or.inl (List.mem_map.2 ⟨p, hp, rfl⟩))))

theorem get?_fields_entity {v : View} (h : v.table.Writable) :
    Keyed.get? v.fields "ent" = v.entity? := by
  have hplacement : Keyed.get? (placement v.widget) "ent" = none := rfl
  rw [get?_fields, hplacement, get?_headingFields (by decide),
    get?_propertyFields (h.notMem_keys (by decide)), Widget.get?_conditionFields (by decide),
    entityFields, Keyed.get?_optional_self, Option.none_or, Option.none_or, Option.none_or,
    Option.or_none]

/-- The title that a marker carries: the one of the table, or else the heading. -/
def carriedTitle (v : View) : Option String :=
  if v.table.isTitled then some (v.text "title") else v.heading?

theorem get?_fields_title {v : View} (h : v.table.Writable)
    (htext : ∀ p ∈ v.table, p.key = "title" → v.fieldValue p = v.text "title") :
    Keyed.get? v.fields "title" = v.carriedTitle := by
  have hplacement : Keyed.get? (placement v.widget) "title" = none := rfl
  have hentity : Keyed.get? v.entityFields "title" = none :=
    Keyed.get?_optional_of_ne (by decide) _
  have hcondition : Keyed.get? v.widget.conditionFields "title" = none :=
    Widget.get?_conditionFields (by decide)
  rw [carriedTitle]
  split
  · next htitled =>
    have hmem : "title" ∈ v.table.keys := List.contains_iff_mem.1 htitled
    obtain ⟨p, hp, hkey⟩ := List.mem_map.1 hmem
    rw [← htext p hp hkey, ← get?_fields_property h hp, hkey]
  · next htitled =>
    have hmem : "title" ∉ v.table.keys := fun hm => htitled (List.contains_iff_mem.2 hm)
    have hheading : v.headingFields = Keyed.optional "title" v.heading? := by
      rw [headingFields, if_neg htitled]
    rw [get?_fields, hplacement, hentity, hcondition, get?_propertyFields hmem, hheading,
      Keyed.get?_optional_self, Option.none_or, Option.none_or, Option.none_or, Option.or_none]

theorem get?_fields_condition {v : View} (h : v.table.Writable) {k : String}
    (hk : k ∈ conditionKeys) :
    Keyed.get? v.fields k = Keyed.get? v.widget.conditionFields k := by
  have hreserved : k ∈ reservedKeys := List.mem_append_right _ (List.mem_cons_of_mem _ hk)
  have hplacement : Keyed.get? (placement v.widget) k = none := by
    refine Keyed.get?_of_notMem fun hm => ?_
    have hdisjoint : ∀ k ∈ conditionKeys, k ∉ placementKeys := by decide
    exact hdisjoint k hk hm
  have hother : ∀ k ∈ conditionKeys, "ent" ≠ k ∧ "title" ≠ k := by decide
  have hentity : Keyed.get? v.entityFields k = none :=
    Keyed.get?_optional_of_ne (hother k hk).1 _
  rw [get?_fields, hplacement, hentity, get?_headingFields (hother k hk).2,
    get?_propertyFields (h.notMem_keys hreserved), Option.none_or, Option.none_or, Option.none_or,
    Option.none_or]

theorem get?_fields_placement {v : View} {k value : String}
    (hk : Keyed.get? (placement v.widget) k = some value) : Keyed.get? v.fields k = some value := by
  rw [get?_fields, hk, Option.some_or]

end View

/-! ## The condition of a marker -/

namespace Condition

/-- What a marker keeps of a condition: bounds for a range, a state otherwise. -/
def kept (c : Condition) : Condition :=
  if c.operator = .range then { c with state := none } else { c with min := none, max := none }

theorem get?_fields_state (c : Condition) : Keyed.get? c.fields "cond_state" = c.kept.state := by
  unfold fields kept
  split
  · show Keyed.get? (Keyed.optional "cond_min" c.min ++ Keyed.optional "cond_max" c.max) _ = _
    rw [Keyed.get?_append, Keyed.get?_optional_of_ne (by decide),
      Keyed.get?_optional_of_ne (by decide)]
    rfl
  · exact Keyed.get?_optional_self _ _

theorem get?_fields_min (c : Condition) : Keyed.get? c.fields "cond_min" = c.kept.min := by
  unfold fields kept
  split
  · show Keyed.get? (Keyed.optional "cond_min" c.min ++ Keyed.optional "cond_max" c.max) _ = _
    rw [Keyed.get?_append, Keyed.get?_optional_self, Keyed.get?_optional_of_ne (by decide),
      Option.or_none]
  · exact Keyed.get?_optional_of_ne (by decide) _

theorem get?_fields_max (c : Condition) : Keyed.get? c.fields "cond_max" = c.kept.max := by
  unfold fields kept
  split
  · show Keyed.get? (Keyed.optional "cond_min" c.min ++ Keyed.optional "cond_max" c.max) _ = _
    rw [Keyed.get?_append, Keyed.get?_optional_self, Keyed.get?_optional_of_ne (by decide),
      Option.none_or]
  · exact Keyed.get?_optional_of_ne (by decide) _

/-- The name of a comparison is read as that comparison. -/
theorem ofName_name (op : Operator) : Operator.ofName op.name = op := by
  cases op <;> decide

end Condition

namespace Widget

/-- A widget with a condition, or without one. -/
def withCondition (w : Widget) (c : Option Condition) : Widget :=
  { w with
    conditionEntity := c.map Condition.entityId
    conditionOperator := c.map (·.operator.name)
    conditionState := c.bind Condition.state
    conditionMin := c.bind Condition.min
    conditionMax := c.bind Condition.max }

end Widget

/-- What is read of a marker with the fields of a condition is what the marker keeps of it. -/
theorem Condition.readMarker_of_fields {m : Marker} {c : Condition}
    (hget : ∀ k ∈ conditionKeys, m.get? k = Keyed.get? c.fields k) (w : Widget) :
    readMarker m w = w.withCondition (some c.kept) := by
  have hentity : Keyed.get? c.fields "cond_ent" = some c.kept.entityId := by
    unfold kept
    split <;> rfl
  have hoperator : Keyed.get? c.fields "cond_op" = some c.kept.operator.name := by
    unfold kept
    split <;> rfl
  rw [readMarker, hget _ (by decide), hget _ (by decide), hget _ (by decide), hget _ (by decide),
    hget _ (by decide), hentity, hoperator, c.get?_fields_state, c.get?_fields_min, c.get?_fields_max]
  rfl

namespace View

/-! ## Reading a marker -/

/-- The properties of a widget, all spelled out as its marker has them. -/
def spelledProps (v : View) : Props := v.table.map fun p => (p.key, fieldJson p.fallback (v.fieldValue p))

/-- The widget that the marker of a widget stands for. -/
def recovered (v : View) : Widget :=
  Widget.withCondition
    { id := v.widget.id
      type := v.widget.type
      x := v.widget.x
      y := v.widget.y
      width := v.widget.width
      height := v.widget.height
      entityId := v.entity?
      title := v.carriedTitle
      props := v.spelledProps }
    ((Condition.ofWidget? v.widget).map Condition.kept)

/-- Reading properties that are all there, onto a widget that has none of them. -/
theorem readProps_eq {m : Marker} {raw : Property → String} {t : PropertyTable}
    (hraw : ∀ p ∈ t, m.get? p.key = some (raw p)) {w : Widget}
    (hnodup : (Keyed.keys w.props ++ t.keys).Nodup) :
    readProps m t w
      = { w with props := w.props ++ t.map fun p => (p.key, fieldJson p.fallback (raw p)) } := by
  induction t generalizing w with
  | nil => simp [readProps]
  | cons p t ih =>
    have hnew : p.key ∉ Keyed.keys w.props := by
      intro hm
      exact (List.nodup_append.1 hnodup).2.2 _ hm _ List.mem_cons_self rfl
    have hstep : readProps m (p :: t) w
        = readProps m t (w.withProp p.key (fieldJson p.fallback (raw p))) := by
      rw [readProps, List.foldl_cons, hraw p List.mem_cons_self]
      rfl
    have hprops : (w.withProp p.key (fieldJson p.fallback (raw p))).props
        = w.props ++ [(p.key, fieldJson p.fallback (raw p))] := Keyed.put_of_notMem hnew _
    rw [hstep, ih (fun q hq => hraw q (List.mem_cons_of_mem _ hq)), hprops]
    · simp only [Widget.withProp, List.map_cons, List.append_assoc, List.singleton_append]
    · rw [hprops, Keyed.keys_append, List.append_assoc]
      exact hnodup

theorem readMarker_marker {v : View} (h : v.table.Writable) {w : Widget}
    (hw : w.withCondition none = w) : Condition.readMarker v.marker w
      = w.withCondition ((Condition.ofWidget? v.widget).map Condition.kept) := by
  have hget : ∀ k ∈ conditionKeys,
      v.marker.get? k = Keyed.get? v.widget.conditionFields k := by
    intro k hk
    rw [marker_eq h]
    exact get?_fields_condition h hk
  rw [Widget.conditionFields] at hget
  cases hc : Condition.ofWidget? v.widget with
  | none =>
    rw [hc] at hget
    rw [← hw, Condition.readMarker, hget _ (by decide)]
    rfl
  | some c =>
    rw [hc] at hget
    exact Condition.readMarker_of_fields hget w

theorem markerNumber?_marker {v : View} (h : v.table.Writable) {k : String} {n : Int}
    (hk : Keyed.get? (placement v.widget) k = some (toString n)) (hn : Numeric.isInt32 n = true) :
    Widget.markerNumber? v.marker k = some n := by
  have hget : v.marker.get? k = some (toString n) := by
    rw [marker_eq h]
    exact get?_fields_placement hk
  rw [Widget.markerNumber?, hget, Option.bind_some,
    Numeric.integerOfText?_toString (Numeric.isInt64_of_isInt32 hn), Option.map_some,
    Numeric.clampInt32_of_isInt32 hn]

end View

/-- Whether the value of a property is a text. -/
def Default.isText : Default → Bool
  | .text _ => true
  | .sameAs _ => true
  | _ => false

theorem View.fieldValue_of_isText {v : View} {p : Property} (h : p.fallback.isText = true) :
    v.fieldValue p = v.text p.key := by
  rw [fieldValue]
  cases hp : p.fallback with
  | text s => rfl
  | sameAs key => rfl
  | int n => simp [hp, Default.isText] at h
  | flag b => simp [hp, Default.isText] at h

/-- The titles of tables are texts. -/
theorem Kind.fieldValue_title [Qr.Encoder] (k : Kind) {v : View}
    (htable : v.table = k.behaviour.table)
    {p : Property} (hp : p ∈ v.table) (hkey : p.key = "title") :
    v.fieldValue p = v.text "title" := by
  have htext : ∀ p ∈ k.behaviour.table, p.key = "title" → p.fallback.isText = true :=
    forall_table (fun _ t => ∀ p ∈ t, p.key = "title" → p.fallback.isText = true)
      (by decide +kernel) k
  rw [htable] at hp
  rw [View.fieldValue_of_isText (htext p hp hkey), hkey]

/-- **The marker of a widget stands for the widget with its properties spelled out.** -/
theorem Widget.ofMarker?_marker [Qr.Encoder] {w : Widget} {k : Kind} (htype : w.type = k.tag)
    (hplaced : w.IsPlaced) :
    ofMarker? (w.view k.behaviour).marker = some (w.view k.behaviour).recovered := by
  let v := w.view k.behaviour
  have h : v.table.Writable := k.writable_table
  have hm : v.marker = ⟨k.tag, v.fields⟩ := by
    rw [View.marker_eq h, ← htype]
    rfl
  have hid : v.marker.get? "id" = some w.id := by
    rw [hm]
    exact View.get?_fields_placement rfl
  have hentity : v.marker.get? "ent" = v.entity? := by
    rw [hm]
    exact View.get?_fields_entity h
  have htitle : v.marker.get? "title" = v.carriedTitle := by
    rw [hm]
    exact View.get?_fields_title h fun p hp hkey => k.fieldValue_title rfl hp hkey
  have hblank : (resolveAlias { type := v.marker.type }) = { type := k.tag } := by
    rw [hm]
    exact Kind.resolveAlias_tag rfl
  have hbehaviour : ({ type := k.tag } : Widget).behaviour? = some k.behaviour :=
    behaviour?_of_type rfl
  have hprops : ∀ p ∈ k.behaviour.table, v.marker.get? p.key = some (v.fieldValue p) := by
    intro p hp
    rw [hm]
    exact View.get?_fields_property h hp
  let placed : Widget :=
    { id := w.id, type := k.tag, x := w.x, y := w.y, width := w.width, height := w.height,
      entityId := v.entity?, title := v.carriedTitle }
  have hread := View.readProps_eq (w := placed) hprops h.keys_nodup
  rw [ofMarker?, hblank]
  dsimp only
  rw [hbehaviour, Option.bind_eq_bind, Option.bind_some, hid, hentity, htitle,
    View.markerNumber?_marker h rfl hplaced.x, View.markerNumber?_marker h rfl hplaced.y,
    View.markerNumber?_marker h rfl hplaced.width, View.markerNumber?_marker h rfl hplaced.height,
    Option.getD_some, Option.getD_some, Option.getD_some, Option.getD_some, Option.getD_some, hread]
  refine congrArg some ((View.readMarker_marker h rfl).trans ?_)
  have hrecovered : v.recovered = Widget.withCondition
      { placed with type := w.type, props := v.spelledProps }
      ((Condition.ofWidget? w).map Condition.kept) := rfl
  rw [hrecovered, htype]
  rfl

end DisplayLayout
