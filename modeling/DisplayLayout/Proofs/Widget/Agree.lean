import DisplayLayout.Proofs.Widget.Recovered

/-!
# Widgets that agree

Two widgets of one type agree when they have the same place, entity and title
and the same value of every property of their table. Whatever only reads them
through the table cannot tell them apart, and a widget agrees with the one that
is recovered from its marker (`agree_recovered`).
-/

namespace DisplayLayout

/-! ## Kinds of properties -/

/-- Whether the value of a property is an integer. -/
def Default.isInt : Default → Bool
  | .int _ => true
  | _ => false

/-- Whether a property is on or off. -/
def Default.isFlag : Default → Bool
  | .flag _ => true
  | _ => false

namespace PropertyTable

/-- Whether a table has a text under a key. -/
def hasText (t : PropertyTable) (key : String) : Bool :=
  t.any fun p => p.key == key && p.fallback.isText

/-- Whether a table has an integer under a key. -/
def hasInt (t : PropertyTable) (key : String) : Bool :=
  t.any fun p => p.key == key && p.fallback.isInt

/-- Whether a table has something under a key that is on or off. -/
def hasFlag (t : PropertyTable) (key : String) : Bool :=
  t.any fun p => p.key == key && p.fallback.isFlag

end PropertyTable

theorem toString_int_inj {m n : Int} (h : toString m = toString n) : m = n := by
  have hm := Numeric.readSigned?_toString m
  rw [h, Numeric.readSigned?_toString n] at hm
  exact (Option.some.inj hm).symm

theorem flagText_inj {a b : Bool} (h : flagText a = flagText b) : a = b := by
  revert h
  cases a <;> cases b <;> decide

theorem flagOfText?_flagText (b : Bool) : flagOfText? (flagText b) = some b := by
  cases b <;> decide

namespace View

/-- Two views of one table that show the same. -/
structure Agree (t : PropertyTable) (v v' : View) : Prop where
  id : v'.widget.id = v.widget.id
  box : v'.box = v.box
  entity? : v'.entity? = v.entity?
  heading? : t.isTitled = false → v'.heading? = v.heading?
  fieldValue : ∀ p ∈ t, v'.fieldValue p = v.fieldValue p

namespace Agree

variable {t : PropertyTable} {v v' : View}

/-- Both views show the same of a property that the table has. -/
theorem exists_fieldValue (h : Agree t v v') {isKind : Default → Bool} {key : String}
    (hkey : (t.any fun p => p.key == key && isKind p.fallback) = true) :
    ∃ p, p.key = key ∧ isKind p.fallback = true ∧ v'.fieldValue p = v.fieldValue p := by
  obtain ⟨p, hp, hkind⟩ := List.any_eq_true.1 hkey
  rw [Bool.and_eq_true, beq_iff_eq] at hkind
  exact ⟨p, hkind.1, hkind.2, h.fieldValue p hp⟩

theorem text (h : Agree t v v') {key : String} (hkey : t.hasText key = true) :
    v'.text key = v.text key := by
  obtain ⟨p, rfl, htext, hvalue⟩ := h.exists_fieldValue hkey
  rwa [fieldValue_of_isText htext, fieldValue_of_isText htext] at hvalue

theorem int (h : Agree t v v') {key : String} (hkey : t.hasInt key = true) :
    v'.int key = v.int key := by
  obtain ⟨p, rfl, hint, hvalue⟩ := h.exists_fieldValue hkey
  rw [View.fieldValue, View.fieldValue] at hvalue
  cases hp : p.fallback with
  | int n =>
    rw [hp] at hvalue
    exact toString_int_inj hvalue
  | text s => simp [hp, Default.isInt] at hint
  | flag b => simp [hp, Default.isInt] at hint
  | sameAs other => simp [hp, Default.isInt] at hint

theorem flag (h : Agree t v v') {key : String} (hkey : t.hasFlag key = true) :
    v'.flag key = v.flag key := by
  obtain ⟨p, rfl, hflag, hvalue⟩ := h.exists_fieldValue hkey
  rw [View.fieldValue, View.fieldValue] at hvalue
  cases hp : p.fallback with
  | flag b =>
    rw [hp] at hvalue
    exact flagText_inj hvalue
  | text s => simp [hp, Default.isFlag] at hflag
  | int n => simp [hp, Default.isFlag] at hflag
  | sameAs other => simp [hp, Default.isFlag] at hflag

theorem int32 (h : Agree t v v') {key : String} (hkey : t.hasInt key = true) :
    v'.int32 key = v.int32 key := by
  rw [View.int32, h.int hkey, View.int32]

theorem size (h : Agree t v v') {key : String} (hkey : t.hasInt key = true) (least : Nat) :
    v'.size key least = v.size key least := by
  rw [View.size, h.int hkey, View.size]

theorem weight (h : Agree t v v') {key : String} (hkey : t.hasInt key = true) :
    v'.weight key = v.weight key := by
  rw [View.weight, h.int hkey, View.weight]

theorem align (h : Agree t v v') {key : String} (hkey : t.hasText key = true) :
    v'.align key = v.align key := by
  rw [View.align, h.text hkey, View.align]

theorem identWith (h : Agree t v v') (suffix : String) :
    v'.identWith suffix = v.identWith suffix := by
  rw [View.identWith, h.id, View.identWith]

theorem ident (h : Agree t v v') : v'.ident = v.ident := h.identWith ""

theorem x (h : Agree t v v') : v'.widget.x = v.widget.x := congrArg Rect.x h.box

theorem y (h : Agree t v v') : v'.widget.y = v.widget.y := congrArg Rect.y h.box

theorem width (h : Agree t v v') : v'.widget.width = v.widget.width := congrArg Rect.w h.box

theorem height (h : Agree t v v') : v'.widget.height = v.widget.height := congrArg Rect.h h.box

end Agree

end View

/-! ## The recovered widget -/

/-- A text that is worth something has no blanks at its ends. -/
theorem Text.trim_of_nonBlank? {s t : String} (h : nonBlank? s = some t) : trim t = t := by
  simp only [nonBlank?] at h
  split at h
  · exact absurd h (by simp)
  · obtain rfl := Option.some.inj h
    rw [trim, trim, String.toList_ofList, trimChars_trimChars]

theorem Text.nonBlank?_of_nonBlank? {s t : String} (h : nonBlank? s = some t) :
    nonBlank? t = some t := by
  have htrim := trim_of_nonBlank? h
  simp only [nonBlank?] at h ⊢
  split at h
  · exact absurd h (by simp)
  · next hne =>
    obtain rfl := Option.some.inj h
    rw [htrim, if_neg hne]

theorem Text.bind_nonBlank?_idem (text : Option String) :
    (text.bind nonBlank?).bind nonBlank? = text.bind nonBlank? := by
  cases h : text.bind nonBlank? with
  | none => rfl
  | some t =>
    obtain ⟨s, -, hs⟩ := Option.bind_eq_some_iff.1 h
    rw [Option.bind_some, nonBlank?_of_nonBlank? hs]

/-! ## Integers of 64 bits -/

theorem Numeric.isInt64_of_readInt64? {s : String} {n : Int} (h : readInt64? s = some n) :
    isInt64 n = true := (Option.filter_eq_some_iff.1 h).2

namespace Json

theorem isInt64_floorInt64 (x : Numeric.Binary64) : Numeric.isInt64 (floorInt64 x) = true := by
  rw [floorInt64]
  split
  · exact Numeric.isInt64_clampInt64 _
  · decide

theorem isInt64_of_integerOfText? {s : String} {n : Int} (h : integerOfText? s = some n) :
    Numeric.isInt64 n = true := by
  rw [integerOfText?] at h
  split at h
  · next m hm => exact Option.some.inj h ▸ Numeric.isInt64_of_readInt64? hm
  · obtain ⟨x, -, rfl⟩ := Option.map_eq_some_iff.1 h
    exact isInt64_floorInt64 x

/-- Whatever value is taken for an integer, it is one of 64 bits. -/
theorem isInt64_of_integer? {j : Json} {n : Int} (h : j.integer? = some n) :
    Numeric.isInt64 n = true := by
  unfold integer? at h
  split at h
  · next m =>
    split at h
    · next hm => exact Option.some.inj h ▸ hm
    · exact Option.some.inj h ▸ isInt64_floorInt64 _
  · exact Option.some.inj h ▸ isInt64_floorInt64 _
  · exact isInt64_of_integerOfText? h
  · next b => cases b <;> exact Option.some.inj h ▸ (by decide)
  · exact absurd h (by simp)

end Json

namespace View

/-- The integer of a property is one of 64 bits. -/
theorem isInt64_int (v : View) (key : String) : Numeric.isInt64 (v.int key) = true := by
  rw [int]
  split
  · next n hn =>
    obtain ⟨j, -, hj⟩ := Option.bind_eq_some_iff.1 hn
    exact Json.isInt64_of_integer? hj
  · cases hdefault : Numeric.readInt64? (Text.trim (v.defaultText key)) with
    | none => rfl
    | some n => exact Numeric.isInt64_of_readInt64? hdefault

theorem keys_spelledProps (v : View) : Keyed.keys v.spelledProps = v.table.keys := by
  rw [spelledProps, Keyed.keys, List.map_map]
  rfl

/-- Every property of the recovered widget is spelled out. -/
theorem value?_recovered {v : View} (h : v.table.Writable) {p : Property} (hp : p ∈ v.table) :
    v.recovered.props.value? p.key = some (fieldJson p.fallback (v.fieldValue p)) := by
  have hget : Keyed.get? v.spelledProps p.key = some (fieldJson p.fallback (v.fieldValue p)) := by
    refine Keyed.get?_of_mem ?_ (List.mem_map.2 ⟨p, hp, rfl⟩)
    rw [keys_spelledProps]
    exact h.keys_nodup
  have hnull : (fieldJson p.fallback (v.fieldValue p)).isNull = false := by
    cases p.fallback <;> rfl
  show (Keyed.get? v.spelledProps p.key).filter (!·.isNull) = _
  rw [hget, Option.filter_some, hnull]
  rfl

/-- What is spelled out is what was read. -/
theorem fieldValue_recovered {v v' : View} (h : v.table.Writable) (hwidget : v'.widget = v.recovered)
    {p : Property} (hp : p ∈ v.table) : v'.fieldValue p = v.fieldValue p := by
  have hvalue := value?_recovered h hp
  rw [← hwidget] at hvalue
  have htext : p.fallback.isText = true → v'.text p.key = v.text p.key := by
    intro hkind
    have hjson : fieldJson p.fallback (v.fieldValue p) = .string (v.text p.key) := by
      rw [fieldValue_of_isText hkind]
      cases hd : p.fallback with
      | text s => rfl
      | sameAs key => rfl
      | int n => simp [hd, Default.isText] at hkind
      | flag b => simp [hd, Default.isText] at hkind
    unfold text
    rw [textAt.eq_def]
    dsimp only
    rw [hvalue, hjson]
    rfl
  rw [fieldValue, fieldValue]
  -- Texts, numbers and flags are each spelled out in a way of their own.
  cases hd : p.fallback with
  | text s => exact htext (hd ▸ rfl)
  | sameAs key => exact htext (hd ▸ rfl)
  | int n =>
    have hjson : fieldJson p.fallback (v.fieldValue p) = .int (v.int p.key) := by
      simp only [fieldJson, fieldValue, hd]
      rw [Numeric.integerOfText?_toString (v.isInt64_int _), Option.getD_some]
    have hint : v'.int p.key = v.int p.key := by
      rw [int, hvalue, hjson, Option.bind_some, Json.int, Json.integer?, if_pos (v.isInt64_int _)]
    show toString (v'.int p.key) = toString (v.int p.key)
    rw [hint]
  | flag b =>
    have hjson : fieldJson p.fallback (v.fieldValue p) = .bool (v.flag p.key) := by
      simp only [fieldJson, fieldValue, hd]
      rw [flagOfText?_flagText, Option.getD_some]
    have hflag : v'.flag p.key = v.flag p.key := by
      rw [flag, hvalue, hjson]
    show flagText (v'.flag p.key) = flagText (v.flag p.key)
    rw [hflag]

end View

/-- **A widget agrees with the one that is recovered from its marker.** -/
theorem Widget.agree_recovered [Qr.Encoder] (w : Widget) (k : Kind) :
    View.Agree k.behaviour.table (w.view k.behaviour)
      ((w.view k.behaviour).recovered.view k.behaviour) where
  id := rfl
  box := rfl
  entity? := Text.bind_nonBlank?_idem _
  heading? := by
    intro htitled
    have hcarried : (w.view k.behaviour).carriedTitle = (w.view k.behaviour).heading? := by
      rw [View.carriedTitle]
      exact if_neg (Bool.eq_false_iff.1 htitled)
    show (w.view k.behaviour).carriedTitle.bind Text.nonBlank? = _
    rw [hcarried]
    exact Text.bind_nonBlank?_idem _
  fieldValue := fun p hp => View.fieldValue_recovered k.writable_table rfl hp

namespace Condition

/-- The entity of a condition has no blanks at its ends. -/
theorem nonBlank?_entityId {w : Widget} {c : Condition} (h : ofWidget? w = some c) :
    Text.nonBlank? c.entityId = some c.entityId := by
  obtain ⟨entity, hentity, rfl⟩ := Option.map_eq_some_iff.1 h
  obtain ⟨raw, -, hraw⟩ := Option.bind_eq_some_iff.1 hentity
  exact Text.nonBlank?_of_nonBlank? hraw

theorem entityId_kept (c : Condition) : c.kept.entityId = c.entityId := by
  unfold kept
  split <;> rfl

theorem operator_kept (c : Condition) : c.kept.operator = c.operator := by
  unfold kept
  split <;> rfl

theorem ofWidget?_withCondition {c : Condition} (h : Text.nonBlank? c.entityId = some c.entityId)
    (w : Widget) : ofWidget? (w.withCondition (some c)) = some c := by
  unfold ofWidget? Widget.withCondition
  dsimp only [Option.map_some, Option.bind_some]
  rw [h, Option.map_some, Option.getD_some, ofName_name]

end Condition

/-- The condition that is recovered is what the marker keeps. -/
theorem View.ofWidget?_recovered (v : View) :
    Condition.ofWidget? v.recovered = (Condition.ofWidget? v.widget).map Condition.kept := by
  rw [recovered]
  cases hc : Condition.ofWidget? v.widget with
  | none => rfl
  | some c =>
    refine Condition.ofWidget?_withCondition ?_ _
    rw [Condition.entityId_kept]
    exact Condition.nonBlank?_entityId hc

theorem Condition.fields_kept (c : Condition) : c.kept.fields = c.fields := by
  unfold Condition.kept
  split
  · next h => simp only [Condition.fields, h, if_true]
  · next h => simp only [Condition.fields, h, if_false]

theorem View.conditionFields_recovered (v : View) :
    v.recovered.conditionFields = v.widget.conditionFields := by
  rw [Widget.conditionFields, Widget.conditionFields, v.ofWidget?_recovered]
  cases Condition.ofWidget? v.widget with
  | none => rfl
  | some c => exact c.fields_kept

/-- **The marker of the recovered widget has the same fields.** -/
theorem Widget.fields_recovered [Qr.Encoder] (w : Widget) (k : Kind) :
    ((w.view k.behaviour).recovered.view k.behaviour).fields = (w.view k.behaviour).fields := by
  have h := w.agree_recovered k
  have hentity : ((w.view k.behaviour).recovered.view k.behaviour).entityFields
      = (w.view k.behaviour).entityFields := by
    rw [View.entityFields, h.entity?, View.entityFields]
  have hheading : ((w.view k.behaviour).recovered.view k.behaviour).headingFields
      = (w.view k.behaviour).headingFields := by
    rw [View.headingFields, View.headingFields]
    cases htitled : k.behaviour.table.isTitled with
    | false => rw [h.heading? htitled]; rfl
    | true =>
      have htitled : (w.view k.behaviour).table.isTitled = true := htitled
      rw [if_pos htitled]
      exact if_pos htitled
  have hproperties : ((w.view k.behaviour).recovered.view k.behaviour).propertyFields
      = (w.view k.behaviour).propertyFields := by
    refine List.map_congr_left fun p hp => ?_
    rw [h.fieldValue p hp]
  rw [View.fields, hentity, hheading, hproperties]
  show _ ++ (_ ++ (_ ++ (_ ++ (w.view k.behaviour).recovered.conditionFields))) = _
  rw [View.conditionFields_recovered]
  rfl

theorem Widget.markerFields_eq [Qr.Encoder] {w : Widget} {k : Kind} (htype : w.type = k.tag) :
    w.markerFields = (w.view k.behaviour).fields := by
  rw [Widget.markerFields, Widget.behaviour?_of_type htype]
  dsimp only
  rw [View.marker_eq k.writable_table]

theorem Widget.markerFields_recovered [Qr.Encoder] {w : Widget} {k : Kind}
    (htype : w.type = k.tag) :
    (w.view k.behaviour).recovered.markerFields = w.markerFields := by
  rw [markerFields_eq htype, ← w.fields_recovered k]
  exact markerFields_eq (w := (w.view k.behaviour).recovered) htype

end DisplayLayout
