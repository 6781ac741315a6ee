import DisplayLayout.Proofs.Widget.Agree

/-!
# Conditions in markers

A marker keeps the bounds of a range, and the state of any other comparison. That
is all that a check reads, but for a range that is asked of an entity that is on
or off: it is checked by its state, which the marker leaves out
(`Condition.check_kept_eq`). The sensor of a condition is always kept.
-/

namespace DisplayLayout.Condition

/-! ## What a marker keeps -/

/-- A condition whose marker keeps all that is checked: a range is not asked of an entity that is
on or off. -/
def IsKept (c : Condition) : Prop := c.operator = .range → isBinaryEntity c.entityId = false

/-- Whether a condition is checked by a state for on that its marker leaves out. -/
def losesState (c : Condition) : Bool :=
  c.operator == .range && isBinaryEntity c.entityId && isPositive c.stateText

theorem IsKept.losesState_eq {c : Condition} (h : c.IsKept) : c.losesState = false := by
  rw [losesState]
  by_cases hrange : c.operator = .range
  · rw [h hrange, Bool.and_false, Bool.false_and]
  · rw [beq_false_of_ne hrange, Bool.false_and, Bool.false_and]

theorem stateText_kept {c : Condition} (h : c.operator ≠ .range) : c.kept.stateText = c.stateText := by
  rw [kept, if_neg h]
  rfl

/-- A range keeps no state. -/
theorem stateText_kept_of_range {c : Condition} (h : c.operator = .range) : c.kept.stateText = "" := by
  rw [kept, if_pos h]
  rfl

/-- A range compares numbers. -/
theorem comparesText_of_range {c : Condition} (h : c.operator = .range) : c.comparesText = false := by
  rw [comparesText, h]
  rfl

theorem sensor_kept (c : Condition) : c.kept.sensor = c.sensor := by
  have hcompares : c.kept.comparesText = c.comparesText := by
    by_cases h : c.operator = .range
    · rw [comparesText_of_range h, comparesText_of_range (c.operator_kept.trans h)]
    · rw [comparesText, comparesText, operator_kept, entityId_kept, stateText_kept h]
  rw [sensor, sensor, sensorKind, sensorKind, hcompares, entityId_kept]

/-- **The check of what a marker keeps.** It is the same check, or the opposite one where the state
is lost. -/
theorem check_kept_eq (c : Condition) :
    c.kept.check = if c.losesState then "!" ++ c.check else c.check := by
  by_cases hrange : c.operator = .range
  · cases hbinary : isBinaryEntity c.entityId with
    | true =>
      have hkind : c.sensor.kind = .binary := by
        show c.sensorKind = .binary
        rw [sensorKind, hbinary]
        rfl
      have hblank : isPositive "" = false := by decide
      have hloses : c.losesState = isPositive c.stateText := by
        rw [losesState, hrange, hbinary]
        rfl
      rw [hloses]
      unfold check
      dsimp only
      rw [sensor_kept, hkind, operator_kept, hrange, stateText_kept_of_range hrange, hblank]
      cases isPositive c.stateText with
      | true => rfl
      | false => rfl
    | false =>
      have hkind : c.sensor.kind = .numeric := by
        show c.sensorKind = .numeric
        rw [sensorKind, hbinary, comparesText_of_range hrange]
        rfl
      rw [IsKept.losesState_eq fun _ => hbinary]
      unfold check
      dsimp only
      rw [sensor_kept, hkind, operator_kept, hrange]
      dsimp only
      rw [kept, if_pos hrange]
      rfl
  · rw [IsKept.losesState_eq fun h => absurd h hrange]
    unfold check
    dsimp only
    rw [sensor_kept, operator_kept, stateText_kept hrange]
    cases c.sensor.kind with
    | numeric =>
      cases hop : c.operator with
      | range => exact absurd hop hrange
      | _ => rfl
    | _ => rfl

/-- What a marker keeps of a condition checks the same. -/
theorem check_kept {c : Condition} (h : c.IsKept) : c.kept.check = c.check := by
  rw [check_kept_eq, h.losesState_eq]
  rfl

/-! ## Writing and reading -/

/-- What is read of a marker after a condition has been written to it is what a marker keeps. -/
theorem readMarker_writeMarker {m : Marker} (hm : ∀ k ∈ conditionKeys, m.contains k = false)
    (c : Condition) (w : Widget) : readMarker (c.writeMarker m) w = w.withCondition (some c.kept) := by
  have hfree : ∀ k ∈ conditionKeys, k ∉ Keyed.keys m.fields := by
    intro k hk
    have hnone : m.get? k = none := Option.not_isSome_iff_eq_none.1 (Bool.eq_false_iff.1 (hm k hk))
    exact Keyed.get?_eq_none_iff.1 hnone
  have hnodup : (Keyed.keys c.fields).Nodup := c.keys_fields_sublist.nodup (by decide)
  have hfields : Keyed.enter m.fields c.fields = m.fields ++ c.fields :=
    Keyed.foldl_put_of_nodup hnodup fun k hk => hfree k (c.keys_fields_sublist.subset hk)
  refine readMarker_of_fields (fun k hk => ?_) w
  rw [writeMarker_eq, Marker.get?, hfields, Keyed.get?_append_of_notMem (hfree k hk)]

/-- **A condition comes back from a marker** and reads the same sensor. It is checked the same way,
unless its state is lost: then the opposite is checked. -/
theorem ofWidget?_readMarker {w : Widget} {c : Condition} (hc : ofWidget? w = some c) {m : Marker}
    (hm : ∀ k ∈ conditionKeys, m.contains k = false) (fresh : Widget) :
    ∃ back, ofWidget? (readMarker (c.writeMarker m) fresh) = some back
      ∧ back.sensor = c.sensor
      ∧ back.check = if c.losesState then "!" ++ c.check else c.check := by
  refine ⟨c.kept, ?_, c.sensor_kept, c.check_kept_eq⟩
  rw [readMarker_writeMarker hm]
  refine ofWidget?_withCondition ?_ fresh
  rw [c.entityId_kept]
  exact nonBlank?_entityId hc

/-- A state that is compared as text, with quotes and blanks, on a widget without a marker yet. -/
theorem ofWidget?_readMarker_quoted :
    let w : Widget :=
      { type := "text", conditionEntity := some " sensor.mode ", conditionOperator := some "!=",
        conditionState := some " eco \"night\" ", conditionMin := some "3" }
    ∃ c, ofWidget? w = some c ∧ c.losesState = false
      ∧ ∃ back, ofWidget? (readMarker (c.writeMarker ⟨"text", []⟩) { type := "text" }) = some back
        ∧ back.check = c.check := by
  intro w
  let c : Condition := ⟨"sensor.mode", .ne, some " eco \"night\" ", some "3", none⟩
  have hc : ofWidget? w = some c := by decide
  have hkept : c.losesState = false := by decide
  obtain ⟨back, hback, -, hcheck⟩ :=
    ofWidget?_readMarker hc (m := ⟨"text", []⟩) (fun _ _ => rfl) { type := "text" }
  rw [hkept] at hcheck
  exact ⟨c, hc, hkept, back, hback, hcheck⟩

/-- What is shown while a door is open comes back as what is shown while it is not. -/
theorem exists_opposite_check :
    let w : Widget :=
      { type := "text", conditionEntity := some "binary_sensor.door",
        conditionOperator := some "range", conditionState := some "on" }
    ∃ c back : Condition, ofWidget? w = some c
      ∧ ofWidget? (readMarker (c.writeMarker ⟨"text", []⟩) { type := "text" }) = some back
      ∧ c.check = "id(binary_sensor_door).state"
      ∧ back.check = "!id(binary_sensor_door).state" := by
  refine ⟨⟨"binary_sensor.door", .range, some "on", none, none⟩,
    ⟨"binary_sensor.door", .range, none, none, none⟩, ?_, ?_, ?_, ?_⟩
  · decide
  · decide
  · decide
  · decide

end DisplayLayout.Condition
