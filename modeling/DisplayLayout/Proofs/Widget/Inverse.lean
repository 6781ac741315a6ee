import DisplayLayout.Proofs.Artifact.Emitted
import DisplayLayout.Qr.Symbol

/-!
# Markers read back

The marker of a widget of any type is read back as a widget with the same place
and entity, the same marker, and the same value of every property of its table
(`Widget.comesBack_ofMarker?`), whatever the properties are and however they are
spelled.
-/

namespace DisplayLayout

namespace View

/-- Two views that have the same value of a property, of the kind that its default gives. -/
def SameValue (v v' : View) (p : Property) : Prop :=
  match p.fallback with
  | .int _ => v'.int p.key = v.int p.key
  | .flag _ => v'.flag p.key = v.flag p.key
  | .text _ => v'.text p.key = v.text p.key
  | .sameAs _ => v'.text p.key = v.text p.key

/-- A value is told from the field that a marker has of it. -/
theorem sameValue_of_fieldValue {v v' : View} {p : Property}
    (h : v'.fieldValue p = v.fieldValue p) : v.SameValue v' p := by
  unfold fieldValue at h
  unfold SameValue
  cases hp : p.fallback with
  | int n =>
    rw [hp] at h
    exact toString_int_inj h
  | flag b =>
    rw [hp] at h
    exact flagText_inj h
  | text s =>
    rw [hp] at h
    exact h
  | sameAs key =>
    rw [hp] at h
    exact h

end View

namespace Widget

/-- **The marker of a widget reads back as the widget,** for every type and whatever the widget
holds. A title is exempt where it gives way to one of the table. -/
theorem comesBack_ofMarker? [Qr.Encoder] {w : Widget} {b : Behaviour} (hb : w.behaviour? = some b)
    (hplaced : w.IsPlaced) :
    ∃ w', ofMarker? (w.view b).marker = some w' ∧ w.ComesBack w'
      ∧ (w'.view b).marker = (w.view b).marker
      ∧ (∀ p ∈ b.table, (w.view b).SameValue (w'.view b) p)
      ∧ (b.table.isTitled = false → w'.heading? = w.heading?) := by
  obtain ⟨k, htype, rfl⟩ := exists_kind_of_behaviour? hb
  have hagree := w.agree_recovered k
  refine ⟨(w.view k.behaviour).recovered, ofMarker?_marker htype hplaced, ?_, ?_, ?_, ?_⟩
  · have hcomes := comesBack_recovered htype
    rwa [recovered_of_type htype] at hcomes
  · rw [View.marker_eq k.writable_table, View.marker_eq k.writable_table, fields_recovered]
    rfl
  · exact fun p hp => View.sameValue_of_fieldValue (hagree.fieldValue p hp)
  · exact hagree.heading?

/-- A chart whose title is hidden by the one of its table, with numbers as texts and a range
that no marker keeps whole. -/
theorem comesBack_ofMarker?_chart :
    let w : Widget :=
      { id := "a \"b\"", type := "lvgl_chart", x := -3, y := 2147483647, width := 5, height := -1,
        entityId := some " sensor.a ", title := some "Hidden",
        conditionEntity := some "switch.lamp", conditionOperator := some "range",
        conditionState := some "on", conditionMax := some "7",
        props := [("point_count", .string " 12.5 "), ("title", .number (.int 5)), ("opa", .null)] }
    w.behaviour? = some Kind.chart.behaviour ∧ w.IsPlaced
      ∧ ∃ w', ofMarker? (w.view Kind.chart.behaviour).marker = some w'
        ∧ (w'.view Kind.chart.behaviour).marker = (w.view Kind.chart.behaviour).marker := by
  intro w
  have hb : w.behaviour? = some Kind.chart.behaviour := rfl
  have hplaced : w.IsPlaced := ⟨by decide, by decide, by decide, by decide⟩
  obtain ⟨w', hw', -, hmarker, -⟩ := comesBack_ofMarker? hb hplaced
  exact ⟨hb, hplaced, w', hw', hmarker⟩

end Widget

end DisplayLayout
