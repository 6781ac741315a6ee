import DisplayLayout.Font
import DisplayLayout.Proofs.Text.Words
import DisplayLayout.Widget.View

/-!
# Identifiers are words

Every identifier is a word, whatever the texts are that it is made of: those of
sensors (`Sensor.isWordText_id_of`), of fonts (`Font.isWordText_id`) and of
widgets (`View.isWordText_identWith`). Those of widgets are names that the
compiler takes, and are told apart by their suffixes (`View.isName_identWith`).
-/

namespace DisplayLayout

open Text

namespace Identifier

/-- A name that the compiler takes. -/
structure IsName (name : String) : Prop where
  nonempty : name ≠ ""
  word : IsWordText name
  start : ∀ c ∈ name.toList.head?, c.isDigit = false
  fits : name.utf8ByteSize ≤ 63

theorem isWordText_sanitize {suffix : String} (h : IsWordText suffix) (raw : String) :
    IsWordText (sanitize raw suffix) := by
  rw [sanitize, isWordText_append, isWordText_ofList]
  refine ⟨fun c hc => ?_, h⟩
  exact (List.mem_filter.1 (List.mem_of_mem_take hc)).2

/-- **What is cut fits,** whatever it is made of, if its suffix does. -/
theorem utf8ByteSize_sanitize (raw : String) {suffix : String}
    (h : suffix.utf8ByteSize ≤ maxLength) : (sanitize raw suffix).utf8ByteSize ≤ maxLength := by
  have hcut : IsWordText
      (String.ofList ((raw.toList.filter isWordChar).take (maxLength - suffix.utf8ByteSize))) := by
    rw [isWordText_ofList]
    exact fun c hc => (List.mem_filter.1 (List.mem_of_mem_take hc)).2
  have hlength := List.length_take_le (maxLength - suffix.utf8ByteSize) (raw.toList.filter isWordChar)
  rw [sanitize, String.utf8ByteSize_append, hcut.utf8ByteSize_eq, String.length_ofList]
  omega

theorem suffix_sanitize (raw suffix : String) : suffix.toList <:+ (sanitize raw suffix).toList := by
  rw [sanitize, String.toList_append]
  exact List.suffix_append _ _

theorem isWordText_ofEntity {suffix : String} (h : IsWordText suffix) (entity : String) :
    IsWordText (ofEntity entity suffix) :=
  isWordText_sanitize h _

theorem isWordText_slug (raw : String) : IsWordText (slug raw) := by
  rw [slug, isWordText_ofList]
  intro c hc
  obtain ⟨d, -, rfl⟩ := List.mem_map.1 hc
  split
  · next hd => exact isWordChar_toLower hd
  · decide

end Identifier

theorem SensorKind.isWordText_suffix (kind : SensorKind) : IsWordText kind.suffix := by
  cases kind <;> decide

theorem Sensor.isWordText_id_of (kind : SensorKind) (entity : String) :
    IsWordText (Sensor.of kind entity).id :=
  Identifier.isWordText_ofEntity kind.isWordText_suffix _

theorem Sensor.isWordText_id_withAttribute (s : Sensor) (name : String) :
    IsWordText (s.withAttribute name).id :=
  Identifier.isWordText_ofEntity s.kind.isWordText_suffix _

theorem Font.isWordText_id (f : Font) : IsWordText f.id := by
  have hslug := Identifier.isWordText_slug f.family
  have hstyle : IsWordText (if f.italic then "_italic" else "") := by
    cases f.italic <;> decide
  simp only [Font.id, isWordText_append]
  exact ⟨⟨⟨by decide, hslug⟩, ⟨⟨⟨by decide, isWordText_toString _⟩, by decide⟩,
    isWordText_toString _⟩⟩, hstyle⟩

theorem Icon.isWordText_fontId (size : Nat) : IsWordText (Icon.fontId size) := by
  rw [Icon.fontId, isWordText_append]
  exact ⟨by decide, isWordText_toString size⟩

namespace View

theorem isWordText_identWith (v : View) {suffix : String} (h : IsWordText suffix) :
    IsWordText (v.identWith suffix) := by
  rw [identWith]
  split <;> exact Identifier.isWordText_sanitize h _

theorem isWordText_ident (v : View) : IsWordText v.ident := v.isWordText_identWith (by decide)

theorem utf8ByteSize_identWith (v : View) {suffix : String}
    (h : suffix.utf8ByteSize ≤ Identifier.maxLength) :
    (v.identWith suffix).utf8ByteSize ≤ Identifier.maxLength := by
  unfold identWith
  dsimp only
  split <;> exact Identifier.utf8ByteSize_sanitize _ h

theorem suffix_identWith (v : View) (suffix : String) :
    suffix.toList <:+ (v.identWith suffix).toList := by
  rw [identWith]
  split <;> exact Identifier.suffix_sanitize _ suffix

/-- A letter in front stays if there is room for it. -/
theorem head?_sanitize_lead (raw : String) {suffix : String} (h : suffix.utf8ByteSize ≤ 61) :
    (Identifier.sanitize ("w_" ++ raw) suffix).toList.head? = some 'w' := by
  have hroom : ∃ n, Identifier.maxLength - suffix.utf8ByteSize = n + 1 := by
    have hmax : Identifier.maxLength = 63 := rfl
    exact ⟨62 - suffix.utf8ByteSize, by omega⟩
  obtain ⟨n, hn⟩ := hroom
  have hlead : ("w_" ++ raw).toList = 'w' :: '_' :: raw.toList := String.toList_append
  have hkeep : isWordChar 'w' = true := by decide
  rw [Identifier.sanitize, hn, hlead, List.filter_cons_of_pos hkeep, List.take_succ_cons,
    String.toList_append, String.toList_ofList, List.cons_append, List.head?_cons]

/-- An identifier has a first character, and it is no digit. -/
theorem exists_head_identWith (v : View) {suffix : String} (h : suffix.utf8ByteSize ≤ 61) :
    ∃ c, (v.identWith suffix).toList.head? = some c ∧ c.isDigit = false := by
  rw [identWith]
  split
  · exact ⟨'w', head?_sanitize_lead _ h, by decide⟩
  · next hkept =>
    rw [Bool.or_eq_true, not_or, beq_iff_eq] at hkept
    obtain ⟨hdigit, hsuffix⟩ := hkept
    cases hhead : (Identifier.sanitize v.widget.id suffix).toList.head? with
    | some c => exact ⟨c, rfl, by simpa [hhead] using hdigit⟩
    | none =>
      -- an identifier without characters is its suffix
      have hempty := List.head?_eq_none_iff.1 hhead
      have htail := Identifier.suffix_sanitize v.widget.id suffix
      rw [hempty, List.suffix_nil] at htail
      exact absurd (String.toList_inj.1 (hempty.trans htail.symm)) hsuffix

/-- **Every identifier of a widget is a name that the compiler takes,** and ends in its suffix, so
that suffixes which tell apart keep identifiers apart, of whatever widgets. -/
theorem isName_identWith (v : View) {suffix : String} (hword : IsWordText suffix)
    (hfits : suffix.utf8ByteSize ≤ 61) :
    Identifier.IsName (v.identWith suffix)
      ∧ suffix.toList <:+ (v.identWith suffix).toList
      ∧ ∀ (w : View) (other : String), ¬suffix.toList <:+ other.toList →
          ¬other.toList <:+ suffix.toList → w.identWith other ≠ v.identWith suffix := by
  obtain ⟨c, hhead, hdigit⟩ := v.exists_head_identWith hfits
  refine ⟨⟨?_, v.isWordText_identWith hword, ?_, ?_⟩, v.suffix_identWith suffix, ?_⟩
  · rintro hempty
    rw [hempty] at hhead
    cases hhead
  · intro d hd
    rw [Option.mem_def, hhead] at hd
    exact Option.some.inj hd ▸ hdigit
  · exact v.utf8ByteSize_identWith (hfits.trans (by decide))
  · intro w other hother hsuffix heq
    have htail := w.suffix_identWith other
    rw [heq] at htail
    exact (List.suffix_or_suffix_of_suffix (v.suffix_identWith suffix) htail).elim hother hsuffix

/-- An identifier that begins with a digit and is too long. -/
theorem isName_identWith_long :
    let v : View := ⟨{ id := "42 " ++ String.ofList (List.replicate 70 'q'), type := "progress_bar" }, []⟩
    let w : View := ⟨{ id := "Küche", type := "progress_bar" }, []⟩
    IsWordText "_label" ∧ "_label".utf8ByteSize ≤ 61 ∧ Identifier.IsName (v.identWith "_label")
      ∧ "_label".toList <:+ (v.identWith "_label").toList
      ∧ w.identWith "_bar" ≠ v.identWith "_label" := by
  intro v w
  have hword : IsWordText "_label" := by decide
  have hfits : "_label".utf8ByteSize ≤ 61 := by decide
  obtain ⟨hname, htail, hapart⟩ := v.isName_identWith hword hfits
  exact ⟨hword, hfits, hname, htail, hapart w "_bar" (by decide) (by decide)⟩

end View

end DisplayLayout
