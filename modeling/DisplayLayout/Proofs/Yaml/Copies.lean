import DisplayLayout.Proofs.Yaml.Tree

/-!
# Trees that copy texts

A text of a tree is mute if its lines of code hold no marker, no page and no
fact. A tree copies texts if its keys are plain and all its other texts are mute
(`Yaml.Copies`); each constructor of a tree passes that on to its parts.
-/

namespace DisplayLayout

open Text

namespace Yaml

/-! ## Mute texts -/

/-- A text that says nothing, or nothing but draw calls. -/
def Held.IsMute (held : Held) : Prop := ∀ line ∈ held.said, line.saysNothing = true

instance (held : Held) : Decidable held.IsMute :=
  List.decidableBAll (fun line : Line => line.saysNothing = true) held.said

/-- A value without the tag is mute. -/
@[simp] theorem isMute_value {s : String} (h : code? s = none) : (Held.value s).IsMute := by
  intro line hline
  rw [Held.said, h] at hline
  exact absurd hline List.not_mem_nil

theorem code?_of_clash {lead : String} (h : Line.clash lambdaTag.toList lead.toList = true)
    (rest : String) : code? (lead ++ rest) = none := by
  rw [code?, Option.map_eq_none_iff, String.toList_append]
  exact Line.after?_of_clash h rest.toList

theorem code?_of_notMem {s : String} {c : Char} (hc : c ∈ lambdaTag.toList) (h : c ∉ s.toList) :
    code? s = none := by
  rw [code?, Option.map_eq_none_iff]
  exact Line.after?_eq_none fun hpre => h (hpre.subset hc)

/-- A word lacks the mark of the tag. -/
theorem code?_word {s : String} (h : IsWordText s) : code? s = none :=
  code?_of_notMem (by decide : '!' ∈ lambdaTag.toList) fun hm => absurd (h _ hm) (by decide)

/-- A text in upper case lacks the letters of the tag. -/
theorem code?_upper (t : String) : code? (Text.upper t) = none := by
  refine code?_of_notMem (by decide : 'l' ∈ lambdaTag.toList) fun hm => ?_
  have hupper : ∀ c : Char, c.toUpper ≠ 'l' := by
    intro c
    unfold Char.toUpper
    split
    · next h =>
      intro heq
      have hnat := congrArg (fun c : Char => c.val.toNat) heq
      simp only [UInt32.le_iff_toNat_le] at h
      grind [UInt32.toNat_add, Char.toNat_val]
    · next h =>
      rintro rfl
      exact h (by decide)
  rw [upper, String.toList_ofList] at hm
  obtain ⟨c, -, hc⟩ := List.mem_map.1 hm
  exact hupper c hc

/-- An item without the tag is mute if it is no identifier of a page. -/
theorem isMute_item {s : String} (h : code? s = none) (hid : ¬"id:page_".toList <+: s.toList) :
    (Held.item s).IsMute := by
  intro line hline
  rw [Held.said, h] at hline
  dsimp only at hline
  rw [Line.after?_eq_none hid] at hline
  exact absurd hline List.not_mem_nil

/-- Code says what its lines say. -/
theorem said_lambda (code : String) :
    (Held.value (lambdaTag ++ code)).said = Line.said (Text.lines code) := by
  have hcode : code? (lambdaTag ++ code) = some code := by
    have hafter : Line.after? lambdaTag (lambdaTag ++ code).toList = some code.toList :=
      Line.after?_eq_some_iff.2 String.toList_append
    rw [Line.after?] at hafter
    rw [code?, hafter, Option.map_some, String.ofList_toList]
  exact (said_of_code hcode).1

/-- Code of quiet rows is mute. -/
theorem isMute_join {rows : List String} (h : ∀ row ∈ rows, Line.Quiet row) :
    (Held.value (lambdaTag ++ Text.join "\n" rows)).IsMute := by
  intro said hsaid
  rw [said_lambda] at hsaid
  obtain ⟨line, hline, rfl⟩ := List.mem_map.1 (List.mem_filter.1 hsaid).1
  obtain ⟨row, hrow, rfl | rfl⟩ := mem_lines_join (fun row hrow => (h row hrow).oneLine) hline
  · exact (h _ hrow).saysNothing
  · rw [Line.classify_lineOf]
    exact (h row hrow).saysNothing

/-! ## Trees of mute and of copied texts -/

section Copies

variable {copied : List Held}

/-- A value whose keys are plain, and whose texts are mute or among the copied ones. -/
structure Copies (copied : List Held) (j : Json) : Prop where
  isTree : isTree j = true
  texts : ∀ held ∈ texts j, held.IsMute ∨ held ∈ copied

/-- The same of an item. -/
structure CopiesItem (copied : List Held) (j : Json) : Prop where
  isItem : isItem j = true
  texts : ∀ held ∈ itemTexts j, held.IsMute ∨ held ∈ copied

/-- The same of entries. -/
def CopiesEntries (copied : List Held) (entries : List (String × Json)) : Prop :=
  ∀ e ∈ entries, isKey e.1 = true ∧ Copies copied e.2

@[simp] theorem copies_number (n : Number) : Copies copied (.number n) :=
  ⟨rfl, List.forall_mem_nil _⟩

@[simp] theorem copies_bool (b : Bool) : Copies copied (.bool b) := ⟨rfl, List.forall_mem_nil _⟩

@[simp] theorem copies_string {s : String} :
    Copies copied (.string s) ↔ (Held.value s).IsMute ∨ Held.value s ∈ copied := by
  constructor
  · intro h
    exact h.texts _ (List.mem_singleton.2 rfl)
  · intro h
    exact ⟨rfl, List.forall_mem_singleton.2 h⟩

@[simp] theorem copies_object {entries : List (String × Json)} :
    Copies copied (.object entries) ↔ CopiesEntries copied entries := by
  constructor
  · rintro ⟨htree, htexts⟩ e he
    rw [isTree_object, List.all_eq_true] at htree
    rw [texts_object, List.forall_mem_flatMap] at htexts
    obtain ⟨hkey, hvalue⟩ := Bool.and_eq_true_iff.1 (htree e he)
    exact ⟨hkey, hvalue, htexts e he⟩
  · intro h
    refine ⟨?_, ?_⟩
    · rw [isTree_object, List.all_eq_true]
      exact fun e he => Bool.and_eq_true_iff.2 ⟨(h e he).1, (h e he).2.isTree⟩
    · rw [texts_object, List.forall_mem_flatMap]
      exact fun e he => (h e he).2.texts

@[simp] theorem copies_array {items : List Json} :
    Copies copied (.array items) ↔ ∀ j ∈ items, CopiesItem copied j := by
  constructor
  · rintro ⟨htree, htexts⟩ j hj
    rw [isTree_array, List.all_eq_true] at htree
    rw [texts_array, List.forall_mem_flatMap] at htexts
    exact ⟨htree j hj, htexts j hj⟩
  · intro h
    refine ⟨?_, ?_⟩
    · rw [isTree_array, List.all_eq_true]
      exact fun j hj => (h j hj).isItem
    · rw [texts_array, List.forall_mem_flatMap]
      exact fun j hj => (h j hj).texts

@[simp] theorem copiesItem_string {s : String} :
    CopiesItem copied (.string s) ↔ (Held.item s).IsMute ∨ Held.item s ∈ copied := by
  constructor
  · intro h
    exact h.texts _ (List.mem_singleton.2 rfl)
  · intro h
    exact ⟨rfl, List.forall_mem_singleton.2 h⟩

@[simp] theorem copiesItem_object {entries : List (String × Json)} :
    CopiesItem copied (.object entries)
      ↔ (∀ e ∈ entries.head?, e.1 ≠ "id") ∧ CopiesEntries copied entries := by
  have hhead : (entries.head?.all fun e => e.1 != "id") = true ↔ ∀ e ∈ entries.head?, e.1 ≠ "id" := by
    cases entries.head? <;> simp
  rw [← copies_object]
  constructor
  · rintro ⟨hitem, htexts⟩
    rw [isItem_object, Bool.and_eq_true, hhead] at hitem
    exact ⟨hitem.1, hitem.2, by rwa [texts_object, ← itemTexts_object]⟩
  · rintro ⟨hid, htree, htexts⟩
    refine ⟨?_, by rwa [itemTexts_object, ← texts_object]⟩
    rw [isItem_object, Bool.and_eq_true, hhead]
    exact ⟨hid, htree⟩

@[simp] theorem copiesEntries_nil : CopiesEntries copied [] := List.forall_mem_nil _

@[simp] theorem copiesEntries_cons {key : String} (h : isKey key = true) {j : Json}
    {entries : List (String × Json)} :
    CopiesEntries copied ((key, j) :: entries) ↔ Copies copied j ∧ CopiesEntries copied entries := by
  rw [CopiesEntries, List.forall_mem_cons]
  simp [h, CopiesEntries]

@[simp] theorem copiesEntries_append {entries more : List (String × Json)} :
    CopiesEntries copied (entries ++ more)
      ↔ CopiesEntries copied entries ∧ CopiesEntries copied more :=
  List.forall_mem_append

end Copies

end Yaml

end DisplayLayout
