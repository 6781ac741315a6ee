import DisplayLayout.Generation
import DisplayLayout.Proofs.Line.Quiet
import DisplayLayout.Proofs.Numeric.Hexadecimal
import DisplayLayout.Proofs.Text.Words

/-!
# Glyphs and their registry

A codepoint is made of letters and digits, and so is its escape behind its lead
(`Icon.exists_escape`). What is recorded stays recorded: recording a glyph adds
it at its size and leaves the rest (`Icons.lists_insertAt`), and a run over many
glyphs lists every one of them (`Icons.lists_foldl_track`).
-/

namespace DisplayLayout

open Text

/-! ## Codepoints -/

/-- A codepoint is made of letters and digits. -/
theorem Icon.isWordText_of_normalize? {text code : String} (h : Icon.normalize? text = some code) :
    IsWordText code := by
  unfold Icon.normalize? at h
  dsimp only at h
  split at h
  · next hdigits =>
    rw [← Option.some.inj h, isWordText_ofList]
    intro c hc
    obtain ⟨d, hd, rfl⟩ := List.mem_map.1 hc
    exact isWordChar_toUpper (isAlphanum_of_isHexDigit (List.all_eq_true.1 hdigits.2 d hd))
  · exact absurd h (by simp)

theorem Icon.oneLine_escape {code : String} (h : OneLine code) : OneLine (Icon.escape code) := by
  have hzeros : '\n' ∉ List.replicate (8 - code.length) '0' :=
    fun hm => absurd (List.eq_of_mem_replicate hm) (by decide)
  unfold Icon.escape
  rw [oneLine_append, oneLine_append]
  exact ⟨⟨by decide, oneLine_ofList.2 hzeros⟩, h⟩

/-- An escape is its lead and a word. -/
theorem Icon.exists_escape {code : String} (h : IsWordText code) :
    ∃ digits, Icon.escape code = "\\U" ++ digits ∧ IsWordText digits := by
  refine ⟨String.ofList (List.replicate (8 - code.length) '0') ++ code,
    String.append_assoc, isWordText_append.2 ⟨isWordText_ofList.2 fun c hc => ?_, h⟩⟩
  rw [List.eq_of_mem_replicate hc]
  decide

/-- The digits of an escape do not end a literal. -/
theorem Icon.quote_notMem_escape {code : String} (h : IsWordText code) :
    '"' ∉ (Icon.escape code).toList := by
  obtain ⟨digits, heq, hdigits⟩ := Icon.exists_escape h
  rw [heq, String.toList_append, List.mem_append, not_or]
  exact ⟨by decide, fun hmem => absurd (hdigits _ hmem) (by decide)⟩

namespace Icon

/-- The codepoint of a text that is one escape, with its eight digits. -/
def codepoint? : List Char → Option Nat
  | '\\' :: 'U' :: digits => if digits.length = 8 then Numeric.readHex? digits else none
  | _ => none

theorem exists_digits_of_codepoint? {text : List Char} {n : Nat} (h : codepoint? text = some n) :
    ∃ digits, text = '\\' :: 'U' :: digits ∧ digits.length = 8
      ∧ Numeric.readHex? digits = some n := by
  unfold codepoint? at h
  split at h
  · next digits =>
    split at h
    · next hlength => exact ⟨digits, rfl, hlength, h⟩
    · cases h
  · cases h

/-- Capital letters of digits are digits, and stay as they are. -/
theorem isHexDigit_toUpper {c : Char} (h : Numeric.isHexDigit c = true) :
    Numeric.isHexDigit c.toUpper = true ∧ c.toUpper.toUpper = c.toUpper := by
  have hsmall : c.toNat < 123 := by
    have hcode := toNat_of_isWordChar (isWordChar_of_isAlphanum (isAlphanum_of_isHexDigit h))
    omega
  have hall : ∀ n < 123, Numeric.isHexDigit (Char.ofNat n) = true →
      Numeric.isHexDigit (Char.ofNat n).toUpper = true
        ∧ (Char.ofNat n).toUpper.toUpper = (Char.ofNat n).toUpper := by
    decide +kernel
  have hc := hall c.toNat hsmall
  rw [Char.ofNat_toNat] at hc
  exact hc h

/-- What a codepoint is made of: four or five digits, in capital letters. -/
theorem digits_of_normalize? {text code : String} (h : normalize? text = some code) :
    (code.length = 4 ∨ code.length = 5)
      ∧ ∀ c ∈ code.toList, Numeric.isHexDigit c = true ∧ c.toUpper = c := by
  unfold normalize? at h
  dsimp only at h
  split at h
  · next hdigits =>
    rw [← Option.some.inj h, ← String.length_toList, String.toList_ofList, List.length_map]
    refine ⟨hdigits.1, fun c hc => ?_⟩
    obtain ⟨d, hd, rfl⟩ := List.mem_map.1 hc
    exact isHexDigit_toUpper (List.all_eq_true.1 hdigits.2 d hd)
  · cases h

theorem exists_readHex?_of_normalize? {text code : String} (h : normalize? text = some code) :
    ∃ n, Numeric.readHex? code.toList = some n :=
  Numeric.exists_readHex?_iff.2 fun c hc => ((digits_of_normalize? h).2 c hc).1

/-- A text of digits has no lead of a code. -/
theorem dropLead_of_digits {cs : List Char} (h : ∀ c ∈ cs, Numeric.isHexDigit c = true)
    {lead : String} (hlead : lead ∈ leads) : dropLead cs lead = cs := by
  have hother : ∀ lead ∈ leads, (lead.toList.all Numeric.isHexDigit) = false := by decide
  have hpre : ¬lead.toList <+: cs := by
    rintro ⟨rest, rfl⟩
    have hyes := List.all_eq_true.2 fun c hc => h c (List.mem_append_left rest hc)
    rw [hother lead hlead] at hyes
    exact Bool.noConfusion hyes
  have hnone : lead.toList.isPrefixOf? cs = none := Line.after?_eq_none hpre
  rw [dropLead, hnone, Option.getD_none]

theorem foldl_dropLead_digits {cs : List Char} (h : ∀ c ∈ cs, Numeric.isHexDigit c = true)
    {ls : List String} (hls : ls ⊆ leads) : ls.foldl dropLead cs = cs := by
  induction ls with
  | nil => rfl
  | cons lead ls ih =>
    rw [List.cons_subset] at hls
    rw [List.foldl_cons, dropLead_of_digits h hls.1]
    exact ih hls.2

/-- Of a lead and digits the lead is dropped, since no other lead begins alike. -/
theorem foldl_dropLead_append {lead : String} (hlead : lead ∈ leads) {digits : List Char}
    (h : ∀ c ∈ digits, Numeric.isHexDigit c = true) {ls : List String} (hls : ls ⊆ leads)
    (hmem : lead ∈ ls) : ls.foldl dropLead (lead.toList ++ digits) = digits := by
  induction ls with
  | nil => exact absurd hmem List.not_mem_nil
  | cons first ls ih =>
    rw [List.cons_subset] at hls
    rw [List.foldl_cons]
    by_cases heq : lead = first
    · have hdrop : dropLead (lead.toList ++ digits) first = digits := by
        have hafter : first.toList.isPrefixOf? (lead.toList ++ digits) = some digits :=
          Line.after?_eq_some_iff.2 (by rw [heq])
        rw [dropLead, hafter, Option.getD_some]
      rw [hdrop]
      exact foldl_dropLead_digits h hls.2
    · have hclash : ∀ a ∈ leads, ∀ b ∈ leads, b = a ∨ Line.clash a.toList b.toList = true := by decide
      have hkeep : dropLead (lead.toList ++ digits) first = lead.toList ++ digits := by
        have hnone : first.toList.isPrefixOf? (lead.toList ++ digits) = none :=
          Line.after?_of_clash ((hclash first hls.1 lead hlead).resolve_left heq) digits
        rw [dropLead, hnone, Option.getD_none]
      rw [hkeep]
      exact ih hls.2 ((List.mem_cons.1 hmem).resolve_left heq)

/-- **Every spelling of four or five digits means the codepoint,** in either case and behind a lead. -/
theorem normalize?_append {lead : String} (hlead : lead ∈ "" :: leads) {digits : List Char}
    (hlength : digits.length = 4 ∨ digits.length = 5)
    (h : ∀ c ∈ digits, Numeric.isHexDigit c = true) :
    normalize? (lead ++ String.ofList digits) = some (upper (String.ofList digits)) := by
  have hblank : ∀ c ∈ digits, isBlank c = false := fun c hc =>
    isBlank_eq_false_of_isWordChar (isWordChar_of_isAlphanum (isAlphanum_of_isHexDigit (h c hc)))
  have hleads : ∀ lead ∈ "" :: leads, lead.toList.all (!isBlank ·) = true := by decide
  have htrim : trimChars (lead.toList ++ digits) = lead.toList ++ digits := by
    have hall : ∀ c ∈ lead.toList ++ digits, isBlank c = false := by
      intro c hc
      rcases List.mem_append.1 hc with hc | hc
      · simpa using List.all_eq_true.1 (hleads lead hlead) c hc
      · exact hblank c hc
    exact trimChars_eq_self (fun c hc => hall c (List.mem_of_mem_head? hc))
      fun c hc => hall c (List.mem_of_mem_getLast? hc)
  have hdrop : leads.foldl dropLead (lead.toList ++ digits) = digits := by
    rcases List.mem_cons.1 hlead with rfl | hlead
    · exact foldl_dropLead_digits h (List.Subset.refl _)
    · exact foldl_dropLead_append hlead h (List.Subset.refl _) hlead
  unfold normalize?
  dsimp only
  rw [String.toList_append, String.toList_ofList, htrim, hdrop,
    if_pos ⟨hlength, List.all_eq_true.2 h⟩, upper, String.toList_ofList]

/-- **A codepoint is its own normal form.** -/
theorem normalize?_idem {text code : String} (h : normalize? text = some code) :
    normalize? code = some code := by
  obtain ⟨hlength, hdigits⟩ := digits_of_normalize? h
  have hupper : upper code = code := by
    have hmap : code.toList.map Char.toUpper = code.toList.map id :=
      List.map_congr_left fun c hc => (hdigits c hc).2
    rw [upper, hmap, List.map_id, String.ofList_toList]
  rw [← String.length_toList] at hlength
  have hbare : "" ∈ "" :: leads := List.mem_cons_self
  have hsame := normalize?_append hbare hlength fun c hc => (hdigits c hc).1
  rwa [String.empty_append, String.ofList_toList, hupper] at hsame

/-- **The escape of a codepoint** has just its digits. -/
theorem codepoint?_escape {text code : String} (h : normalize? text = some code) :
    codepoint? (escape code).toList = Numeric.readHex? code.toList := by
  have htext : (escape code).toList
      = '\\' :: 'U' :: (List.replicate (8 - code.length) '0' ++ code.toList) := by
    simp [escape]
  have hlength : (List.replicate (8 - code.length) '0' ++ code.toList).length = 8 := by
    have hshort := (digits_of_normalize? h).1
    rw [List.length_append, List.length_replicate, String.length_toList]
    omega
  rw [htext, codepoint?, if_pos hlength, Numeric.readHex?_zeros]

end Icon

/-! ## The registry -/

namespace Icons

/-- The registry lists a glyph at a size. -/
def Lists (icons : Icons) (size : Nat) (code : String) : Prop :=
  ∃ codes, (size, codes) ∈ icons ∧ code ∈ codes

variable {icons : Icons} {size s : Nat} {code c : String}

theorem lists_cons {codes : List String} :
    Lists ((s, codes) :: icons) size c ↔ (size = s ∧ c ∈ codes) ∨ icons.Lists size c := by
  constructor
  · rintro ⟨codes', hmem, hc⟩
    rcases List.mem_cons.1 hmem with heq | hmem
    · cases heq
      exact Or.inl ⟨rfl, hc⟩
    · exact Or.inr ⟨codes', hmem, hc⟩
  · rintro (⟨rfl, hc⟩ | ⟨codes', hmem, hc⟩)
    · exact ⟨codes, List.mem_cons_self, hc⟩
    · exact ⟨codes', List.mem_cons_of_mem _ hmem, hc⟩

theorem mem_insertCode_iff {codes : List String} :
    c ∈ insertCode code codes ↔ c = code ∨ c ∈ codes := by
  induction codes with
  | nil => simp [insertCode]
  | cons d codes ih =>
    rw [insertCode]
    split
    · next h => simp [h]
    · split
      · exact List.mem_cons
      · rw [List.mem_cons, ih, List.mem_cons]
        exact or_left_comm

/-- **A glyph that is inserted is listed, and so is what was listed before.** -/
theorem lists_insertAt :
    (insertAt size code icons).Lists s c ↔ (s = size ∧ c = code) ∨ icons.Lists s c := by
  induction icons with
  | nil => rw [insertAt, lists_cons, List.mem_singleton]
  | cons p icons ih =>
    obtain ⟨t, codes⟩ := p
    rw [insertAt]
    split
    · next h =>
      rw [lists_cons, lists_cons, mem_insertCode_iff, h, and_or_left, or_assoc]
    · split
      · rw [lists_cons, List.mem_singleton]
      · rw [lists_cons, ih, lists_cons]
        exact or_left_comm

/-- **A call records its codepoint,** if it has one, and forgets nothing. -/
theorem lists_track {text : String} :
    (icons.track text size).Lists s c
      ↔ (Icon.normalize? text = some c ∧ s = max 1 size) ∨ icons.Lists s c := by
  unfold Icons.track
  split
  · next hcode => rw [lists_insertAt, hcode, Option.some_inj, and_comm, eq_comm (a := c)]
  · next hnone => simp [hnone]

/-- **A run over glyphs lists every one of them, and nothing else.** -/
theorem lists_foldl_track {glyphs : List Glyph} :
    (glyphs.foldl (fun icons glyph => icons.track glyph.code glyph.size) icons).Lists s c
      ↔ icons.Lists s c
        ∨ ∃ glyph ∈ glyphs, Icon.normalize? glyph.code = some c ∧ s = max 1 glyph.size := by
  induction glyphs generalizing icons with
  | nil => simp
  | cons first glyphs ih =>
    rw [List.foldl_cons, ih, lists_track]
    simp only [List.mem_cons, exists_eq_or_imp]
    rw [or_assoc, or_left_comm]

/-- The registry is asked in any spelling of a codepoint. -/
theorem contains_iff {text : String} :
    icons.contains text size = true ↔ ∃ c, Icon.normalize? text = some c ∧ icons.Lists size c := by
  unfold Icons.contains
  split
  · next d hcode =>
    simp only [hcode, Option.some_inj, exists_eq_left', List.any_eq_true, Bool.and_eq_true,
      beq_iff_eq, List.contains_iff_mem, Lists]
    constructor
    · rintro ⟨⟨t, codes⟩, hmem, rfl, hc⟩
      exact ⟨codes, hmem, hc⟩
    · rintro ⟨codes, hmem, hc⟩
      exact ⟨(size, codes), hmem, rfl, hc⟩
  · next hnone => simp [hnone]

end Icons

/-- Glyphs that a run takes in at one size are listed at that size. -/
theorem Generation.lists_absorb_glyphsAt (g : Generation) {codes : List String} {code : String}
    (size : Nat) (hmem : code ∈ codes) (hcode : Icon.normalize? code = some code) :
    (g.absorb (.glyphsAt codes size)).icons.Lists (max 1 size) code := by
  have hglyph : (⟨code, size⟩ : Glyph) ∈ codes.map (⟨·, size⟩) := List.mem_map.2 ⟨code, hmem, rfl⟩
  exact Icons.lists_foldl_track.2 (Or.inr ⟨_, hglyph, hcode, rfl⟩)

end DisplayLayout
