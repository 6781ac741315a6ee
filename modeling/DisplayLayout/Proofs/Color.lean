import DisplayLayout.Drawing
import DisplayLayout.Proofs.Line.Quiet
import DisplayLayout.Proofs.Text.Words

/-!
# One color in every notation

The three notations of a color are read back here the way their targets read
them: the display lambda by its constants, the widget tree by one hexadecimal
number, and the drawing protocols by the names and digits of tokens. Main
statement: `notations_agree`, every color that is drawn has the same parts in
all three.

The parts of a token's color fit into a byte each (`fits_resolve`), so two
digits have room for each of them.
-/

namespace DisplayLayout.Color

/-! ## Readers -/

/-- Three numbers in parentheses, with what stands behind them. -/
def readTriple? (cs : List Char) : Option ((Nat × Nat × Nat) × List Char) := do
  let inside ← Line.after? "(" cs
  let (numbers, rest) ← Text.splitFirst? ')' inside
  match (Text.splitOn ',' numbers).map fun piece => Numeric.readDigits? (Text.trimChars piece) with
  | [some r, some g, some b] => some ((r, g, b), rest)
  | _ => none

/-- A color that is spelled out, with what stands behind it. -/
def spelledOut? (cs : List Char) : Option ((Nat × Nat × Nat) × List Char) := do
  readTriple? (← Line.after? "Color" cs)

/-- The parts that a row declares for a name. -/
def declaration? (name row : String) : Option (Nat × Nat × Nat) := do
  let value ← Line.after? ("const auto " ++ name ++ " = ") row.toList
  let (parts, rest) ← spelledOut? value
  if rest = [';'] then some parts else none

/-- The parts that rows declare for a name. -/
def declared? (rows : List String) (name : String) : Option (Nat × Nat × Nat) :=
  rows.findSome? (declaration? name)

/-- The parts of a color in the display lambda: spelled out, or declared at its top. -/
def lambdaParts? (text : String) : Option (Nat × Nat × Nat) :=
  match spelledOut? text.toList with
  | some (parts, []) => some parts
  | _ => declared? constantLines text

/-- The parts of a color in the widget tree, which takes its six digits for one number. -/
def literalParts? (text : String) : Option (Nat × Nat × Nat) := do
  let digits ← Line.after? "0x" text.toList
  let n ← Numeric.readHex? digits
  if digits.length = 6 then some (n / 65536, n / 256 % 256, n % 256) else none

/-! ## Parts of a byte each -/

/-- Every part fits into a byte. -/
structure Fits (c : Color) : Prop where
  red : c.parts.1 < 256
  green : c.parts.2.1 < 256
  blue : c.parts.2.2 < 256

instance (c : Color) : Decidable c.Fits :=
  decidable_of_iff (c.parts.1 < 256 ∧ c.parts.2.1 < 256 ∧ c.parts.2.2 < 256)
    ⟨fun h => ⟨h.1, h.2.1, h.2.2⟩, fun h => ⟨h.red, h.green, h.blue⟩⟩

theorem fits_ofHexDigits? {digits : List Char} {c : Color} (h : ofHexDigits? digits = some c) :
    c.Fits := by
  unfold ofHexDigits? at h
  split at h
  · obtain ⟨r, hr, h⟩ := Option.bind_eq_some_iff.1 h
    obtain ⟨g, hg, h⟩ := Option.bind_eq_some_iff.1 h
    obtain ⟨b, hb, h⟩ := Option.bind_eq_some_iff.1 h
    cases h
    exact ⟨Numeric.readHex?_lt hr, Numeric.readHex?_lt hg, Numeric.readHex?_lt hb⟩
  · cases h

theorem fits_ofHex? {cs : List Char} {c : Color} (h : ofHex? cs = some c) : c.Fits := by
  unfold ofHex? at h
  split at h
  · exact fits_ofHexDigits? h
  · exact fits_ofHexDigits? h
  · cases h

/-- **The parts of a token's color fit into a byte each.** -/
theorem fits_resolve (token : String) (dark : Bool) : (resolve token dark).Fits := by
  have htheme : (if dark then white else black).Fits := by
    cases dark <;> decide
  have hdigits : ∀ cs, ((ofHex? cs).getD black).Fits := by
    intro cs
    cases h : ofHex? cs with
    | none => exact (by decide : black.Fits)
    | some c => exact fits_ofHex? h
  rw [resolve]
  split
  · exact htheme
  · exact htheme
  all_goals first
    | exact hdigits _
    | decide

/-! ## The display lambda -/

theorem readDigits?_trimmed (n : Nat) :
    Numeric.readDigits? (Text.trimChars (toString n).toList) = some n := by
  rw [(Text.isWordText_toString n).trimChars_eq, Numeric.readDigits?_toString]

/-- Numbers in parentheses read back, whatever stands behind them. -/
theorem readTriple?_tripleText (r g b : Nat) (rest : List Char) :
    readTriple? ((tripleText r g b).toList ++ rest) = some ((r, g, b), rest) := by
  have hcomma := Numeric.notMem_toString (c := ',') (by decide)
  have hclose := Numeric.notMem_toString (c := ')') (by decide)
  have hblank : ∀ n : Nat, Text.trimChars (' ' :: (toString n).toList)
      = Text.trimChars (toString n).toList := fun n =>
    Text.trimChars_append_left
      (List.forall_mem_singleton.2 (show Text.isBlank ' ' = true by decide)) _
  -- The pieces between the commas; a blank stands before each but the first.
  let pieces := [' ' :: (toString g).toList, ' ' :: (toString b).toList]
  let numbers := (toString r).toList ++ pieces.flatMap (',' :: ·)
  have htext : (tripleText r g b).toList ++ rest = "(".toList ++ (numbers ++ ')' :: rest) := by
    simp only [tripleText, String.toList_append, List.append_assoc, numbers, pieces,
      List.flatMap_cons, List.flatMap_nil]
    rfl
  have hinside : ')' ∉ numbers := by
    simp only [numbers, pieces, List.flatMap_cons, List.flatMap_nil, List.mem_append, List.mem_cons,
      hclose, not_or]
    decide
  have hsplit : Text.splitOn ',' numbers = (toString r).toList :: pieces := by
    have hpart : ∀ n : Nat, ',' ∉ ' ' :: (toString n).toList := fun n =>
      List.not_mem_cons_of_ne_of_not_mem (by decide) (hcomma n)
    exact Text.splitOn_flatMap (hcomma r)
      (List.forall_mem_cons.2 ⟨hpart g, List.forall_mem_singleton.2 (hpart b)⟩)
  rw [readTriple?, Line.after?_eq_some_iff.2 htext]
  simp only [Option.bind_eq_bind, Option.bind_some, Text.splitFirst?_append hinside, hsplit, pieces,
    List.map_cons, List.map_nil, hblank, readDigits?_trimmed]

theorem spelledOut?_tripleText (r g b : Nat) (rest : List Char) :
    spelledOut? (("Color" ++ tripleText r g b).toList ++ rest) = some ((r, g, b), rest) := by
  rw [spelledOut?, String.toList_append, List.append_assoc, Line.after?_append, Option.bind_eq_bind,
    Option.bind_some, readTriple?_tripleText]

/-- The row that declares a constant. -/
def declaration (name : String) (c : Color) : String :=
  "const auto " ++ name ++ " = Color" ++ tripleText c.parts.1 c.parts.2.1 c.parts.2.2 ++ ";"

theorem constantLines_eq : constantLines = constants.map fun entry => declaration entry.1 entry.2 :=
  rfl

theorem declaration?_self (name : String) (c : Color) :
    declaration? name (declaration name c) = some c.parts := by
  have hrow : declaration name c = ("const auto " ++ name ++ " = ")
      ++ (("Color" ++ tripleText c.parts.1 c.parts.2.1 c.parts.2.2) ++ ";") := by
    have hlead : " = Color" = " = " ++ "Color" := rfl
    simp only [declaration, hlead, String.append_assoc]
  rw [declaration?, hrow, Line.after?_toList_append, String.toList_append]
  simp only [Option.bind_eq_bind, Option.bind_some, spelledOut?_tripleText]
  rfl

/-- A row declares no other name. -/
theorem declaration?_ne {name other : String} (h : name ≠ other) (hname : ' ' ∉ name.toList)
    (hother : ' ' ∉ other.toList) (c : Color) : declaration? name (declaration other c) = none := by
  rw [declaration?, Option.bind_eq_bind, Option.bind_eq_none_iff]
  intro value hvalue
  exfalso
  apply h
  -- Behind the same words, the name is what stands before the first blank.
  rw [Line.after?_eq_some_iff] at hvalue
  simp only [declaration, String.toList_append, List.append_assoc, List.append_cancel_left_eq]
    at hvalue
  have hfirst : ∀ {word : List Char}, ' ' ∉ word → ∀ {lead rest : List Char},
      Text.splitFirst? ' ' (word ++ ((' ' :: lead) ++ rest)) = some (word, lead ++ rest) :=
    fun hword => Text.splitFirst?_append hword _
  have hsplit := congrArg (Text.splitFirst? ' ') hvalue
  rw [show " = Color".toList = ' ' :: "= Color".toList from rfl,
    show " = ".toList = ' ' :: "= ".toList from rfl, hfirst hother, hfirst hname] at hsplit
  exact (String.toList_inj.1 (Prod.mk.inj (Option.some.inj hsplit)).1).symm

/-- **The rows declare the constants with their parts,** and nothing else. -/
theorem declared?_map {entries : List (String × Color)} (hentries : ∀ e ∈ entries, ' ' ∉ e.1.toList)
    {name : String} (hname : ' ' ∉ name.toList) :
    declared? (entries.map fun entry => declaration entry.1 entry.2) name
      = (entries.lookup name).map parts := by
  induction entries with
  | nil => rfl
  | cons entry entries ih =>
    rw [List.forall_mem_cons] at hentries
    rw [declared?, List.map_cons, List.findSome?_cons]
    by_cases h : name = entry.1
    · subst h
      rw [declaration?_self, List.lookup_cons_self]
      rfl
    · rw [declaration?_ne h hname hentries.1, List.lookup_cons, beq_eq_false_iff_ne.2 h]
      exact ih hentries.2

theorem lambdaParts?_constant {name : String} {c : Color} (h : constants.lookup name = some c) :
    lambdaParts? name = some c.parts := by
  have hnames : ∀ e ∈ constants, ' ' ∉ e.1.toList ∧ spelledOut? e.1.toList = none := by decide
  obtain ⟨front, back, hentries, -⟩ := List.lookup_eq_some_iff.1 h
  have hname := hnames (name, c) (hentries ▸ List.mem_append_right _ List.mem_cons_self)
  rw [lambdaParts?, hname.2, constantLines_eq]
  show declared? _ _ = _
  rw [declared?_map (fun e he => (hnames e he).1) hname.1, h, Option.map_some]

/-- **The display lambda has every color with its parts.** -/
theorem lambdaParts?_direct {c : Color} (h : c ≠ transparent) :
    lambdaParts? (c.direct false) = some c.parts := by
  cases c with
  | transparent => exact absurd rfl h
  | rgb r g b =>
    have hspelled := spelledOut?_tripleText r g b []
    rw [List.append_nil] at hspelled
    rw [direct, lambdaParts?, hspelled]
    rfl
  | _ => exact lambdaParts?_constant (by decide)

/-! ## The widget tree -/

/-- The digits of a color are those of one number. -/
theorem hexDigits_eq {c : Color} (h : c.Fits) :
    c.hexDigits = Numeric.hexDigits 6 (256 * (256 * c.parts.1 + c.parts.2.1) + c.parts.2.2) := by
  rw [← Numeric.hexDigits_append 4 _ h.blue, ← Numeric.hexDigits_append 2 _ h.green]
  simp [hexDigits]

/-- **The widget tree has every color with its parts.** -/
theorem literalParts?_retained {c : Color} (h : c.Fits) :
    literalParts? c.retained = some c.parts := by
  have hlength : (c.hexDigits.map Char.toUpper).length = 6 := by
    rw [List.length_map, hexDigits_eq h, Numeric.length_hexDigits]
  have hread : Numeric.readHex? (c.hexDigits.map Char.toUpper)
      = some (256 * (256 * c.parts.1 + c.parts.2.1) + c.parts.2.2) := by
    have hred := h.red
    have hgreen := h.green
    have hblue := h.blue
    rw [hexDigits_eq h, Numeric.readHex?_upper, Nat.mod_eq_of_lt]
    show _ < 16777216
    omega
  rw [literalParts?, retained, Line.after?_toList_append, String.toList_ofList]
  simp only [Option.bind_eq_bind, Option.bind_some, hread, if_pos hlength]
  have hgreen := h.green
  have hblue := h.blue
  refine congrArg some (Prod.ext ?_ (Prod.ext ?_ ?_)) <;> dsimp only <;> omega

/-! ## The drawing protocols -/

/-- Two digits of each part are the color. -/
theorem ofHexDigits?_hexDigits {r g b : Nat} (h : (rgb r g b).Fits) :
    ofHexDigits? (rgb r g b).hexDigits = some (rgb r g b) := by
  have hread : ∀ part < 256, Numeric.readHex? (Numeric.hexDigits 2 part) = some part := by
    intro part hpart
    rw [Numeric.readHex?_hexDigits, Nat.mod_eq_of_lt (show part < Nat.pow 16 2 from hpart)]
  show (do
    let red ← Numeric.readHex? (Numeric.hexDigits 2 r)
    let green ← Numeric.readHex? (Numeric.hexDigits 2 g)
    let blue ← Numeric.readHex? (Numeric.hexDigits 2 b)
    some (rgb red green blue)) = _
  rw [hread r h.red, hread g h.green, hread b h.blue]
  rfl

/-- No name begins with a number sign. -/
theorem resolve_of_sign {token : String} (htoken : Text.lower (Text.trim token) = token)
    (hsign : token.toList.head? = some '#') (dark : Bool) :
    resolve token dark = (ofHex? token.toList).getD black := by
  rw [resolve, htoken]
  split
  all_goals first
    | rfl
    | exact absurd hsign (by decide)

/-- Digits behind a number sign are a color, on a dark page as on a light one. -/
theorem resolve_digits {digits : List Char}
    (h : ∀ d ∈ digits, Text.isWordChar d = true ∧ d.toLower = d) (dark : Bool) :
    resolve ("#" ++ String.ofList digits) dark = (ofHexDigits? digits).getD black := by
  have hchars : ("#" ++ String.ofList digits).toList = '#' :: digits :=
    String.toList_append.trans (congrArg ('#' :: ·) String.toList_ofList)
  have hblank : ∀ c ∈ '#' :: digits, Text.isBlank c = false :=
    List.forall_mem_cons.2 ⟨by decide, fun d hd => Text.isBlank_eq_false_of_isWordChar (h d hd).1⟩
  have hlower : ('#' :: digits).map Char.toLower = '#' :: digits :=
    (List.map_congr_left (List.forall_mem_cons.2 ⟨by decide, fun d hd => (h d hd).2⟩)).trans
      (List.map_id _)
  have htoken : Text.lower (Text.trim ("#" ++ String.ofList digits))
      = "#" ++ String.ofList digits := by
    rw [← String.toList_inj, Text.lower, Text.trim, String.toList_ofList, String.toList_ofList,
      hchars, Text.trimChars_eq_self (fun c hc => hblank c (List.mem_of_mem_head? hc))
        (fun c hc => hblank c (List.mem_of_mem_getLast? hc)), hlower]
  rw [resolve_of_sign htoken (by rw [hchars, List.head?_cons]), hchars, ofHex?]

/-- **A drawing protocol's color is a token of the same color,** on either page. -/
theorem resolve_protocol {c : Color} (hfits : c.Fits) (h : c ≠ transparent) (dark : Bool) :
    resolve c.protocol dark = c := by
  cases c with
  | transparent => exact absurd rfl h
  | rgb r g b =>
    have hdigits : ∀ d ∈ (rgb r g b).hexDigits, Text.isWordChar d = true ∧ d.toLower = d := by
      intro d hd
      obtain ⟨part, -, hd⟩ := List.mem_flatMap.1 hd
      have hlower : ∀ n < 16, (Nat.digitChar n).toLower = Nat.digitChar n := by decide
      obtain ⟨n, hn, hchar⟩ := Numeric.exists_digitChar_of_mem_hexDigits hd
      exact ⟨Text.isWordChar_of_mem_hexDigits hd, by rw [hchar, hlower n hn]⟩
    rw [protocol, resolve_digits hdigits, ofHexDigits?_hexDigits hfits, Option.getD_some]
  | _ => cases dark <;> decide

/-! ## Tokens -/

/-- A text that is a token but for blanks around it and the case of its letters. -/
def Spells (text token : String) : Prop :=
  ∃ before other after : String, Text.isBlankText before = true ∧ Text.isBlankText after = true ∧
    Text.lower other = Text.lower token ∧ text = before ++ other ++ after

/-- Neither blanks around a token nor the case of its letters matter. -/
theorem resolve_of_spells {text token : String} (h : Spells text token) (dark : Bool) :
    resolve text dark = resolve token dark := by
  obtain ⟨before, other, after, hbefore, hafter, hother, rfl⟩ := h
  have htrim : Text.trim (before ++ other ++ after) = Text.trim other := by
    rw [Text.trim, String.toList_append, String.toList_append,
      Text.trimChars_append_right (List.all_eq_true.1 hafter),
      Text.trimChars_append_left (List.all_eq_true.1 hbefore), Text.trim]
  rw [resolve, resolve, htrim, Text.lower_trim, Text.lower_trim, hother]

/-- A token's color has the same parts in every notation. What the drawing protocols write is the
color itself, whatever page it is read on. -/
structure InEveryNotation (s : Surface) (token : String) : Prop where
  lambda : lambdaParts? (s.direct token) = some (s.color token).parts
  literal : literalParts? (s.retained token) = some (s.color token).parts
  protocol : ∀ dark, resolve (s.protocol token) dark = s.color token

/-- **A token has one color in every notation,** unless nothing is drawn, and one color in every
spelling. -/
theorem notations_agree (s : Surface) (token : String) :
    (s.device.invertedColors = false → s.color token ≠ transparent → InEveryNotation s token) ∧
      ∀ text, Spells text token → ∀ dark, resolve text dark = resolve token dark := by
  refine ⟨?_, fun text htext dark => resolve_of_spells htext dark⟩
  intro hpolarity hdrawn
  have hfits : (s.color token).Fits := fits_resolve token s.dark
  have hopaque : (s.color token).orBackground s.dark = s.color token := by
    unfold orBackground
    split
    · next htransparent => exact absurd htransparent hdrawn
    · rfl
  refine ⟨?_, literalParts?_retained hfits, ?_⟩
  · rw [Surface.direct, hopaque, hpolarity]
    exact lambdaParts?_direct hdrawn
  · intro dark
    rw [Surface.protocol, hopaque]
    exact resolve_protocol hfits hdrawn dark

/-- Digits in mixed case on a dark page, with blanks around them. -/
theorem notations_agree_mixedCase :
    InEveryNotation { device := {}, dark := true } "#A0b0C0" ∧
      resolve "\t#a0B0c0 " false = resolve "#A0b0C0" false := by
  have h := notations_agree { device := {}, dark := true } "#A0b0C0"
  refine ⟨h.1 rfl (by decide), h.2 _ ?_ false⟩
  exact ⟨"\t", "#a0B0c0", " ", by decide, by decide, by decide, by decide⟩

end DisplayLayout.Color
