import DisplayLayout.Proofs.Widget.Drawn
import Mathlib.Data.Rat.Floor

/-!
# Chains and templates agree with their table

The chains of the display lambda and of the widget tree and the template of the
drawing protocols are read back from their text: a test with what is written
where it holds, branch after branch. What is read is the table itself
(`readAssignments?_assignChain`, `readReturns?_returnChain`,
`readTemplate?_template`), so whatever the reading, the first branch that holds
writes the glyph or the name of the tier that the table selects.

Main statement: `tables_agree`.
-/

namespace DisplayLayout

/-! ## Readings -/

/-- What a sensor tells: a number or a word. -/
inductive Reading where
  | level (q : ℚ)
  | state (s : String)

/-- Whether a test holds of a reading. A number and a word do not compare. -/
def Reading.meets? : Reading → TierTest → Option Bool
  | .level q, .atLeast n => some (decide ((n : ℚ) ≤ q))
  | .state s, .state t => some (t == s)
  | _, _ => none

/-- A branch of a chain: its test, if it has one, and what it writes. -/
abbrev Choice := Option TierTest × String

/-- What the first branch writes whose test holds. -/
def Reading.firstMatch? (r : Reading) : List Choice → Option String
  | [] => none
  | (none, text) :: _ => some text
  | (some test, text) :: rest =>
    (r.meets? test).bind fun holds => if holds then some text else r.firstMatch? rest

/-! ## Readers -/

namespace Choice

/-- The digits and the sign of a numeral. -/
def isNumeralChar (c : Char) : Bool := c.isDigit || c == '-'

/-- Reads a test of a subject and gives what follows it: `<subject> >= <integer>`, or
`<subject> == <word>` with a mark on either side of a word that needs no escape. -/
def test? (mark : Char) (subject : String) (cs : List Char) : Option (TierTest × List Char) :=
  match Line.after? (subject ++ " >= ") cs with
  | some rest =>
    (Numeric.readSigned? (rest.takeWhile isNumeralChar)).map fun n =>
      (.atLeast n, rest.dropWhile isNumeralChar)
  | none => do
    let rest ← Line.after? (subject ++ " == " ++ String.singleton mark) cs
    let (word, rest) ← Text.splitFirst? mark rest
    if '\\' ∈ word then none else some (.state (String.ofList word), rest)

/-- Reads a statement `<sink>"<glyph>";`. -/
def statement? (sink : String) (cs : List Char) : Option String := do
  let rest ← Line.after? (sink ++ "\"") cs
  let (glyph, rest) ← Text.splitFirst? '"' rest
  if rest = [';'] then some (String.ofList glyph) else none

/-- Reads `<lead>(<test>) <sink>"<glyph>";`. -/
def conditional? (lead subject sink : String) (cs : List Char) : Option Choice := do
  let rest ← Line.after? (lead ++ " (") cs
  let (test, rest) ← test? '"' subject rest
  let rest ← Line.after? ") " rest
  let glyph ← statement? sink rest
  some (some test, glyph)

/-- Reads `<lead><sink>"<glyph>";`. -/
def unconditional? (lead sink : String) (cs : List Char) : Option Choice := do
  let rest ← Line.after? lead cs
  let glyph ← statement? sink rest
  some (none, glyph)

/-- Reads what a tag opens, without the brace before it: `% <lead> <test> %}<name>`. -/
def tagged? (lead subject : String) (cs : List Char) : Option Choice := do
  let rest ← Line.after? ("% " ++ lead ++ " ") cs
  let (test, rest) ← test? '\'' subject rest
  let name ← Line.after? " %\x7d" rest
  some (some test, String.ofList name)

/-- Reads what the last tag of a choice opens, without the brace before it. -/
def otherwise? (cs : List Char) : Option Choice :=
  (Line.after? "% else %\x7d" cs).map fun name => (none, String.ofList name)

/-- Reads a chain: its first part, the parts that go on with it, and the last one. -/
def chain? (first other last : List Char → Option Choice) :
    List (List Char) → Option (List Choice)
  | [] => none
  | [part] => (last part).map ([·])
  | part :: next :: parts => do
    let branch ← first part
    let branches ← chain? other other last (next :: parts)
    some (branch :: branches)

/-- Reads lines that choose what a variable gets. -/
def readAssignments? (subject target : String) (rows : List String) : Option (List Choice) :=
  let sink := target ++ " = "
  chain? (conditional? "if" subject sink) (conditional? "else if" subject sink)
    (unconditional? "else " sink) (rows.map String.toList)

/-- Reads lines that choose what is returned. -/
def readReturns? (subject : String) (rows : List String) : Option (List Choice) :=
  let sink := "return "
  chain? (conditional? "if" subject sink) (conditional? "if" subject sink)
    (unconditional? "" sink) (rows.map String.toList)

/-- Reads a template that names a value and then makes one choice. -/
def readTemplate? (value text : String) : Option (List Choice) := do
  let rest ← Line.after? ("\x7b% set v = " ++ value ++ " %\x7d") text.toList
  match Text.splitOn '\x7b' rest with
  | [] :: tags =>
    if tags.getLast? = some "% endif %\x7d".toList then
      chain? (tagged? "if" "v") (tagged? "elif" "v") otherwise? tags.dropLast
    else none
  | _ => none

end Choice

namespace TierTable

variable {t : TierTable}

/-- The tiers of a table, the one that is left at the end. -/
def all (t : TierTable) : List Tier := t.tiers.map Prod.snd ++ [t.fallback]

/-- The branches of a table, each with a text of its tier. -/
def branches (t : TierTable) (text : Tier → String) : List Choice :=
  t.tiers.map (fun p => (some p.1, text p.2)) ++ [(none, text t.fallback)]

theorem select_mem_all (t : TierTable) (holds : TierTest → Bool) : t.select holds ∈ t.all := by
  rw [select, all, List.mem_append]
  split
  · next p hfind =>
    exact Or.inl (List.mem_map.2 ⟨_, List.mem_of_find?_eq_some hfind, rfl⟩)
  · exact Or.inr (List.mem_singleton.2 rfl)

/-- **The first branch that holds is that of the tier that is selected.** -/
theorem firstMatch?_branches {r : Reading} {holds : TierTest → Bool}
    (h : ∀ p ∈ t.tiers, r.meets? p.1 = some (holds p.1)) (text : Tier → String) :
    r.firstMatch? (t.branches text) = some (text (t.select holds)) := by
  rw [branches, select]
  generalize t.tiers = tiers at h
  induction tiers with
  | nil => rfl
  | cons p tiers ih =>
    obtain ⟨test, tier⟩ := p
    have hfirst : r.meets? test = some (holds test) := h (test, tier) List.mem_cons_self
    have hrest := ih fun p hp => h p (List.mem_cons_of_mem _ hp)
    rw [List.map_cons, List.cons_append, Reading.firstMatch?, hfirst, Option.bind_some,
      List.find?_cons]
    cases holds test with
    | true => rfl
    | false => exact hrest

end TierTable

/-! ## Tests -/

/-- The characters of the words and names of a table. -/
def TierTest.isNameChar (c : Char) : Bool := Text.isWordChar c || c == '-'

/-- A name of letters, digits, underscores and hyphens. -/
def TierTest.isName (s : String) : Bool := s.toList.all isNameChar

/-- A test whose word is such a name. -/
def TierTest.isLegible : TierTest → Bool
  | .atLeast _ => true
  | .state s => isName s

namespace Choice

open TierTest

theorem notMem_of_isName {s : String} (h : isName s = true) {c : Char}
    (hc : isNameChar c = false) : c ∉ s.toList := by
  intro hmem
  rw [List.all_eq_true.1 h c hmem] at hc
  exact Bool.noConfusion hc

/-- A threshold is read back, with whatever follows it. -/
theorem test?_atLeast (mark : Char) (subject : String) (n : Int) {c : Char}
    (hc : isNumeralChar c = false) (rest : List Char) :
    test? mark subject ((subject ++ " >= " ++ toString n).toList ++ c :: rest)
      = some (.atLeast n, c :: rest) := by
  have hnumeral : ∀ d ∈ (toString n).toList, isNumeralChar d = true := by
    intro d hd
    rcases Numeric.mem_toString_int hd with hdigit | rfl
    · rw [isNumeralChar, hdigit, Bool.true_or]
    · decide
  rw [test?, String.toList_append, List.append_assoc, Line.after?_append]
  dsimp only
  rw [Text.takeWhile_append_cons hnumeral hc, Text.dropWhile_append_cons hnumeral hc,
    Numeric.readSigned?_toString]
  rfl

/-- A word is read back, with whatever follows it. -/
theorem test?_state (mark : Char) (subject : String) {s : String} (hmark : mark ∉ s.toList)
    (hescape : '\\' ∉ s.toList) (rest : List Char) :
    test? mark subject
        ((subject ++ " == " ++ String.singleton mark ++ s ++ String.singleton mark).toList ++ rest)
      = some (.state s, rest) := by
  have htext : (subject ++ " == " ++ String.singleton mark ++ s ++ String.singleton mark).toList
      ++ rest
      = (subject ++ " == " ++ String.singleton mark).toList ++ (s.toList ++ mark :: rest) := by
    simp
  have hlevel : Line.after? (subject ++ " >= ")
      ((subject ++ " == " ++ String.singleton mark).toList ++ (s.toList ++ mark :: rest)) = none := by
    refine Line.after?_eq_none ?_
    simp [List.prefix_append_right_inj]
  rw [test?, htext, hlevel, Line.after?_append]
  simp [Text.splitFirst?_append hmark, hescape]

theorem test?_cppTest {test : TierTest} (h : test.isLegible = true) (subject : String) {c : Char}
    (hc : isNumeralChar c = false) (rest : List Char) :
    test? '"' subject ((TierTable.cppTest subject test).toList ++ c :: rest)
      = some (test, c :: rest) := by
  cases test with
  | atLeast n => exact test?_atLeast '"' subject n hc rest
  | state s =>
    have htext : TierTable.cppTest subject (.state s)
        = subject ++ " == " ++ String.singleton '"' ++ s ++ String.singleton '"' := by
      simp only [TierTable.cppTest, String.append_assoc]
      rfl
    rw [htext]
    exact test?_state '"' subject (notMem_of_isName h (by decide)) (notMem_of_isName h (by decide)) _

theorem test?_templateTest {test : TierTest} (h : test.isLegible = true) (subject : String)
    {c : Char} (hc : isNumeralChar c = false) (rest : List Char) :
    test? '\'' subject ((TierTable.templateTest subject test).toList ++ c :: rest)
      = some (test, c :: rest) := by
  cases test with
  | atLeast n => exact test?_atLeast '\'' subject n hc rest
  | state s =>
    have htext : TierTable.templateTest subject (.state s)
        = subject ++ " == " ++ String.singleton '\'' ++ s ++ String.singleton '\'' := by
      simp only [TierTable.templateTest, String.append_assoc]
      rfl
    rw [htext]
    exact test?_state '\'' subject (notMem_of_isName h (by decide))
      (notMem_of_isName h (by decide)) _

/-! ## Statements and tags -/

theorem statement?_append (sink : String) {glyph : String} (h : '"' ∉ glyph.toList) :
    statement? sink (sink ++ "\"" ++ glyph ++ "\"" ++ ";").toList = some glyph := by
  have htext : (sink ++ "\"" ++ glyph ++ "\"" ++ ";").toList
      = (sink ++ "\"").toList ++ (glyph.toList ++ '"' :: [';']) := by
    simp only [String.toList_append, List.append_assoc]
    rfl
  rw [statement?, htext, Line.after?_append]
  simp [Text.splitFirst?_append h]

theorem conditional?_append {test : TierTest} (h : test.isLegible = true)
    (lead subject sink : String) {glyph : String} (hglyph : '"' ∉ glyph.toList) :
    conditional? lead subject sink
        (lead ++ " (" ++ (TierTable.cppTest subject test ++ (") "
          ++ (sink ++ "\"" ++ glyph ++ "\"" ++ ";")))).toList
      = some (some test, glyph) := by
  have hstatement := statement?_append sink hglyph
  generalize sink ++ "\"" ++ glyph ++ "\"" ++ ";" = statement at hstatement ⊢
  have htest : test? '"' subject (TierTable.cppTest subject test ++ (") " ++ statement)).toList
      = some (test, (") " ++ statement).toList) := by
    simp only [String.toList_append]
    exact test?_cppTest h subject (by decide) _
  simp only [conditional?, Line.after?_toList_append, htest, hstatement, Option.bind_eq_bind,
    Option.bind_some]

theorem unconditional?_append (lead sink : String) {glyph : String} (h : '"' ∉ glyph.toList) :
    unconditional? lead sink (lead ++ (sink ++ "\"" ++ glyph ++ "\"" ++ ";")).toList
      = some (none, glyph) := by
  simp only [unconditional?, Line.after?_toList_append, statement?_append sink h, Option.bind_eq_bind,
    Option.bind_some]

theorem tagged?_append {test : TierTest} (h : test.isLegible = true) (lead subject name : String) :
    tagged? lead subject
        ("% " ++ lead ++ " " ++ (TierTable.templateTest subject test ++ (" %\x7d" ++ name))).toList
      = some (some test, name) := by
  have htest : test? '\'' subject
        (TierTable.templateTest subject test ++ (" %\x7d" ++ name)).toList
      = some (test, (" %\x7d" ++ name).toList) := by
    simp only [String.toList_append]
    exact test?_templateTest h subject (by decide) _
  simp only [tagged?, Line.after?_toList_append, htest, Option.bind_eq_bind, Option.bind_some,
    String.ofList_toList]

theorem otherwise?_append (name : String) :
    otherwise? ("% else %\x7d" ++ name).toList = some (none, name) := by
  simp only [otherwise?, Line.after?_toList_append, Option.map_some, String.ofList_toList]

/-! ## Chains -/

/-- A chain is read part by part, when each part is. -/
theorem chain?_map {α : Type} {part last : List Char → Option Choice} {render : α → List Char}
    {branch : α → Choice} {xs : List α} {tail : List Char} {final : Choice}
    (hpart : ∀ x ∈ xs, part (render x) = some (branch x)) (hlast : last tail = some final) :
    chain? part part last (xs.map render ++ [tail]) = some (xs.map branch ++ [final]) := by
  induction xs with
  | nil => simp [chain?, hlast]
  | cons x xs ih =>
    have hfirst := hpart x List.mem_cons_self
    have hrest := ih fun y hy => hpart y (List.mem_cons_of_mem _ hy)
    obtain ⟨next, parts, hcons⟩ := List.exists_cons_of_ne_nil
      (List.append_ne_nil_of_right_ne_nil (xs.map render) (List.cons_ne_nil tail []))
    rw [hcons] at hrest
    rw [List.map_cons, List.cons_append, hcons, chain?, hfirst, hrest]
    rfl

/-- The same for a chain whose first part is led in another way. -/
theorem chain?_leads {α : Type} {first other last : List Char → Option Choice} {lead next : String}
    {render : String × α → List Char} {branch : α → Choice} {xs : List α} {tail : List Char}
    {final : Choice} (hfirst : ∀ x ∈ xs, first (render (lead, x)) = some (branch x))
    (hother : ∀ x ∈ xs, other (render (next, x)) = some (branch x))
    (hlast : last tail = some final) :
    chain? first other last ((TierTable.leads lead next xs).map render ++ [tail])
      = some (xs.map branch ++ [final]) := by
  cases xs with
  | nil => simp [TierTable.leads, chain?, hlast]
  | cons x xs =>
    have hx := hfirst x List.mem_cons_self
    have hrest := chain?_map (fun y hy => hother y (List.mem_cons_of_mem _ hy)) hlast
    have hmap : (xs.map fun y => (next, y)).map render = xs.map fun y => render (next, y) :=
      List.map_map
    obtain ⟨second, parts, hcons⟩ := List.exists_cons_of_ne_nil
      (List.append_ne_nil_of_right_ne_nil (xs.map fun y => render (next, y))
        (List.cons_ne_nil tail []))
    rw [hcons] at hrest
    rw [TierTable.leads, List.map_cons, hmap, List.cons_append, hcons, chain?, hx, hrest]
    rfl

end Choice

/-! ## Tables -/

/-- A table of names, whose codes are codepoints with one name each. -/
structure TierTable.Legible (t : TierTable) : Prop where
  tests : ∀ p ∈ t.tiers, p.1.isLegible = true
  names : ∀ tier ∈ t.all, TierTest.isName tier.name = true
  codes : ∀ tier ∈ t.all, Icon.normalize? tier.code = some tier.code
  named : ∀ tier ∈ t.all, t.nameOf? tier.code = some tier.name

namespace TierTable

open Choice

variable {t : TierTable}

theorem Legible.quote_notMem_escape (h : t.Legible) {tier : Tier} (hmem : tier ∈ t.all) :
    '"' ∉ (Icon.escape tier.code).toList :=
  Icon.quote_notMem_escape (Icon.isWordText_of_normalize? (h.codes tier hmem))

theorem mem_all_of_mem_tiers {p : TierTest × Tier} (h : p ∈ t.tiers) : p.2 ∈ t.all :=
  List.mem_append_left _ (List.mem_map.2 ⟨p, h, rfl⟩)

theorem fallback_mem_all : t.fallback ∈ t.all := List.mem_append_right _ (List.mem_singleton.2 rfl)

/-- **Reading the assigning statements gives back the table.** -/
theorem readAssignments?_assignChain (h : t.Legible) (subject target : String) :
    readAssignments? subject target (t.assignChain subject target)
      = some (t.branches fun tier => Icon.escape tier.code) := by
  have hbranch : ∀ lead, ∀ p ∈ t.tiers,
      conditional? lead subject (target ++ " = ")
        (lead ++ " (" ++ cppTest subject p.1 ++ ") " ++ target ++ " = " ++ literal p.2 ++ ";").toList
      = some (some p.1, Icon.escape p.2.code) := by
    intro lead p hp
    rw [← conditional?_append (h.tests p hp) lead subject (target ++ " = ")
      (h.quote_notMem_escape (mem_all_of_mem_tiers hp))]
    simp only [literal, String.append_assoc]
  rw [readAssignments?, assignChain, List.map_append, List.map_map, branches]
  refine chain?_leads (fun p hp => ?_) (fun p hp => ?_) ?_
  · exact hbranch "if" p hp
  · exact hbranch "else if" p hp
  · rw [← unconditional?_append "else " (target ++ " = ") (h.quote_notMem_escape fallback_mem_all)]
    simp only [literal, String.append_assoc]

/-- **Reading the returning statements gives back the table.** -/
theorem readReturns?_returnChain (h : t.Legible) (subject : String) :
    readReturns? subject (t.returnChain subject)
      = some (t.branches fun tier => Icon.escape tier.code) := by
  have hopen : "if (" = "if" ++ " (" := by decide
  have hclose : ") return " = ") " ++ "return " := by decide
  rw [readReturns?, returnChain, List.map_append, List.map_map, branches]
  refine chain?_map (fun p hp => ?_) ?_
  · rw [← conditional?_append (h.tests p hp) "if" subject "return "
      (h.quote_notMem_escape (mem_all_of_mem_tiers hp))]
    simp only [literal, Function.comp_apply, hopen, hclose, String.append_assoc]
  · rw [← unconditional?_append "" "return " (h.quote_notMem_escape fallback_mem_all)]
    simp only [literal, String.append_assoc, String.empty_append]

/-- A tag of a template and the name behind it, without the brace before it. -/
def tagText (part : String × TierTest × Tier) : String :=
  "% " ++ part.1 ++ " " ++ (templateTest "v" part.2.1 ++ (" %\x7d" ++ part.2.2.name))

/-- What a template says behind the name of its value, tag by tag. -/
def tagTexts (t : TierTable) : List String :=
  (leads "if" "elif" t.tiers).map tagText ++ ["% else %\x7d" ++ t.fallback.name, "% endif %\x7d"]

theorem template_eq (t : TierTable) (value : String) :
    t.template value = "\x7b% set v = " ++ value ++ " %\x7d"
      ++ String.join (t.tagTexts.map ("\x7b" ++ ·)) := by
  have hopen : ∀ s, "\x7b% " ++ s = "\x7b" ++ ("% " ++ s) := fun s => by
    rw [← String.append_assoc]
    rfl
  have helse : "\x7b% else %\x7d" = "\x7b" ++ "% else %\x7d" := by decide
  have hend : "\x7b% endif %\x7d" = "\x7b" ++ "% endif %\x7d" := by decide
  delta template
  simp only [tagTexts, List.map_append, List.map_cons, List.map_nil, List.map_map,
    String.join_append, String.join_cons, String.join_nil, hopen, helse, hend, String.append_assoc,
    String.append_empty, Function.comp_def, tagText]

theorem brace_notMem_templateTest {test : TierTest} (h : test.isLegible = true) :
    '\x7b' ∉ (templateTest "v" test).toList := by
  cases test with
  | atLeast n =>
    have hnumeral := Numeric.notMem_toString_int (c := '\x7b') (by decide) (by decide) n
    have htext : templateTest "v" (.atLeast n) = "v >= " ++ toString n := rfl
    rw [htext, String.toList_append, List.mem_append, not_or]
    exact ⟨by decide, hnumeral⟩
  | state s =>
    have hname := notMem_of_isName h (c := '\x7b') (by decide)
    simp only [templateTest, String.toList_append, List.mem_append, not_or]
    exact ⟨⟨⟨by decide, by decide⟩, hname⟩, by decide⟩

/-- No tag of a table holds a brace that opens another one. -/
theorem Legible.brace_notMem_tagTexts (h : t.Legible) :
    ∀ text ∈ t.tagTexts, '\x7b' ∉ text.toList := by
  have hname : ∀ tier ∈ t.all, '\x7b' ∉ tier.name.toList :=
    fun tier hmem => notMem_of_isName (h.names tier hmem) (by decide)
  rw [tagTexts, List.forall_mem_append, List.forall_mem_cons, List.forall_mem_singleton]
  refine ⟨fun text htext => ?_, ?_, by decide⟩
  · obtain ⟨⟨lead, p⟩, hmem, rfl⟩ := List.mem_map.1 htext
    obtain ⟨hlead, hp⟩ := mem_leads hmem
    have hlead : '\x7b' ∉ lead.toList := by
      rcases hlead with rfl | rfl <;> decide
    simp only [tagText, String.toList_append, List.mem_append, not_or]
    exact ⟨⟨⟨by decide, hlead⟩, by decide⟩, brace_notMem_templateTest (h.tests p hp), by decide,
      hname _ (mem_all_of_mem_tiers hp)⟩
  · rw [String.toList_append, List.mem_append, not_or]
    exact ⟨by decide, hname _ fallback_mem_all⟩

/-- **Reading the template gives back the table.** -/
theorem readTemplate?_template (h : t.Legible) (value : String) :
    readTemplate? value (t.template value) = some (t.branches Tier.name) := by
  have htags : (String.join (t.tagTexts.map ("\x7b" ++ ·))).toList
      = (t.tagTexts.map String.toList).flatMap ('\x7b' :: ·) := by
    simp only [String.toList_join, List.flatMap_map, String.toList_append]
    rfl
  have hbrace : ∀ tag ∈ t.tagTexts.map String.toList, '\x7b' ∉ tag := by
    intro tag htag
    obtain ⟨text, htext, rfl⟩ := List.mem_map.1 htag
    exact h.brace_notMem_tagTexts text htext
  have hsplit : Text.splitOn '\x7b' ((t.tagTexts.map String.toList).flatMap ('\x7b' :: ·))
      = [] :: t.tagTexts.map String.toList :=
    Text.splitOn_flatMap List.not_mem_nil hbrace
  have hparts : t.tagTexts.map String.toList
      = (((leads "if" "elif" t.tiers).map fun part => (tagText part).toList)
        ++ [("% else %\x7d" ++ t.fallback.name).toList]) ++ ["% endif %\x7d".toList] := by
    simp [tagTexts]
  have hchain : chain? (tagged? "if" "v") (tagged? "elif" "v") otherwise?
      (((leads "if" "elif" t.tiers).map fun part => (tagText part).toList)
        ++ [("% else %\x7d" ++ t.fallback.name).toList])
      = some (t.branches Tier.name) :=
    chain?_leads (fun p hp => tagged?_append (h.tests p hp) "if" "v" p.2.name)
      (fun p hp => tagged?_append (h.tests p hp) "elif" "v" p.2.name)
      (otherwise?_append t.fallback.name)
  rw [readTemplate?, template_eq, Line.after?_toList_append, htags]
  simp only [Option.bind_eq_bind, Option.bind_some, hsplit]
  rw [hparts, List.getLast?_concat, if_pos rfl, List.dropLast_concat, hchain]

end TierTable

/-! ## Levels -/

/-- The value of a finite number. -/
def Numeric.Binary64.value (negative : Bool) (mantissa : Nat) (exponent : Int) : ℚ :=
  (if negative then -1 else 1) * mantissa * 2 ^ exponent

namespace Numeric.Binary64

/-- The value is the quotient of the magnitude, with the sign. -/
theorem value_eq_div (negative : Bool) (m : Nat) (e : Int) :
    value negative m e
      = ((if negative then -((magnitude m e).1 : Int) else (magnitude m e).1 : Int) : ℚ)
        / (magnitude m e).2 := by
  have habs : (m : ℚ) * 2 ^ e = (magnitude m e).1 / (magnitude m e).2 := by
    rw [magnitude, scale]
    split
    · next h =>
      obtain ⟨k, rfl⟩ := Int.eq_ofNat_of_zero_le h
      simp
    · next h =>
      obtain ⟨k, hk⟩ := Int.eq_ofNat_of_zero_le (show 0 ≤ -e by omega)
      obtain rfl : e = -(k : Int) := by omega
      simp [div_eq_mul_inv]
  rw [value, mul_assoc, habs]
  cases negative <;> simp [neg_div]

theorem floor?_finite (negative : Bool) (m : Nat) (e : Int) :
    floor? (.finite negative m e) = some ⌊value negative m e⌋ := by
  rw [floor?, value_eq_div, Rat.floor_intCast_div_natCast]
  exact congrArg some (Int.fdiv_eq_ediv_of_nonneg _ (Int.natCast_nonneg _))

end Numeric.Binary64

namespace TierTable

/-- The tier of an exact level. -/
def selectExact (t : TierTable) (q : ℚ) : Tier :=
  t.select fun
    | .atLeast n => decide ((n : ℚ) ≤ q)
    | .state _ => false

/-- A finite number reaches the integers that its value reaches. -/
theorem reaches_finite (negative : Bool) (m : Nat) (e n : Int) :
    reaches (.finite negative m e) n
      = decide ((n : ℚ) ≤ Numeric.Binary64.value negative m e) := by
  rw [reaches, Numeric.Binary64.floor?_finite]
  simp [Int.le_floor]

theorem selectLevel_finite (t : TierTable) (negative : Bool) (m : Nat) (e : Int) :
    t.selectLevel (.finite negative m e) = t.selectExact (Numeric.Binary64.value negative m e) := by
  rw [selectLevel, selectExact]
  congr 1
  funext test
  cases test with
  | atLeast n => exact reaches_finite negative m e n
  | state s => rfl

end TierTable

/-! ## Agreement -/

/-- A tier is what everything that is made of a table says at a reading. -/
structure TierTable.Agrees (t : TierTable) (r : Reading) (tier : Tier) : Prop where
  assigned : ∀ subject target,
    (Choice.readAssignments? subject target (t.assignChain subject target)).bind r.firstMatch?
      = some (Icon.escape tier.code)
  returned : ∀ subject,
    (Choice.readReturns? subject (t.returnChain subject)).bind r.firstMatch?
      = some (Icon.escape tier.code)
  written : ∀ value,
    (Choice.readTemplate? value (t.template value)).bind r.firstMatch? = some tier.name
  nameOf : t.nameOf? tier.code = some tier.name
  listed : tier.code ∈ t.codes
  tracked : ∀ (g : Generation) (size : Nat),
    (g.absorb (.glyphsAt t.codes size)).icons.contains tier.code (max 1 size) = true

namespace TierTable

variable {t : TierTable}

/-- Every code of a table is among those that it registers. -/
theorem mem_codes {tier : Tier} (h : tier ∈ t.all) : tier.code ∈ t.codes := by
  have hrun : ∀ (codes seen : List String) (code : String), code ∈ seen ∨ code ∈ codes →
      code ∈ codes.foldl (fun seen code => if seen.contains code then seen else seen ++ [code])
        seen := by
    intro codes
    induction codes with
    | nil => exact fun seen code h => h.resolve_right List.not_mem_nil
    | cons first codes ih =>
      intro seen code hcode
      rw [List.foldl_cons]
      refine ih _ code ?_
      rw [List.mem_cons, ← or_assoc] at hcode
      refine hcode.imp_left fun hcode => ?_
      split
      · next hseen => exact hcode.elim id fun heq => heq ▸ List.contains_iff_mem.1 hseen
      · exact List.mem_append.2 (hcode.imp_right List.mem_singleton.2)
  have hcodes : t.tiers.map (·.2.code) ++ [t.fallback.code] = t.all.map Tier.code := by
    simp [all]
  rw [codes, hcodes]
  exact hrun _ [] _ (Or.inr (List.mem_map.2 ⟨tier, h, rfl⟩))

/-- **Everything that is made of a table says the tier that is selected,** at every reading that
answers its tests. -/
theorem Legible.agrees (h : t.Legible) {r : Reading} {holds : TierTest → Bool}
    (hholds : ∀ p ∈ t.tiers, r.meets? p.1 = some (holds p.1)) : t.Agrees r (t.select holds) where
  assigned subject target := by
    rw [readAssignments?_assignChain h, Option.bind_some, firstMatch?_branches hholds]
  returned subject := by
    rw [readReturns?_returnChain h, Option.bind_some, firstMatch?_branches hholds]
  written value := by
    rw [readTemplate?_template h, Option.bind_some, firstMatch?_branches hholds]
  nameOf := h.named _ (t.select_mem_all holds)
  listed := mem_codes (t.select_mem_all holds)
  tracked g size :=
    have hcode := h.codes _ (t.select_mem_all holds)
    Icons.contains_iff.2
      ⟨_, hcode, g.lists_absorb_glyphsAt size (mem_codes (t.select_mem_all holds)) hcode⟩

end TierTable

namespace Tier

theorem legible_battery : battery.Legible where
  tests := by decide
  names := by decide
  codes := by decide
  named := by decide

theorem legible_wifi : wifi.Legible where
  tests := by decide
  names := by decide
  codes := by decide
  named := by decide

theorem legible_weather : weather.Legible where
  tests := by decide
  names := by decide
  codes := by decide
  named := by decide

/-- **The chains, the template, the names and the registered glyphs of each table agree with the
tier that it selects,** for every level and for every state; and a level that is held as a
floating-point number selects the tier of its exact value. -/
theorem tables_agree :
    (∀ q : ℚ, battery.Agrees (.level q) (battery.selectExact q))
      ∧ (∀ q : ℚ, wifi.Agrees (.level q) (wifi.selectExact q))
      ∧ (∀ s : String, weather.Agrees (.state s) (weather.selectState s))
      ∧ ∀ (t : TierTable) (negative : Bool) (m : Nat) (e : Int),
          t.selectLevel (.finite negative m e)
            = t.selectExact (Numeric.Binary64.value negative m e) := by
  have hbattery : ∀ p ∈ battery.tiers, ∃ n, p.1 = .atLeast n := by
    simp [battery]
  have hwifi : ∀ p ∈ wifi.tiers, ∃ n, p.1 = .atLeast n := by
    simp [wifi]
  have hweather : ∀ p ∈ weather.tiers, ∃ s, p.1 = .state s := by
    simp [weather]
  refine ⟨fun q => legible_battery.agrees fun p hp => ?_, fun q => legible_wifi.agrees fun p hp => ?_,
    fun s => legible_weather.agrees fun p hp => ?_, TierTable.selectLevel_finite⟩
  · obtain ⟨n, hn⟩ := hbattery p hp
    rw [hn]
    rfl
  · obtain ⟨n, hn⟩ := hwifi p hp
    rw [hn]
    rfl
  · obtain ⟨state, hstate⟩ := hweather p hp
    rw [hstate]
    rfl

end Tier

end DisplayLayout
