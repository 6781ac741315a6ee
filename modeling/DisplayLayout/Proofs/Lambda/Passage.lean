import DisplayLayout.Proofs.Condition
import DisplayLayout.Proofs.Lambda.Scan

/-!
# Passages of code

A fragment is a text that stands in a line of code without disturbing it: it
ends neither in a literal nor in a comment, closes the blocks that it opens, and
makes no call of a text or of a helper. Texts, numbers and names are fragments,
and so is what is put together of fragments.

A passage is a list of lines of which each is read on its own, and which lead
from one depth of blocks to another. It is known which texts its lines draw,
which helpers they call and which glyphs their literals name.
-/

namespace DisplayLayout

open Text

namespace Lambda

/-! ## Fragments -/

/-- Characters that are read as pieces which disturb nothing; `T` holds of the literals among them. -/
structure Inert (T : List Char → Prop) (cs : List Char) (pieces : List Piece) : Prop where
  reads : Reads cs pieces
  level : ∀ d, depth d pieces = some d
  calm : Calm pieces
  literals : ∀ text ∈ literals pieces, T text
  last : cs.getLast? ≠ some '\\'

/-- A text that stands in a line of code without disturbing it. -/
def Fragment (T : List Char → Prop) (s : String) : Prop := ∃ pieces, Inert T s.toList pieces

theorem literals_append (ps qs : List Piece) : literals (ps ++ qs) = literals ps ++ literals qs :=
  List.filterMap_append

theorem getLast?_append_ne {c : Char} {as bs : List Char} (ha : as.getLast? ≠ some c)
    (hb : bs.getLast? ≠ some c) : (as ++ bs).getLast? ≠ some c := by
  rw [List.getLast?_append]
  cases hlast : bs.getLast? with
  | none => exact ha
  | some d => exact fun heq => hb (hlast.trans heq)

section

variable {T : List Char → Prop}

theorem Inert.nil : Inert T [] [] where
  reads rest := by simp
  level d := rfl
  calm before rest := ⟨before, rfl⟩
  literals _ htext := absurd htext List.not_mem_nil
  last h := by cases h

theorem Inert.append {as bs : List Char} {ps qs : List Piece} (ha : Inert T as ps)
    (hb : Inert T bs qs) : Inert T (as ++ bs) (ps ++ qs) where
  reads := ha.reads.append hb.reads
  level d := by rw [depth_append, ha.level, Option.bind_some, hb.level]
  calm := ha.calm.append hb.calm
  literals := by
    rw [literals_append]
    intro text htext
    rcases List.mem_append.1 htext with h | h
    · exact ha.literals text h
    · exact hb.literals text h
  last := getLast?_append_ne ha.last hb.last

theorem Inert.mono {T' : List Char → Prop} {cs : List Char} {ps : List Piece} (h : Inert T cs ps)
    (hT : ∀ text, T text → T' text) : Inert T' cs ps :=
  { h with literals := fun text htext => hT text (h.literals text htext) }

theorem Fragment.mono {T' : List Char → Prop} {s : String} (h : Fragment T s)
    (hT : ∀ text, T text → T' text) : Fragment T' s := by
  obtain ⟨ps, h⟩ := h
  exact ⟨ps, h.mono hT⟩

theorem Fragment.append {a b : String} (ha : Fragment T a) (hb : Fragment T b) :
    Fragment T (a ++ b) := by
  obtain ⟨ps, ha⟩ := ha
  obtain ⟨qs, hb⟩ := hb
  refine ⟨ps ++ qs, ?_⟩
  rw [String.toList_append]
  exact ha.append hb

/-- A text with something put in. -/
theorem Fragment.insert {a s b : String} (ha : Fragment T a) (hs : Fragment T s) (hb : Fragment T b) :
    Fragment T (a ++ s ++ b) :=
  (ha.append hs).append hb

/-! ### Known texts -/

/-- Whether known code disturbs nothing, apart from what its literals are. -/
def isInert (cs : List Char) (pieces : List Piece) : Bool :=
  closes cs && depth 0 pieces == some 0 && isCalm [] pieces && cs.getLast? != some '\\'

theorem inert_of_isInert {cs : List Char} {pieces : List Piece} (hread : readCode cs = some pieces)
    (h : isInert cs pieces = true) (hT : ∀ text ∈ Lambda.literals pieces, T text) :
    Inert T cs pieces := by
  simp only [isInert, Bool.and_eq_true, beq_iff_eq, bne_iff_ne] at h
  obtain ⟨⟨⟨hcloses, hdepth⟩, hcalm⟩, hlast⟩ := h
  refine ⟨reads_of_closes hcloses hread, fun d => ?_, calm_of_isCalm hcalm, hT, hlast⟩
  have hshift := depth_add hdepth d
  rwa [Nat.zero_add] at hshift

/-- The literals of known code, if it disturbs nothing. -/
def knownLiterals? (cs : List Char) : Option (List (List Char)) :=
  match readCode cs with
  | some pieces => if isInert cs pieces then some (literals pieces) else none
  | none => none

/-- A known text is a fragment if its literals are as they should be. -/
theorem Fragment.known {s : String} {texts : List (List Char)}
    (h : knownLiterals? s.toList = some texts) (htexts : ∀ text ∈ texts, T text) : Fragment T s := by
  unfold knownLiterals? at h
  split at h
  · next pieces hread =>
    split at h
    · next hinert =>
      cases h
      exact ⟨pieces, inert_of_isInert hread hinert htexts⟩
    · cases h
  · cases h

/-- A known text without literals. -/
theorem Fragment.bare {s : String} (h : knownLiterals? s.toList = some []) : Fragment T s :=
  Fragment.known h fun _ hm => absurd hm List.not_mem_nil

/-! ### Numbers and names -/

/-- Characters that mean nothing to a reader of code. -/
def isInertChar (c : Char) : Bool := !(['"', '/', '\\', '(', '{', '}'].contains c)

theorem Inert.char {c : Char} (h : isInertChar c = true) : Inert T [c] [.code c] := by
  have hother : c ≠ '"' ∧ c ≠ '/' ∧ c ≠ '\\' ∧ c ≠ '(' ∧ c ≠ '{' ∧ c ≠ '}' := by
    simpa [isInertChar] using h
  obtain ⟨hquote, hslash, hback, hparen, hopen, hclose⟩ := hother
  refine ⟨fun rest => readCode_cons hquote hslash rest, fun d => ?_, calm_of_isCalm ?_,
    fun _ htext => absurd htext List.not_mem_nil, fun heq => hback (Option.some.inj heq)⟩
  · rw [depth.eq_5, depth]
    all_goals simp [hopen, hclose]
  · simp [isCalm, hparen]

theorem Inert.chars {cs : List Char} (h : ∀ c ∈ cs, isInertChar c = true) :
    Inert T cs (cs.map .code) := by
  induction cs with
  | nil => exact Inert.nil
  | cons c cs ih =>
    exact (Inert.char (h c List.mem_cons_self)).append (ih fun d hd => h d (List.mem_cons_of_mem _ hd))

theorem Fragment.chars {s : String} (h : ∀ c ∈ s.toList, isInertChar c = true) : Fragment T s :=
  ⟨_, Inert.chars h⟩

theorem isInertChar_of_isWordChar {c : Char} (h : isWordChar c = true) : isInertChar c = true := by
  have hother : ['"', '/', '\\', '(', '{', '}'].all (fun d => !isWordChar d) = true := by decide
  have hc : c ∉ ['"', '/', '\\', '(', '{', '}'] := by
    intro hm
    have hnot := List.all_eq_true.1 hother c hm
    rw [h] at hnot
    exact Bool.noConfusion hnot
  simpa [isInertChar] using hc

theorem Fragment.word {s : String} (h : IsWordText s) : Fragment T s :=
  Fragment.chars fun c hc => isInertChar_of_isWordChar (h c hc)

theorem isInertChar_of_isNumberChar {c : Char} (h : Numeric.isNumberChar c = true) :
    isInertChar c = true := by
  simp only [Numeric.isNumberChar, Bool.or_eq_true, beq_iff_eq] at h
  rcases h with ((h | rfl) | rfl) | rfl
  · exact isInertChar_of_isWordChar (isWordChar_of_isAlphanum h)
  all_goals rfl

/-- Characters of arguments, which go on up to a comma or a parenthesis. -/
def isArgumentChar (c : Char) : Bool := isInertChar c && c != ',' && c != ')'

theorem isArgumentChar_of_mem_int {n : Int} {c : Char} (h : c ∈ (toString n).toList) :
    isArgumentChar c = true := by
  rcases Numeric.mem_toString_int h with hdigit | rfl
  · have hword := isWordChar_of_isDigit hdigit
    have hcomma : c ≠ ',' := by
      rintro rfl
      cases hword
    have hclose : c ≠ ')' := by
      rintro rfl
      cases hword
    simp [isArgumentChar, isInertChar_of_isWordChar hword, hcomma, hclose]
  · rfl

theorem Fragment.int (n : Int) : Fragment T (toString n) :=
  Fragment.chars fun c hc => by
    have hargument := isArgumentChar_of_mem_int hc
    rw [isArgumentChar, Bool.and_eq_true, Bool.and_eq_true] at hargument
    exact hargument.1.1

theorem Fragment.nat (n : Nat) : Fragment T (toString n) := Fragment.word (isWordText_toString n)

theorem Fragment.plainText (x : Numeric.Binary64) : Fragment T (Numeric.plainText x) :=
  Fragment.chars fun _ hc => isInertChar_of_isNumberChar (Numeric.isNumberChar_of_mem_render hc)

theorem Fragment.triple (r g b : Nat) : Fragment T ("Color" ++ Color.tripleText r g b) := by
  -- The parenthesis alone is no fragment: a name of a text call may stand before it.
  have htext : "Color" ++ Color.tripleText r g b
      = "Color(" ++ toString r ++ ", " ++ toString g ++ ", " ++ toString b ++ ")" := by
    rw [← String.toList_inj]
    simp [Color.tripleText]
    rfl
  rw [htext]
  refine .insert (.insert (.insert ?_ (.nat r) ?_) (.nat g) ?_) (.nat b) ?_
  all_goals exact Fragment.bare (by decide)

theorem Fragment.color (c : Color) (inverted : Bool) : Fragment T (c.direct inverted) := by
  cases c with
  | rgb r g b => exact .triple r g b
  | _ => cases inverted <;> exact Fragment.bare (by decide)

theorem Fragment.align (a : Align) : Fragment T a.direct := by
  obtain ⟨horizontal, vertical⟩ := a
  cases horizontal <;> cases vertical <;> exact Fragment.bare (by decide)

theorem Fragment.state {id : String} (h : IsWordText id) : Fragment T (state id) :=
  .insert (.bare (by decide)) (.word h) (.bare (by decide))

/-! ### Literals -/

/-- What a literal goes on behind. -/
def Continues (text : List Char) : Prop :=
  ∀ rest, readLiteral (text ++ rest) = (readLiteral rest).map fun p => (text ++ p.1, p.2)

/-- The contents of a literal that do not end it and name no glyph. -/
structure Content (text : List Char) : Prop where
  continues : Continues text
  mute : ∀ rest, glyphEscapes (text ++ rest) = glyphEscapes rest

theorem Continues.append {as bs : List Char} (ha : Continues as) (hb : Continues bs) :
    Continues (as ++ bs) := by
  intro rest
  rw [List.append_assoc, ha, hb, Option.map_map]
  simp [Function.comp_def]

theorem Content.nil : Content [] := ⟨fun rest => by simp, fun _ => rfl⟩

theorem Content.append {as bs : List Char} (ha : Content as) (hb : Content bs) :
    Content (as ++ bs) where
  continues := ha.continues.append hb.continues
  mute rest := by rw [List.append_assoc, ha.mute, hb.mute]

theorem Content.char {c : Char} (hquote : c ≠ '"') (hslash : c ≠ '\\') : Content [c] :=
  ⟨fun rest => readLiteral_cons hquote hslash rest, fun rest => glyphEscapes_cons hslash rest⟩

theorem Content.escaped {c : Char} (h : c ≠ 'U') : Content ['\\', c] where
  continues rest := rfl
  mute rest := by
    show glyphEscapes ('\\' :: c :: rest) = glyphEscapes rest
    rw [glyphEscapes]
    exact h

theorem Content.flatMap {g : Char → List Char} {cs : List Char} (h : ∀ c ∈ cs, Content (g c)) :
    Content (cs.flatMap g) := by
  induction cs with
  | nil => exact Content.nil
  | cons c cs ih =>
    rw [List.flatMap_cons]
    exact (h c List.mem_cons_self).append (ih fun d hd => h d (List.mem_cons_of_mem _ hd))

theorem Content.chars {cs : List Char} (h : ∀ c ∈ cs, c ≠ '"' ∧ c ≠ '\\') : Content cs := by
  have hflat := Content.flatMap fun c hc => Content.char (h c hc).1 (h c hc).2
  rwa [List.flatMap_singleton'] at hflat

/-- A known text without quotes and backslashes. -/
theorem Content.known {s : String} (h : s.toList.all (fun c => c != '"' && c != '\\') = true) :
    Content s.toList :=
  Content.chars fun c hc => by simpa using List.all_eq_true.1 h c hc

theorem content_escapeChar (c : Char) : Content (escapeChar c) := by
  rcases escapeChar_cases c with ⟨-, mark, heq, hstands⟩ | ⟨-, heq⟩ | ⟨hquote, hslash, -, -, heq⟩
  · have hglyph : mark ≠ 'U' := by
      rintro rfl
      cases hstands
    exact heq ▸ Content.escaped hglyph
  · exact heq ▸ Content.nil
  · exact heq ▸ Content.char hquote hslash

/-- **A text does not end its literal,** whatever it is. -/
theorem content_escape (s : String) : Content (escape s).toList := by
  rw [escape, String.toList_ofList]
  exact Content.flatMap fun c _ => content_escapeChar c

theorem content_escapeFormat (s : String) : Content (escapeFormat s).toList := by
  rw [toList_escapeFormat]
  refine Content.flatMap fun c _ => ?_
  unfold formatChar
  split
  · have hsign : Content ['%'] := Content.char (by decide) (by decide)
    exact hsign.append hsign
  · exact content_escapeChar c

theorem Fragment.literal {text : String} (h : Continues text.toList) (hT : T text.toList) :
    Fragment T ("\"" ++ text ++ "\"") := by
  have htext : ("\"" ++ text ++ "\"").toList = '"' :: (text.toList ++ ['"']) := by simp
  refine ⟨[.literal text.toList], fun rest => ?_, fun d => rfl, calm_of_isCalm rfl, ?_, ?_⟩
  · rw [htext, List.cons_append, readCode, List.append_assoc, h, List.singleton_append, readLiteral]
    simp [Function.comp_def]
  · intro t ht
    rw [List.mem_singleton.1 ht]
    exact hT
  · rw [htext, ← List.cons_append, List.getLast?_concat]
    exact fun heq => absurd (Option.some.inj heq) (by decide)

end

/-! ### Glyphs -/

section

variable {G : Nat → Prop}

/-- A literal that names only glyphs of a kind. -/
def Shows (G : Nat → Prop) (text : List Char) : Prop :=
  ∀ e ∈ glyphEscapes text, ∃ n, e = some n ∧ G n

/-- A literal that is one glyph of a kind. -/
def IsGlyph (G : Nat → Prop) (text : List Char) : Prop := ∃ n, Icon.codepoint? text = some n ∧ G n

theorem Content.shows {text : List Char} (h : Content text) : Shows G text := by
  have hmute := h.mute []
  rw [List.append_nil] at hmute
  intro e he
  rw [hmute] at he
  exact absurd he List.not_mem_nil

theorem IsGlyph.shows {text : List Char} (h : IsGlyph G text) : Shows G text := by
  obtain ⟨n, hn, hG⟩ := h
  intro e he
  rw [glyphEscapes_of_codepoint? hn, List.mem_singleton] at he
  exact ⟨n, he, hG⟩

/-- A known text whose literals name no glyphs. -/
theorem Fragment.mute {s : String}
    (h : ((knownLiterals? s.toList).any (·.all (glyphEscapes · == []))) = true) :
    Fragment (Shows G) s := by
  obtain ⟨texts, hknown, hmute⟩ := (Option.any_eq_true _ _).1 h
  refine Fragment.known hknown fun text htext e he => ?_
  rw [beq_iff_eq.1 (List.all_eq_true.1 hmute text htext)] at he
  exact absurd he List.not_mem_nil

/-- The literal of a text. -/
theorem Fragment.text (s : String) : Fragment (Shows G) (Lambda.literal s) :=
  Fragment.literal (content_escape s).continues (content_escape s).shows

/-- The literal of a codepoint. -/
theorem Fragment.glyph {text code : String} (hcode : Icon.normalize? text = some code)
    (hG : ∀ n, Numeric.readHex? code.toList = some n → G n) :
    Fragment (IsGlyph G) ("\"" ++ Icon.escape code ++ "\"") := by
  obtain ⟨digits, hescape, hdigits⟩ := Icon.exists_escape (Icon.isWordText_of_normalize? hcode)
  have hcontent : Content digits.toList := Content.chars fun c hc =>
    ⟨ne_of_isWordChar (hdigits c hc) (by decide), ne_of_isWordChar (hdigits c hc) (by decide)⟩
  have hlead : Continues ['\\', 'U'] := fun rest => rfl
  refine Fragment.literal ?_ ?_
  · rw [hescape, String.toList_append]
    exact hlead.append hcontent.continues
  · obtain ⟨n, hn⟩ := Icon.exists_readHex?_of_normalize? hcode
    exact ⟨n, (Icon.codepoint?_escape hcode).trans hn, hG n hn⟩

end

/-! ## Passages -/

/-- Lines that are read each on its own, from a depth of blocks to another one; `P` holds of the
calls that they make, and `G` of the glyphs that they name. -/
structure Passage (P : Call → Prop) (G : Nat → Prop) (a b : Nat) (lines : List String) : Prop where
  reads : ∀ line ∈ lines, ∃ pieces, scan line = some pieces
    ∧ (∀ before, ∀ call ∈ calls before pieces, P call) ∧ ∀ text ∈ literals pieces, Shows G text
  last : ∀ line ∈ lines, line.toList.getLast? ≠ some '\\'
  leads : ∀ d, nest (d + a) lines = some (d + b)

namespace Passage

variable {P : Call → Prop} {G : Nat → Prop} {a b c : Nat}

theorem nil : Passage P G a a [] where
  reads _ hline := absurd hline List.not_mem_nil
  last _ hline := absurd hline List.not_mem_nil
  leads _ := rfl

theorem append {before behind : List String} (h : Passage P G a b before)
    (h' : Passage P G b c behind) : Passage P G a c (before ++ behind) where
  reads := List.forall_mem_append.2 ⟨h.reads, h'.reads⟩
  last := List.forall_mem_append.2 ⟨h.last, h'.last⟩
  leads d := by rw [nest_append, h.leads, Option.bind_some, h'.leads]

/-- A line by its pieces. -/
theorem ofPieces {line : String} {pieces : List Piece} (hscan : scan line = some pieces)
    (hcalls : ∀ before, ∀ call ∈ calls before pieces, P call)
    (hglyphs : ∀ text ∈ literals pieces, Shows G text) (hlast : line.toList.getLast? ≠ some '\\')
    (hdepth : depth a pieces = some b) : Passage P G a b [line] where
  reads := List.forall_mem_singleton.2 ⟨pieces, hscan, hcalls, hglyphs⟩
  last := List.forall_mem_singleton.2 hlast
  leads d := by
    rw [nest, hscan, Option.bind_some, Nat.add_comm d a, depth_add hdepth, Nat.add_comm b d]
    rfl

/-- A fragment on a line of its own. -/
theorem ofFragment {line : String} (h : Fragment (Shows G) line) : Passage P G a a [line] := by
  obtain ⟨pieces, h⟩ := h
  refine ofPieces h.reads.readCode_eq (fun before => ?_) h.literals h.last (h.level a)
  rw [h.calm.calls_eq]
  exact fun _ hcall => absurd hcall List.not_mem_nil

/-- Lines that are passages each on its own. -/
theorem ofLines {lines : List String} (h : ∀ line ∈ lines, Passage P G a a [line]) :
    Passage P G a a lines := by
  induction lines with
  | nil => exact nil
  | cons line lines ih =>
    rw [List.forall_mem_cons] at h
    exact h.1.append (ih h.2)

theorem ofFragments {lines : List String} (h : ∀ line ∈ lines, Fragment (Shows G) line) :
    Passage P G a a lines :=
  ofLines fun line hline => ofFragment (h line hline)

theorem flatten {blocks : List (List String)} (h : ∀ block ∈ blocks, Passage P G a a block) :
    Passage P G a a blocks.flatten := by
  induction blocks with
  | nil => exact nil
  | cons block blocks ih =>
    rw [List.forall_mem_cons] at h
    exact h.1.append (ih h.2)

/-- What is known of the calls and of the glyphs may be less. -/
theorem mono {P' : Call → Prop} {G' : Nat → Prop} {lines : List String} (h : Passage P G a b lines)
    (hP : ∀ call, P call → P' call) (hG : ∀ n, G n → G' n) : Passage P' G' a b lines where
  reads line hline := by
    obtain ⟨pieces, hscan, hcalls, hglyphs⟩ := h.reads line hline
    refine ⟨pieces, hscan, fun before call hcall => hP call (hcalls before call hcall), ?_⟩
    intro text htext e he
    obtain ⟨n, hn, hshown⟩ := hglyphs text htext e he
    exact ⟨n, hn, hG n hshown⟩
  last := h.last
  leads := h.leads

/-- A passage may stand in more blocks. -/
theorem lift {lines : List String} (h : Passage P G a b lines) (k : Nat) :
    Passage P G (a + k) (b + k) lines where
  reads := h.reads
  last := h.last
  leads d := by
    have hleads := h.leads (d + k)
    rwa [Nat.add_assoc, Nat.add_comm k a, Nat.add_assoc d k b, Nat.add_comm k b] at hleads

/-- A comment is no code. -/
theorem comment {text : String} (h : text.toList.getLast? ≠ some '\\') :
    Passage P G a a ["// " ++ text] := by
  have hscan : scan ("// " ++ text) = some [] := by
    rw [scan, String.toList_append]
    rfl
  refine ofPieces hscan (fun _ _ hcall => absurd hcall List.not_mem_nil)
    (fun _ htext => absurd htext List.not_mem_nil) ?_ rfl
  rw [String.toList_append]
  exact getLast?_append_ne (by decide) h

/-- A condition opens a block. -/
theorem opening {s : String} (h : Fragment (Shows G) s) : Passage P G a (a + 1) [s ++ ") \x7b"] := by
  obtain ⟨pieces, h⟩ := h
  have hbrace : readCode ") \x7b".toList = some [.code ')', .code ' ', .code '\x7b'] := by decide
  have hpieces : scan (s ++ ") \x7b") = some (pieces ++ [.code ')', .code ' ', .code '\x7b']) := by
    rw [scan, String.toList_append, h.reads, hbrace, Option.map_some]
  refine ofPieces hpieces (fun before => ?_) ?_ ?_ ?_
  · obtain ⟨behind, hbehind⟩ := h.calm before [.code ')', .code ' ', .code '\x7b']
    rw [hbehind]
    exact fun _ hcall => absurd hcall List.not_mem_nil
  · rw [literals_append]
    exact List.forall_mem_append.2 ⟨h.literals, fun _ ht => absurd ht List.not_mem_nil⟩
  · rw [String.toList_append, List.getLast?_append_of_ne_nil _ (by decide)]
    decide
  · rw [depth_append, h.level, Option.bind_some]
    rfl

/-! ### Known lines -/

/-- Whether a known line leads from a depth to another one, makes no text call and names no glyph. -/
def isKnown (a b : Nat) (cs : List Char) : Bool :=
  cs.getLast? != some '\\' && (readCode cs).any fun pieces =>
    depth a pieces == some b && isCalm [] pieces && (literals pieces).all (glyphEscapes · == [])

-- A literal unifies with the text of its characters, which spares the kernel to decode it.
theorem known {cs : List Char} (h : isKnown a b cs = true) : Passage P G a b [String.ofList cs] := by
  rw [isKnown, Bool.and_eq_true, bne_iff_ne] at h
  obtain ⟨hlast, hread⟩ := h
  obtain ⟨pieces, hpieces, hread⟩ := (Option.any_eq_true _ _).1 hread
  simp only [Bool.and_eq_true, beq_iff_eq, List.all_eq_true] at hread
  obtain ⟨⟨hdepth, hcalm⟩, hmute⟩ := hread
  refine ofPieces ?_ (fun before => ?_) (fun text htext e he => ?_) ?_ hdepth
  · rw [scan, String.toList_ofList, hpieces]
  · rw [(calm_of_isCalm hcalm).calls_eq]
    exact fun _ hcall => absurd hcall List.not_mem_nil
  · rw [hmute text htext] at he
    exact absurd he List.not_mem_nil
  · rwa [String.toList_ofList]

/-- A known line that leads to the depth `c`, and what follows. -/
theorem cons (c : Nat) {cs : List Char} {lines : List String} (h : isKnown a c cs = true)
    (hlines : Passage P G c b lines) : Passage P G a b (String.ofList cs :: lines) :=
  (known h).append hlines

/-! ### Indentation -/

theorem scan_indent (line : String) :
    scan (Lambda.indent line) = (scan line).map ([.code ' ', .code ' '] ++ ·) := by
  have hread : Reads "  ".toList [.code ' ', .code ' '] := reads_of_closes (by decide) (by decide)
  rw [scan, Lambda.indent, String.toList_append]
  exact hread line.toList

theorem nest_indent (d : Nat) (lines : List String) :
    nest d (lines.map Lambda.indent) = nest d lines := by
  induction lines generalizing d with
  | nil => rfl
  | cons line lines ih =>
    have hdepth : ∀ pieces, depth d ([.code ' ', .code ' '] ++ pieces) = depth d pieces := by
      intro pieces
      rw [depth_append]
      rfl
    rw [List.map_cons, nest, nest, scan_indent]
    cases scan line with
    | none => rfl
    | some pieces =>
      rw [Option.map_some, Option.bind_some, Option.bind_some, hdepth]
      cases depth d pieces with
      | none => rfl
      | some e => exact ih e

theorem indent {lines : List String} (h : Passage P G a b lines) :
    Passage P G a b (lines.map Lambda.indent) where
  reads := by
    intro row hrow
    obtain ⟨line, hline, rfl⟩ := List.mem_map.1 hrow
    obtain ⟨pieces, hscan, hcalls, hglyphs⟩ := h.reads line hline
    refine ⟨[.code ' ', .code ' '] ++ pieces, ?_, fun before => ?_, ?_⟩
    · rw [scan_indent, hscan, Option.map_some]
    · exact hcalls (' ' :: ' ' :: before)
    · exact hglyphs
  last := by
    intro row hrow
    obtain ⟨line, hline, rfl⟩ := List.mem_map.1 hrow
    rw [Lambda.indent, String.toList_append]
    exact getLast?_append_ne (by decide) (h.last line hline)
  leads d := by rw [nest_indent, h.leads]

/-! ### Text calls -/

theorem calls_textCall {name : String} (h : name ∈ textCallNames) (before : List Char)
    (pieces : List Piece) :
    calls before ((name ++ "(").toList.map .code ++ pieces)
      = .text ⟨fontArgument? pieces, literals pieces⟩
        :: calls ((name ++ "(").toList.reverse ++ before) pieces := by
  simp only [textCallNames, List.mem_cons, List.not_mem_nil, or_false] at h
  rcases h with rfl | rfl | rfl <;> rfl

theorem isInertChar_of_isArgumentChar {c : Char} (h : isArgumentChar c = true) :
    isInertChar c = true := by
  rw [isArgumentChar, Bool.and_eq_true, Bool.and_eq_true] at h
  exact h.1.1

/-- An argument goes on neither with a comma nor with a parenthesis. -/
theorem notMem_of_isArgumentChar {c : Char} (h : isArgumentChar c = true) :
    c ∉ [',', '(', ')'] := by
  intro hc
  simp only [List.mem_cons, List.not_mem_nil, or_false] at hc
  rcases hc with rfl | rfl | rfl <;> cases h

/-- The arguments of a text call, as pieces. -/
def argumentPieces (x y font : String) (tail : List Piece) : List Piece :=
  x.toList.map .code ++ ([.code ',', .code ' '] ++ (y.toList.map .code
    ++ (", id(".toList.map .code ++ (font.toList.map .code ++ ("), ".toList.map .code ++ tail)))))

theorem inert_arguments {x y font tail : String} {T : List Char → Prop} {pieces : List Piece}
    (hx : ∀ c ∈ x.toList, isArgumentChar c = true) (hy : ∀ c ∈ y.toList, isArgumentChar c = true)
    (hfont : IsWordText font) (htail : Inert T tail.toList pieces) :
    Inert T (x ++ (", " ++ (y ++ (", id(" ++ (font ++ ("), " ++ tail)))))).toList
      (argumentPieces x y font pieces) := by
  simp only [String.toList_append]
  refine (Inert.chars fun c hc => isInertChar_of_isArgumentChar (hx c hc)).append ?_
  refine Inert.append (inert_of_isInert (by decide) (by decide) (by simp [literals])) ?_
  refine (Inert.chars fun c hc => isInertChar_of_isArgumentChar (hy c hc)).append ?_
  refine Inert.append (inert_of_isInert (by decide) (by decide) (by simp [literals])) ?_
  refine (Inert.chars fun c hc => isInertChar_of_isWordChar (hfont c hc)).append ?_
  exact Inert.append (inert_of_isInert (by decide) (by decide) (by simp [literals])) htail

theorem fontArgument?_argumentPieces {x y font : String}
    (hx : ∀ c ∈ x.toList, isArgumentChar c = true) (hy : ∀ c ∈ y.toList, isArgumentChar c = true)
    (hfont : IsWordText font) (tail : List Piece) :
    fontArgument? (argumentPieces x y font tail) = some font := by
  have hpieces : argumentPieces x y font tail
      = (x.toList ++ ',' :: ((' ' :: y.toList) ++ ',' :: ' ' :: ("id(".toList
          ++ (font.toList ++ ')' :: ", ".toList)))).map .code ++ tail := by
    simp [argumentPieces]
  rw [hpieces, fontArgument?_append (fun c hc => notMem_of_isArgumentChar (hx c hc)) ?_ hfont,
    String.ofList_toList]
  intro c hc
  rcases List.mem_cons.1 hc with rfl | hc
  · decide
  · exact notMem_of_isArgumentChar (hy c hc)

/-- **A text call** takes the font that stands behind its place. -/
theorem textCall {name x y font tail : String} {T : List Char → Prop} (hname : name ∈ textCallNames)
    (hx : ∀ c ∈ x.toList, isArgumentChar c = true) (hy : ∀ c ∈ y.toList, isArgumentChar c = true)
    (hfont : IsWordText font) (htail : Fragment T tail) (hT : ∀ text, T text → Shows G text)
    (hP : ∀ texts, (∀ text ∈ texts, T text) → P (.text ⟨some font, texts⟩)) :
    Passage P G a a [name ++ "(" ++ (x ++ (", " ++ (y ++ (", id(" ++ (font ++ ("), " ++ tail))))))] := by
  obtain ⟨pieces, htail⟩ := htail
  have harguments := inert_arguments hx hy hfont htail
  have hlead : Reads (name ++ "(").toList ((name ++ "(").toList.map .code)
      ∧ literals ((name ++ "(").toList.map .code) = []
      ∧ (name ++ "(").toList.getLast? ≠ some '\\' ∧ depth a ((name ++ "(").toList.map .code) = some a := by
    simp only [textCallNames, List.mem_cons, List.not_mem_nil, or_false] at hname
    rcases hname with rfl | rfl | rfl
    all_goals exact ⟨reads_of_closes (by decide) (by decide), by decide, by decide, rfl⟩
  obtain ⟨hread, hliterals, hlast, hdepth⟩ := hlead
  have hscan : scan (name ++ "(" ++ (x ++ (", " ++ (y ++ (", id(" ++ (font ++ ("), " ++ tail)))))))
      = some ((name ++ "(").toList.map .code ++ argumentPieces x y font pieces) := by
    rw [scan, String.toList_append]
    exact (hread.append harguments.reads).readCode_eq
  refine ofPieces hscan (fun before => ?_) ?_ ?_ ?_
  · rw [calls_textCall hname, harguments.calm.calls_eq,
      fontArgument?_argumentPieces hx hy hfont]
    exact List.forall_mem_singleton.2 (hP _ harguments.literals)
  · rw [literals_append, hliterals, List.nil_append]
    exact fun text htext => hT text (harguments.literals text htext)
  · rw [String.toList_append]
    exact getLast?_append_ne hlast harguments.last
  · rw [depth_append, hdepth, Option.bind_some, harguments.level]

/-! ### Calls of helpers -/

theorem isWordText_name (h : DrawHelper) : IsWordText h.name := by
  cases h <;> decide

/-- The name of a helper neither ends in the name of another one nor in that of a text call. -/
theorem clash_name (h : DrawHelper) :
    (∀ name ∈ textCallNames, Line.clash name.toList.reverse h.name.toList.reverse = true)
      ∧ ∀ k ∈ DrawHelper.all, k ≠ h →
          Line.clash k.name.toList.reverse h.name.toList.reverse = true := by
  cases h <;> decide +kernel

theorem calls_chars {cs : List Char} (h : '(' ∉ cs) (before : List Char) (pieces : List Piece) :
    calls before (cs.map .code ++ pieces) = calls (cs.reverse ++ before) pieces := by
  induction cs generalizing before with
  | nil => rfl
  | cons c cs ih =>
    rw [List.mem_cons, not_or] at h
    rw [List.map_cons, List.cons_append, calls_of_ne_paren (Ne.symm h.1), ih h.2, List.reverse_cons,
      List.append_assoc, List.singleton_append]

/-- The name of a helper and its parenthesis, in front of other pieces. -/
theorem calls_name (h : DrawHelper) (before : List Char) (pieces : List Piece) :
    calls before ((h.name ++ "(").toList.map .code ++ pieces)
      = calls (h.name.toList.reverse ++ before) (.code '(' :: pieces) := by
  have hparen : '(' ∉ h.name.toList := fun hmem => absurd (isWordText_name h _ hmem) (by decide)
  rw [String.toList_append, List.map_append, List.append_assoc, calls_chars hparen]
  rfl

theorem takeWhile_name (h : DrawHelper) (before : List Char) :
    (h.name.toList.reverse ++ before).takeWhile isWordChar
      = h.name.toList.reverse ++ before.takeWhile isWordChar :=
  List.takeWhile_append_of_pos fun c hc => isWordText_name h c (List.mem_reverse.1 hc)

/-- The name of a helper calls this helper only. -/
theorem mem_calls_name {h : DrawHelper} {before : List Char} {pieces : List Piece} {call : Call}
    (hcall : call ∈ calls before ((h.name ++ "(").toList.map .code ++ pieces)) :
    call = .helper h ∨ call ∈ calls ('(' :: (h.name.toList.reverse ++ before)) pieces := by
  obtain ⟨htexts, hothers⟩ := clash_name h
  have htext : ¬ ('(' = '('
      ∧ textCallNames.any (·.toList.reverse.isPrefixOf (h.name.toList.reverse ++ before))) := by
    rintro ⟨-, hname⟩
    obtain ⟨name, hmem, hpre⟩ := List.any_eq_true.1 hname
    exact Line.not_prefix_append_of_clash (htexts name hmem) before (List.isPrefixOf_iff_prefix.1 hpre)
  rw [calls_name, calls, textCalls, if_neg htext, helperCalls, if_pos rfl, List.map_append] at hcall
  rw [calls]
  rcases List.mem_append.1 hcall with hcall | hcall
  · exact Or.inr (List.mem_append_left _ hcall)
  rcases List.mem_append.1 hcall with hcall | hcall
  · obtain ⟨k, hk, rfl⟩ := List.mem_map.1 hcall
    obtain ⟨hk, hname⟩ := List.mem_filter.1 hk
    refine Or.inl (congrArg Call.helper ?_)
    by_contra hne
    have hsame := beq_iff_eq.1 hname
    rw [takeWhile_name] at hsame
    exact Line.not_prefix_append_of_clash (hothers k hk hne) _ ⟨[], by rw [List.append_nil, hsame]⟩
  · exact Or.inr (List.mem_append_right _ hcall)

/-- The name of a helper calls it where it is a word of its own. -/
theorem helper_mem_calls_name (h : DrawHelper) {before : List Char}
    (hbefore : before.takeWhile isWordChar = []) (pieces : List Piece) :
    .helper h ∈ calls before ((h.name ++ "(").toList.map .code ++ pieces) := by
  have hall : h ∈ DrawHelper.all := by cases h <;> decide
  rw [calls_name, helper_mem_calls, helperCalls, if_pos rfl, takeWhile_name, hbefore, List.append_nil]
  exact List.mem_append_left _ (List.mem_filter.2 ⟨hall, beq_self_eq_true _⟩)

/-- **A call of a helper**, behind other code. -/
theorem helperCall {h : DrawHelper} {lead tail : String} (hlead : Fragment (Shows G) lead)
    (htail : Fragment (Shows G) tail) (hP : P (.helper h)) :
    Passage P G a a [lead ++ (h.name ++ "(" ++ tail)] := by
  obtain ⟨ps, hlead⟩ := hlead
  obtain ⟨qs, htail⟩ := htail
  have hname : Reads (h.name ++ "(").toList ((h.name ++ "(").toList.map .code)
      ∧ literals ((h.name ++ "(").toList.map .code) = []
      ∧ (h.name ++ "(").toList.getLast? ≠ some '\\'
      ∧ depth a ((h.name ++ "(").toList.map .code) = some a := by
    cases h
    all_goals exact ⟨reads_of_closes (by decide) (by decide), by decide, by decide, rfl⟩
  obtain ⟨hread, hliterals, hlast, hdepth⟩ := hname
  have hscan : scan (lead ++ (h.name ++ "(" ++ tail))
      = some (ps ++ ((h.name ++ "(").toList.map .code ++ qs)) := by
    rw [scan, String.toList_append, String.toList_append]
    exact (hlead.reads.append (hread.append htail.reads)).readCode_eq
  refine ofPieces hscan (fun before call hcall => ?_) ?_ ?_ ?_
  · obtain ⟨between, hbetween⟩ := hlead.calm before ((h.name ++ "(").toList.map .code ++ qs)
    rw [hbetween] at hcall
    rcases mem_calls_name hcall with rfl | hcall
    · exact hP
    · rw [htail.calm.calls_eq] at hcall
      exact absurd hcall List.not_mem_nil
  · rw [literals_append, literals_append, hliterals, List.nil_append]
    exact List.forall_mem_append.2 ⟨hlead.literals, htail.literals⟩
  · rw [String.toList_append, String.toList_append]
    exact getLast?_append_ne hlead.last (getLast?_append_ne hlast htail.last)
  · rw [depth_append, hlead.level, Option.bind_some, depth_append, hdepth, Option.bind_some,
      htail.level]

end Passage

end Lambda

end DisplayLayout
