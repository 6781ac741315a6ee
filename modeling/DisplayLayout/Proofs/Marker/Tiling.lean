import DisplayLayout.Proofs.Marker.Codec
import Mathlib.Data.List.Chain
import Mathlib.Data.String.Basic

/-!
# The tokens of a body

What the lexer does with every text, told apart from how it does it. Each kind
of token has a rule (`Matches`), and each token is as long as any rule can make
it (`munched_scan`), so that neither two blank runs nor two words nor a word and
the colon that would make it a key stand side by side (`apart_of_munched`). A
quote that no rule can start from covers what is left of its line. Together the
tokens tile the body by bytes. Main statement: `tiles_lex`.
-/

namespace DisplayLayout.Marker

/-! ## Rules -/

/-- What may stand between two quotes: neither quotes nor line breaks, and a backslash only with
the character that it escapes. -/
inductive QuotedBody : List Char → Prop where
  | nil : QuotedBody []
  | plain {c : Char} {cs : List Char} (hbreak : isBreak c = false) (hquote : c ≠ '"')
      (hslash : c ≠ '\\') (hrest : QuotedBody cs) : QuotedBody (c :: cs)
  | escaped {c : Char} {cs : List Char} (hbreak : isBreak c = false) (hrest : QuotedBody cs) :
      QuotedBody ('\\' :: c :: cs)

/-- The texts of each kind of token. An error is what no rule takes. -/
inductive Matches : TokenKind → List Char → Prop where
  | whitespace {cs : List Char} (hne : cs ≠ []) (hall : ∀ c ∈ cs, isGap c = true) :
      Matches .whitespace cs
  | key {word : List Char} (hword : Text.isWord word = true) : Matches .key (word ++ [':'])
  | quoted {body : List Char} (hbody : QuotedBody body) : Matches .quoted ('"' :: (body ++ ['"']))
  | word {cs : List Char} (hne : cs ≠ []) (hall : ∀ c ∈ cs, isWordPart c = true) : Matches .word cs
  | colon : Matches .colon [':']

/-- Characters up to the end of their line, with what follows them. -/
structure EndsLine (line rest : List Char) : Prop where
  unbroken : ∀ c ∈ line, isBreak c = false
  ended : ∀ c ∈ rest.head?, isBreak c = true

theorem EndsLine.cons {c : Char} {line rest : List Char} (h : EndsLine line rest)
    (hbreak : isBreak c = false) : EndsLine (c :: line) rest :=
  ⟨List.forall_mem_cons.2 ⟨hbreak, h.unbroken⟩, h.ended⟩

/-- What is true of a token with a text behind it. Its own rule takes it and no rule takes more,
or it is an error: no rule takes anything, and it covers a line from a quote to its end. -/
structure Munched (t : Token) (rest : List Char) : Prop where
  formed : t.kind ≠ .error → Matches t.kind t.lexeme
  longest : ∀ kind p, Matches kind p → p <+: t.lexeme ++ rest →
    t.kind ≠ .error ∧ p.length ≤ t.lexeme.length
  opened : t.kind = .error → t.lexeme.head? = some '"' ∧ EndsLine t.lexeme rest

/-! ## Quotes -/

/-- A complete text in quotes is read up to the quote that closes it. -/
theorem scanQuoted_of_quotedBody {body : List Char} (h : QuotedBody body) (rest : List Char) :
    scanQuoted (body ++ '"' :: rest) = (body ++ ['"'], true, rest) := by
  induction h with
  | nil =>
    show scanQuoted ('"' :: rest) = _
    rw [scanQuoted.eq_def]
    rfl
  | @plain c cs hbreak hquote hslash _ ih =>
    show scanQuoted (c :: (cs ++ '"' :: rest)) = _
    rw [scanQuoted.eq_def]
    simp [hquote, hbreak, hslash, ih]
  | @escaped c cs hbreak _ ih =>
    show scanQuoted ('\\' :: c :: (cs ++ '"' :: rest)) = _
    have hslash : isBreak '\\' = false := by decide
    rw [scanQuoted.eq_def]
    simp [hslash, hbreak, ih]

/-- What stands behind an opening quote: a complete text in quotes, or the rest of a line. -/
theorem scanQuoted_cases (cs : List Char) :
    (∃ body rest, QuotedBody body ∧ scanQuoted cs = (body ++ ['"'], true, rest))
      ∨ ∃ line rest, EndsLine line rest ∧ scanQuoted cs = (line, false, rest) := by
  fun_induction scanQuoted cs with
  | case1 => exact Or.inr ⟨[], [], ⟨by simp, by simp⟩, rfl⟩
  | case2 rest => exact Or.inl ⟨[], rest, .nil, rfl⟩
  | case3 c rest _ hbreak => exact Or.inr ⟨[], c :: rest, ⟨by simp, by simpa using hbreak⟩, rfl⟩
  | case4 => exact Or.inr ⟨['\\'], [], ⟨List.forall_mem_singleton.2 (by decide), by simp⟩, rfl⟩
  | case5 d rest hbreak =>
    exact Or.inr ⟨['\\'], d :: rest,
      ⟨List.forall_mem_singleton.2 (by decide), by simpa using hbreak⟩, rfl⟩
  | case6 d rest hbreak lexeme closed more hscan _ _ ih =>
    rw [Bool.not_eq_true] at hbreak
    rw [hscan] at ih
    rcases ih with ⟨body, rest, hbody, h⟩ | ⟨line, rest, hline, h⟩
    · cases h
      exact Or.inl ⟨'\\' :: d :: body, more, .escaped hbreak hbody, rfl⟩
    · cases h
      exact Or.inr ⟨'\\' :: d :: lexeme, more, (hline.cons hbreak).cons (by decide), rfl⟩
  | case7 c rest hquote hbreak hslash lexeme closed more hscan ih =>
    rw [Bool.not_eq_true] at hbreak
    rw [hscan] at ih
    rcases ih with ⟨body, rest, hbody, h⟩ | ⟨line, rest, hline, h⟩
    · cases h
      exact Or.inl ⟨c :: body, more, .plain hbreak hquote hslash hbody, rfl⟩
    · cases h
      exact Or.inr ⟨c :: lexeme, more, hline.cons hbreak, rfl⟩

/-! ## One token -/

/-- Whether a kind of token can begin with a character. -/
def opens (kind : TokenKind) (c : Char) : Bool :=
  match kind with
  | .whitespace => isGap c
  | .key => Text.isWordChar c
  | .quoted => c == '"'
  | .word => isWordPart c
  | .colon => c == ':'
  | .error => false

theorem Matches.opens {kind : TokenKind} {p rest : List Char} {c : Char} (h : Matches kind p)
    (hp : p <+: c :: rest) : opens kind c = true := by
  have hhead : ∀ {P : Char → Prop} {cs more : List Char}, cs ≠ [] → (∀ d ∈ cs, P d) →
      cs ++ more <+: c :: rest → P c := by
    intro P cs more hne hall hcs
    obtain ⟨d, ds, rfl⟩ := List.exists_cons_of_ne_nil hne
    obtain ⟨rfl, -⟩ := List.cons_prefix_cons.1 hcs
    exact hall d List.mem_cons_self
  cases h with
  | whitespace hne hall => exact hhead hne hall (by rwa [List.append_nil])
  | key hword =>
    obtain ⟨hne, hall⟩ := Text.isWord_iff.1 hword
    exact hhead hne hall hp
  | quoted hbody => exact beq_iff_eq.2 (List.cons_prefix_cons.1 hp).1.symm
  | word hne hall => exact hhead hne hall (by rwa [List.append_nil])
  | colon => exact beq_iff_eq.2 (List.cons_prefix_cons.1 hp).1.symm

theorem Matches.ne_error {kind : TokenKind} {p : List Char} (h : Matches kind p) :
    kind ≠ .error := by
  rintro rfl
  cases h

/-- A token that its own rule takes, and that no rule makes longer. -/
theorem Munched.of_matches {kind : TokenKind} {lexeme rest : List Char}
    (hformed : Matches kind lexeme) (hlongest : ∀ k p, Matches k p → p <+: lexeme ++ rest → p.length ≤ lexeme.length) :
    Munched ⟨kind, lexeme⟩ rest where
  formed := fun _ => hformed
  longest := fun k p hp hpre => ⟨hformed.ne_error, hlongest k p hp hpre⟩
  opened := fun herror => absurd herror hformed.ne_error

/-- A run of one class is at most as long as the longest one. -/
theorem length_le_takeWhile {f : Char → Bool} {p text : List Char} (hall : ∀ c ∈ p, f c = true)
    (hp : p <+: text) : p.length ≤ (text.takeWhile f).length := by
  obtain ⟨rest, rfl⟩ := hp
  rw [List.takeWhile_append_of_pos hall, List.length_append]
  omega

theorem takeWhile_cons_ne_nil {f : Char → Bool} {c : Char} (h : f c = true) (rest : List Char) :
    (c :: rest).takeWhile f ≠ [] := by
  rw [List.takeWhile_cons_of_pos h]
  exact List.cons_ne_nil _ _

theorem munched_gap {c : Char} (h : isGap c = true) (rest : List Char) :
    Munched (scan c rest).1 (scan c rest).2 := by
  have hscan : scan c rest
      = (⟨.whitespace, (c :: rest).takeWhile isGap⟩, (c :: rest).dropWhile isGap) := by
    rw [scan, if_pos h, List.takeWhile_cons_of_pos h, List.dropWhile_cons_of_pos h]
  rw [hscan]
  apply Munched.of_matches
  · exact .whitespace (takeWhile_cons_ne_nil h rest) fun d hd => List.mem_takeWhile_imp hd
  intro kind p hp hpre
  rw [List.takeWhile_append_dropWhile] at hpre
  have hopens := hp.opens hpre
  cases hp with
  | whitespace _ hall => exact length_le_takeWhile hall hpre
  | key =>
    rw [not_isGap_of_isWordPart (isWordPart_of_isWordChar hopens)] at h
    exact absurd h Bool.false_ne_true
  | quoted =>
    obtain rfl : c = '"' := beq_iff_eq.1 hopens
    exact absurd h (by decide)
  | word =>
    rw [not_isGap_of_isWordPart hopens] at h
    exact absurd h Bool.false_ne_true
  | colon =>
    obtain rfl : c = ':' := beq_iff_eq.1 hopens
    exact absurd h (by decide)

theorem munched_colon (rest : List Char) : Munched (scan ':' rest).1 (scan ':' rest).2 := by
  have hscan : scan ':' rest = (⟨.colon, [':']⟩, rest) := by
    rw [scan, if_neg (by decide), if_neg (by decide), if_pos rfl]
  rw [hscan]
  apply Munched.of_matches
  · exact .colon
  intro kind p hp hpre
  have hopens := hp.opens hpre
  cases hp with
  | whitespace => exact absurd hopens (by decide)
  | key => exact absurd hopens (by decide)
  | quoted => exact absurd hopens (by decide)
  | word => exact absurd hopens (by decide)
  | colon => exact Nat.le_refl 1

/-- A text in quotes is the only text of a rule that begins with a quote. -/
theorem exists_of_opens_quote {kind : TokenKind} {p rest : List Char} (hp : Matches kind p)
    (hpre : p <+: '"' :: rest) :
    ∃ body more, p = '"' :: (body ++ ['"']) ∧ scanQuoted rest = (body ++ ['"'], true, more) := by
  have hopens := hp.opens hpre
  cases hp with
  | whitespace => exact absurd hopens (by decide)
  | key => exact absurd hopens (by decide)
  | word => exact absurd hopens (by decide)
  | colon => exact absurd hopens (by decide)
  | @quoted body hbody =>
    obtain ⟨-, more, rfl⟩ := List.cons_prefix_cons.1 hpre
    refine ⟨body, more, rfl, ?_⟩
    rw [List.append_assoc]
    exact scanQuoted_of_quotedBody hbody more

theorem munched_quote (rest : List Char) : Munched (scan '"' rest).1 (scan '"' rest).2 := by
  have happ := scan_append '"' rest
  have hscan : scan '"' rest
      = (⟨if (scanQuoted rest).2.1 then .quoted else .error, '"' :: (scanQuoted rest).1⟩,
          (scanQuoted rest).2.2) := by
    rw [scan, if_neg (by decide), if_pos rfl]
  rw [hscan] at happ ⊢
  rcases scanQuoted_cases rest with ⟨body, more, hbody, h⟩ | ⟨line, more, hline, h⟩
  · rw [h] at happ ⊢
    apply Munched.of_matches
    · exact .quoted hbody
    intro kind p hp hpre
    rw [happ] at hpre
    obtain ⟨body', more', rfl, h'⟩ := exists_of_opens_quote hp hpre
    rw [h, Prod.mk.injEq] at h'
    rw [h'.1]
  · rw [h] at happ ⊢
    refine ⟨fun hne => absurd rfl hne, ?_, fun _ => ⟨rfl, hline.cons (by decide)⟩⟩
    intro kind p hp hpre
    rw [happ] at hpre
    -- A complete text in quotes would have been found.
    obtain ⟨body, more', -, h'⟩ := exists_of_opens_quote hp hpre
    rw [h] at h'
    exact absurd (congrArg (·.2.1) h') Bool.false_ne_true

/-- A text that begins with a key is cut behind the word of the key. -/
theorem span_of_key {word text : List Char} (hword : Text.isWord word = true)
    (hpre : word ++ [':'] <+: text) :
    text.takeWhile isWordPart = word ∧ ∃ more, text.dropWhile isWordPart = ':' :: more := by
  obtain ⟨more, rfl⟩ := hpre
  have hpart : ∀ c ∈ word, isWordPart c = true := fun c hc =>
    isWordPart_of_isWordChar ((Text.isWord_iff.1 hword).2 c hc)
  rw [List.append_assoc, List.singleton_append]
  exact ⟨Text.takeWhile_append_cons hpart (by decide) more, more,
    Text.dropWhile_append_cons hpart (by decide) more⟩

/-- Where the text begins with a character of a word, only words and keys can be read. -/
theorem word_or_key {kind : TokenKind} {p rest : List Char} {c : Char} (h : isWordPart c = true)
    (hp : Matches kind p) (hpre : p <+: c :: rest) :
    (∀ d ∈ p, isWordPart d = true) ∨ ∃ word, p = word ++ [':'] ∧ Text.isWord word = true := by
  have hopens := hp.opens hpre
  cases hp with
  | whitespace =>
    have hgap : isGap c = true := hopens
    rw [not_isGap_of_isWordPart h] at hgap
    exact absurd hgap Bool.false_ne_true
  | key hword => exact Or.inr ⟨_, rfl, hword⟩
  | quoted => exact absurd (beq_iff_eq.1 hopens) (ne_quote_of_isWordPart h)
  | word _ hall => exact Or.inl hall
  | colon => exact absurd (beq_iff_eq.1 hopens) (ne_colon_of_isWordPart h)

/-- A run of characters of words is read as a key if it is a plain word before a colon, and as a
word otherwise. -/
theorem scan_word_cases {c : Char} (h : isWordPart c = true) (rest : List Char) :
    let run := (c :: rest).takeWhile isWordPart
    let after := (c :: rest).dropWhile isWordPart
    (∃ more, after = ':' :: more ∧ Text.isWord run = true
        ∧ scan c rest = (⟨.key, run ++ [':']⟩, more))
      ∨ ((∀ more, after = ':' :: more → Text.isWord run = false)
        ∧ scan c rest = (⟨.word, run⟩, after)) := by
  intro run after
  have hrun : run = c :: rest.takeWhile isWordPart := List.takeWhile_cons_of_pos h
  have hafter : after = rest.dropWhile isWordPart := List.dropWhile_cons_of_pos h
  rw [scan, if_neg (by simp [not_isGap_of_isWordPart h]), if_neg (ne_quote_of_isWordPart h),
    if_neg (ne_colon_of_isWordPart h), ← hrun, ← hafter]
  have hword : Text.isWord run = run.all Text.isWordChar := by
    rw [hrun]
    rfl
  clear_value run after
  dsimp only
  split
  · next more =>
    by_cases hall : run.all Text.isWordChar = true
    · rw [if_pos hall]
      exact Or.inl ⟨more, rfl, hword.trans hall, rfl⟩
    · rw [if_neg hall]
      exact Or.inr ⟨fun _ _ => by rw [hword, eq_false_of_ne_true hall], rfl⟩
  · next hcolon => exact Or.inr ⟨fun more hmore => absurd hmore (hcolon more), rfl⟩

theorem munched_word {c : Char} (h : isWordPart c = true) (rest : List Char) :
    Munched (scan c rest).1 (scan c rest).2 := by
  have hne := takeWhile_cons_ne_nil h rest
  have happ := scan_append c rest
  rcases scan_word_cases h rest with ⟨more, hafter, hword, hscan⟩ | ⟨hnokey, hscan⟩
  · rw [hscan] at happ ⊢
    apply Munched.of_matches
    · exact .key hword
    intro kind p hp hpre
    rw [happ] at hpre
    rw [List.length_append]
    rcases word_or_key h hp hpre with hall | ⟨word, rfl, hplain⟩
    · have := length_le_takeWhile hall hpre
      omega
    · rw [(span_of_key hplain hpre).1, List.length_append]
  · rw [hscan] at happ ⊢
    apply Munched.of_matches
    · exact .word hne fun d hd => List.mem_takeWhile_imp hd
    intro kind p hp hpre
    rw [happ] at hpre
    rcases word_or_key h hp hpre with hall | ⟨word, rfl, hplain⟩
    · exact length_le_takeWhile hall hpre
    · -- The run would be the word of that key.
      obtain ⟨hrun, more, hmore⟩ := span_of_key hplain hpre
      rw [← hrun, hnokey more hmore] at hplain
      exact absurd hplain Bool.false_ne_true

/-- **Every token is as long as a rule can make it.** -/
theorem munched_scan (c : Char) (rest : List Char) : Munched (scan c rest).1 (scan c rest).2 := by
  by_cases hgap : isGap c = true
  · exact munched_gap hgap rest
  by_cases hquote : c = '"'
  · subst hquote
    exact munched_quote rest
  by_cases hcolon : c = ':'
  · subst hcolon
    exact munched_colon rest
  · exact munched_word (by simp [isWordPart, hgap, hquote, hcolon]) rest

/-! ## Runs of tokens -/

theorem text_tokens {cs : List Char} {front back : List Token} {t : Token}
    (h : tokens cs = front ++ t :: back) :
    cs = front.flatMap Token.lexeme ++ (t.lexeme ++ back.flatMap Token.lexeme) := by
  rw [← flatMap_lexeme_tokens cs, h, List.flatMap_append, List.flatMap_cons]

/-- Every token of a body is as long as it can be, before the rest of the body. -/
theorem munched_of_tokens {cs : List Char} {front back : List Token} {t : Token}
    (h : tokens cs = front ++ t :: back) : Munched t (back.flatMap Token.lexeme) := by
  fun_induction tokens cs generalizing front with
  | case1 => exact absurd h (by simp)
  | case2 c rest ih =>
    cases front with
    | nil =>
      obtain ⟨rfl, rfl⟩ := List.cons.inj h
      rw [flatMap_lexeme_tokens]
      exact munched_scan c rest
    | cons u front => exact ih (List.cons.inj h).2

/-- What two tokens side by side cannot be: two blank runs, two words, or a plain word and the colon
that would make it a key. -/
structure Apart (t u : Token) : Prop where
  gaps : ¬ (t.kind = .whitespace ∧ u.kind = .whitespace)
  words : ¬ (t.kind = .word ∧ u.kind = .word)
  keys : ¬ (t.kind = .word ∧ Text.isWord t.lexeme = true ∧ u.kind = .colon)

theorem Matches.all_gap {cs : List Char} (h : Matches .whitespace cs) :
    ∀ c ∈ cs, isGap c = true := by
  cases h with
  | whitespace _ hall => exact hall

theorem Matches.all_wordPart {cs : List Char} (h : Matches .word cs) :
    ∀ c ∈ cs, isWordPart c = true := by
  cases h with
  | word _ hall => exact hall

theorem Matches.eq_colon {cs : List Char} (h : Matches .colon cs) : cs = [':'] := by
  cases h
  rfl

theorem Munched.matches_kind {t : Token} {rest : List Char} (h : Munched t rest) {kind : TokenKind}
    (hkind : t.kind = kind) (hne : kind ≠ .error) : Matches kind t.lexeme := by
  subst hkind
  exact h.formed hne

/-- **Tokens that are as long as they can be do not go on in each other.** -/
theorem apart_of_munched {t u : Token} {rest : List Char} (ht : Munched t (u.lexeme ++ rest))
    (hu : Munched u rest) (hne : u.lexeme ≠ []) : Apart t u := by
  -- No rule takes both tokens together.
  have hboth : ∀ kind, ¬ Matches kind (t.lexeme ++ u.lexeme) := by
    intro kind hmatches
    have hpre : t.lexeme ++ u.lexeme <+: t.lexeme ++ (u.lexeme ++ rest) := by
      rw [← List.append_assoc]
      exact List.prefix_append _ _
    have hlength := (ht.longest kind _ hmatches hpre).2
    have hpos := List.length_pos_iff.2 hne
    rw [List.length_append] at hlength
    omega
  have hnonempty : t.lexeme ++ u.lexeme ≠ [] := List.append_ne_nil_of_right_ne_nil _ hne
  constructor
  · rintro ⟨htk, huk⟩
    have htall := (ht.matches_kind htk (by decide)).all_gap
    have huall := (hu.matches_kind huk (by decide)).all_gap
    exact hboth .whitespace (.whitespace hnonempty (List.forall_mem_append.2 ⟨htall, huall⟩))
  · rintro ⟨htk, huk⟩
    have htall := (ht.matches_kind htk (by decide)).all_wordPart
    have huall := (hu.matches_kind huk (by decide)).all_wordPart
    exact hboth .word (.word hnonempty (List.forall_mem_append.2 ⟨htall, huall⟩))
  · rintro ⟨-, hplain, huk⟩
    apply hboth .key
    rw [(hu.matches_kind huk (by decide)).eq_colon]
    exact .key hplain

theorem isChain_tokens (cs : List Char) : (tokens cs).IsChain Apart := by
  fun_induction tokens cs with
  | case1 => exact .nil
  | case2 c rest ih =>
    cases hnext : tokens (scan c rest).2 with
    | nil => exact .singleton _
    | cons u back =>
      rw [hnext] at ih
      have hfirst : tokens (scan c rest).2 = [] ++ u :: back := hnext
      have hmore := text_tokens hfirst
      have ht := munched_scan c rest
      rw [hmore] at ht
      refine .cons_cons (apart_of_munched ht ?_ ?_) ih
      · exact munched_of_tokens hfirst
      · exact lexeme_ne_nil (hnext ▸ List.mem_cons_self)

/-! ## Bytes -/

theorem byteLength_eq (cs : List Char) : byteLength cs = String.utf8Len cs := by
  have hfrom : ∀ n, cs.foldl (fun n c => n + c.utf8Size) n = n + String.utf8Len cs := by
    induction cs with
    | nil => exact fun _ => rfl
    | cons c cs ih =>
      intro n
      rw [List.foldl_cons, ih, String.utf8Len_cons]
      omega
  rw [byteLength, hfrom, Nat.zero_add]

theorem byteLength_append (cs ds : List Char) :
    byteLength (cs ++ ds) = byteLength cs + byteLength ds := by
  rw [byteLength_eq, byteLength_eq, byteLength_eq, String.utf8Len_append]

/-- The part of a body that a token covers, cut out by its bytes. -/
def Placed.slice (t : Placed) (body : String) : String :=
  String.Pos.Raw.extract body ⟨t.start⟩ ⟨t.stop⟩

/-- Tokens of at least one byte each, from a byte to another one and without a gap. -/
def Contiguous (start stop : Nat) : List Placed → Prop
  | [] => start = stop
  | t :: rest => t.start = start ∧ t.start < t.stop ∧ Contiguous t.stop stop rest

theorem map_token_place (start : Nat) (ts : List Token) :
    (place start ts).map Placed.token = ts := by
  induction ts generalizing start with
  | nil => rfl
  | cons t ts ih =>
    rw [place, List.map_cons, ih]

theorem map_token_lex (body : String) : (lex body).map Placed.token = tokens body.toList :=
  map_token_place 0 _

theorem contiguous_place {ts : List Token} (hne : ∀ t ∈ ts, t.lexeme ≠ []) (start : Nat) :
    Contiguous start (start + byteLength (ts.flatMap Token.lexeme)) (place start ts) := by
  induction ts generalizing start with
  | nil => rfl
  | cons t ts ih =>
    obtain ⟨ht, hts⟩ := List.forall_mem_cons.1 hne
    have hpos : byteLength t.lexeme ≠ 0 := by
      rw [byteLength_eq, Ne, String.utf8Len_eq_zero]
      exact ht
    rw [List.flatMap_cons, byteLength_append, ← Nat.add_assoc]
    refine ⟨rfl, ?_, ih hts _⟩
    show start < start + byteLength t.lexeme
    omega

theorem slice_place {before : List Char} {ts : List Token} {t : Placed}
    (ht : t ∈ place (byteLength before) ts) :
    t.slice (String.ofList (before ++ ts.flatMap Token.lexeme)) = String.ofList t.token.lexeme := by
  induction ts generalizing before with
  | nil => exact absurd ht List.not_mem_nil
  | cons u ts ih =>
    rw [List.flatMap_cons, ← List.append_assoc]
    rcases List.mem_cons.1 ht with rfl | ht
    · rw [Placed.slice, byteLength_eq, byteLength_eq]
      exact String.extract_of_valid before u.lexeme _
    · refine ih ?_
      rwa [byteLength_append]

/-! ## The lexer -/

/-- Tokens that tile a body: they cover its bytes one after the other, each is as long as a rule can
make it, and no two side by side go on in each other. -/
structure Tiles (body : String) (ts : List Placed) : Prop where
  contiguous : Contiguous 0 body.utf8ByteSize ts
  slice : ∀ t ∈ ts, t.slice body = String.ofList t.token.lexeme
  join : String.join (ts.map (·.slice body)) = body
  munched : ∀ front t back, ts = front ++ t :: back →
    Munched t.token (back.flatMap (·.token.lexeme))
  apart : ts.IsChain fun t u => Apart t.token u.token

/-- **The tokens of every body tile it.** -/
theorem tiles_lex (body : String) : Tiles body (lex body) := by
  have htext := flatMap_lexeme_tokens body.toList
  have hslice : ∀ t ∈ lex body, t.slice body = String.ofList t.token.lexeme := by
    intro t ht
    have hplace : t ∈ place (byteLength []) (tokens body.toList) := ht
    have h := slice_place hplace
    rwa [List.nil_append, htext, String.ofList_toList] at h
  refine ⟨?_, hslice, ?_, ?_, ?_⟩
  · have hne : ∀ t ∈ tokens body.toList, t.lexeme ≠ [] := fun t ht => lexeme_ne_nil ht
    have hcontiguous := contiguous_place hne 0
    rwa [htext, Nat.zero_add, byteLength_eq, String.utf8Len_toList] at hcontiguous
  · have hlexemes : (lex body).flatMap (fun t => (t.slice body).toList)
        = (lex body).flatMap fun t => t.token.lexeme := by
      refine List.flatMap_congr fun t ht => ?_
      rw [hslice t ht, String.toList_ofList]
    rw [← String.toList_inj, String.toList_join, List.flatMap_map, hlexemes,
      ← List.flatMap_map Placed.token Token.lexeme, map_token_lex, htext]
  · intro front t back h
    have htokens := map_token_lex body
    rw [h, List.map_append, List.map_cons] at htokens
    have hmunched := munched_of_tokens htokens.symm
    rwa [List.flatMap_map] at hmunched
  · have hchain := isChain_tokens body.toList
    rwa [← map_token_lex, List.isChain_map] at hchain

end DisplayLayout.Marker
