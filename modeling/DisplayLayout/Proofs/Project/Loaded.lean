import DisplayLayout.Proofs.Line.Quiet
import DisplayLayout.Proofs.Widget.Recovered
import DisplayLayout.Recovery

/-!
# Loaded projects

Every project that is read, from a document or from a generated text, is in
normal form: its places are 32-bit integers, no widget is smaller than a pixel,
no type is another name of one, and nothing that has to be named is unnamed
(`Project.IsLoaded.isNormal`). Bringing it into normal form again changes
nothing.
-/

namespace DisplayLayout

/-! ## Places of 32 bits -/

theorem Numeric.isInt32_zero : isInt32 0 = true := by decide

/-- A page whose widgets are placed by 32-bit integers. -/
def Page.IsPlaced (p : Page) : Prop := ∀ w ∈ p.widgets, w.IsPlaced

/-- A project whose widgets are placed by 32-bit integers. -/
def Project.IsPlaced (p : Project) : Prop := ∀ page ∈ p.pages, page.IsPlaced

theorem Widget.isPlaced_of_type {type : String} : Widget.IsPlaced { type } where
  x := Numeric.isInt32_zero
  y := Numeric.isInt32_zero
  width := Numeric.isInt32_zero
  height := Numeric.isInt32_zero

namespace Project

theorem isInt32_pixel (j : Json) : Numeric.isInt32 (pixel j) = true := by
  rw [pixel]
  cases Json.integer? j with
  | none => exact Numeric.isInt32_zero
  | some n => exact Numeric.isInt32_clampInt32 n

/-! ## Documents -/

theorem map_ok {α β : Type} {f : α → β} {x : Read α} {b : β} (h : x.map f = .ok b) :
    ∃ a, x = .ok a ∧ f a = b := by
  cases x with
  | error e => cases h
  | ok a =>
    cases h
    exact ⟨a, rfl, rfl⟩

theorem bind_ok {α β : Type} {f : α → Read β} {x : Read α} {b : β} (h : x >>= f = .ok b) :
    ∃ a, x = .ok a ∧ f a = .ok b := by
  cases x with
  | error e => cases h
  | ok a => exact ⟨a, rfl, h⟩

/-- A check that has been passed. -/
theorem check_ok {α : Type} {c : Prop} [Decidable c] {e : DocumentProblem} {f : PUnit → Read α}
    {a : α} (h : (if c then throw e >>= f else f ⟨⟩) = .ok a) : f ⟨⟩ = .ok a := by
  split at h
  · cases h
  · exact h

/-- What every field keeps, given what is known of the values, holds when all fields are set. -/
theorem setFields_induction {α : Type} {P : α → Prop} {Q : Json → Prop}
    {set : α → String → Json → Read α} (hset : ∀ a key j b, Q j → P a → set a key j = .ok b → P b)
    {a b : α} {fields : List (String × Json)} (hfields : ∀ p ∈ fields, Q p.2) (ha : P a)
    (h : setFields set a fields = .ok b) : P b := by
  induction fields generalizing a with
  | nil =>
    cases h
    exact ha
  | cons p fields ih =>
    obtain ⟨hp, hfields⟩ := List.forall_mem_cons.1 hfields
    rw [setFields, List.foldlM_cons] at h
    obtain ⟨a', hstep, hrest⟩ := bind_ok h
    exact ih hfields (hset a _ _ a' hp ha hstep) hrest

/-- Every item of a list that has been read comes from an item of the document. -/
theorem exists_of_mem_mapM {α : Type} {read : Json → Read α} {items : List Json} {as : List α}
    (h : items.mapM read = .ok as) : ∀ a ∈ as, ∃ j ∈ items, read j = .ok a := by
  induction items generalizing as with
  | nil =>
    cases h
    intro a ha
    exact absurd ha List.not_mem_nil
  | cons j items ih =>
    rw [List.mapM_cons] at h
    obtain ⟨b, hj, h⟩ := bind_ok h
    obtain ⟨bs, hrest, h⟩ := bind_ok h
    cases h
    intro a ha
    rcases List.mem_cons.1 ha with rfl | ha
    · exact ⟨j, List.mem_cons_self, hj⟩
    · obtain ⟨i, hi, hread⟩ := ih hrest a ha
      exact ⟨i, List.mem_cons_of_mem _ hi, hread⟩

/-- A property of documents that their parts inherit. -/
structure Inherited (Q : Json → Prop) : Prop where
  entries : ∀ {fields : List (String × Json)}, Q (.object fields) → ∀ p ∈ fields, Q p.2
  items : ∀ {items : List Json}, Q (.array items) → ∀ j ∈ items, Q j

section Read

variable {Q : Json → Prop} (hQ : Inherited Q)

include hQ

theorem Inherited.readItems {j : Json} {items : List Json} (hj : Q j) (h : readItems j = .ok items) :
    ∀ i ∈ items, Q i := by
  unfold Project.readItems at h
  split at h
  · cases h
    exact hQ.items hj
  · cases h

/-- Fields that are given as a list inherit from it. -/
theorem Inherited.zip {items : List Json} (hj : Q (.array items)) (keys : List String) :
    ∀ p ∈ keys.zip items, Q p.2 :=
  fun p hp => hQ.items hj p.2 (List.of_mem_zip hp).2

variable {W : Widget → Prop}

/-- What every field of a widget keeps holds of each widget that is read. -/
theorem forall_readWidget (hblank : W { type := "" })
    (hset : ∀ w key j w', Q j → W w → setWidgetField w key j = .ok w' → W w')
    (j : Json) (w : Widget) (hj : Q j) (h : readWidget j = .ok w) : W w := by
  unfold readWidget at h
  split at h
  · obtain ⟨w', hfields, h⟩ := bind_ok h
    have hw := setFields_induction hset (hQ.entries hj) hblank hfields
    split at h
    · cases h
      exact hw
    · cases h
  · obtain ⟨w', hfields, h⟩ := bind_ok h
    have hw := setFields_induction hset (hQ.zip hj widgetKeys) hblank hfields
    cases check_ok (check_ok h)
    exact hw
  · cases h

variable (hread : ∀ j w, Q j → readWidget j = .ok w → W w)

include hread

theorem forall_setPageField (p : Page) (key : String) (j : Json) (p' : Page) (hj : Q j)
    (hp : ∀ w ∈ p.widgets, W w) (h : setPageField p key j = .ok p') : ∀ w ∈ p'.widgets, W w := by
  unfold setPageField at h
  split at h
  case h_1 => obtain ⟨_, -, rfl⟩ := map_ok h; exact hp
  case h_2 => obtain ⟨_, -, rfl⟩ := map_ok h; exact hp
  case h_6 =>
    obtain ⟨items, hitems, h⟩ := bind_ok h
    obtain ⟨ws, hws, h⟩ := bind_ok h
    cases h
    intro w hw
    obtain ⟨i, hi, hwidget⟩ := exists_of_mem_mapM hws w hw
    exact hread i w (hQ.readItems hj hitems i hi) hwidget
  all_goals
    cases h
    exact hp

theorem forall_readPage {j : Json} {p : Page} (hj : Q j) (h : readPage j = .ok p) :
    ∀ w ∈ p.widgets, W w := by
  let P (p : Page) : Prop := ∀ w ∈ p.widgets, W w
  have hblank : P {} := fun w hw => absurd hw List.not_mem_nil
  unfold readPage at h
  split at h
  · exact setFields_induction (P := P) (forall_setPageField hQ hread) (hQ.entries hj) hblank h
  · obtain ⟨p', hset, h⟩ := bind_ok h
    have hp : P p' :=
      setFields_induction (forall_setPageField hQ hread) (hQ.zip hj pageKeys) hblank hset
    cases check_ok h
    exact hp
  · cases h

theorem forall_setField (d : Draft) (key : String) (j : Json) (d' : Draft) (hj : Q j)
    (hd : ∀ page ∈ d.project.pages, ∀ w ∈ page.widgets, W w) (h : setField d key j = .ok d') :
    ∀ page ∈ d'.project.pages, ∀ w ∈ page.widgets, W w := by
  have htheme : setField.setTheme d j = .ok d' → ∀ page ∈ d'.project.pages, ∀ w ∈ page.widgets, W w := by
    intro h
    unfold setField.setTheme at h
    split at h
    · cases h
    · obtain ⟨_, -, rfl⟩ := map_ok h
      exact hd
  unfold setField at h
  split at h
  · obtain ⟨_, -, rfl⟩ := map_ok h
    exact hd
  · exact htheme h
  · exact htheme h
  · obtain ⟨items, hitems, h⟩ := bind_ok h
    obtain ⟨pages, hpages, h⟩ := bind_ok h
    cases h
    intro page hpage
    obtain ⟨i, hi, hread'⟩ := exists_of_mem_mapM hpages page hpage
    exact forall_readPage hQ hread (hQ.readItems hj hitems i hi) hread'
  · cases h
    exact hd

/-- **What holds of each widget that is read holds of those of a document.** -/
theorem forall_decode {document : Json} {p : Project} (hdocument : Q document)
    (h : decode document = .ok p) : ∀ page ∈ p.pages, ∀ w ∈ page.widgets, W w := by
  let P (d : Draft) : Prop := ∀ page ∈ d.project.pages, ∀ w ∈ page.widgets, W w
  have hblank : P {} := fun page hpage => absurd hpage List.not_mem_nil
  unfold decode at h
  split at h
  · split at h
    · next d hset =>
      cases h
      exact setFields_induction (P := P) (forall_setField hQ hread) (hQ.entries hdocument) hblank hset
    · cases h
  · cases h

end Read

theorem isPlaced_setWidgetField (w : Widget) (key : String) (j : Json) (w' : Widget)
    (hw : w.IsPlaced) (h : setWidgetField w key j = .ok w') : w'.IsPlaced := by
  unfold setWidgetField at h
  split at h
  case h_1 => obtain ⟨_, -, rfl⟩ := map_ok h; exact ⟨hw.x, hw.y, hw.width, hw.height⟩
  case h_2 => obtain ⟨_, -, rfl⟩ := map_ok h; exact ⟨hw.x, hw.y, hw.width, hw.height⟩
  case h_3 => cases h; exact ⟨isInt32_pixel j, hw.y, hw.width, hw.height⟩
  case h_4 => cases h; exact ⟨hw.x, isInt32_pixel j, hw.width, hw.height⟩
  case h_5 => cases h; exact ⟨hw.x, hw.y, isInt32_pixel j, hw.height⟩
  case h_6 => cases h; exact ⟨hw.x, hw.y, hw.width, isInt32_pixel j⟩
  case h_14 => obtain ⟨_, -, rfl⟩ := map_ok h; exact ⟨hw.x, hw.y, hw.width, hw.height⟩
  all_goals
    cases h
    exact ⟨hw.x, hw.y, hw.width, hw.height⟩

theorem isPlaced_decode {document : Json} {p : Project} (h : decode document = .ok p) :
    p.IsPlaced := by
  have hany : Inherited fun _ => True := ⟨fun _ _ _ => trivial, fun _ _ _ => trivial⟩
  have hread := forall_readWidget hany Widget.isPlaced_of_type
    fun w key j w' _ => isPlaced_setWidgetField w key j w'
  exact forall_decode hany hread trivial h

end Project

/-! ## Generated texts -/

namespace DrawCall

/-- A draw call whose arguments are 32-bit integers, as far as a shape takes them over. -/
def IsPlaced : DrawCall → Prop
  | rectangle x y w h _ =>
    Numeric.isInt32 x = true ∧ Numeric.isInt32 y = true ∧ Numeric.isInt32 w = true
      ∧ Numeric.isInt32 h = true
  | circle _ _ _ _ => True
  | line x1 y1 x2 y2 =>
    Numeric.isInt32 x1 = true ∧ Numeric.isInt32 y1 = true ∧ Numeric.isInt32 x2 = true
      ∧ Numeric.isInt32 y2 = true

theorem isPlaced_shape {call : DrawCall} (h : call.IsPlaced) (id : String) :
    (call.shape id).IsPlaced := by
  have hone : Numeric.isInt32 1 = true := by decide
  cases call with
  | rectangle x y w h' filled => exact ⟨h.1, h.2.1, h.2.2.1, h.2.2.2⟩
  | circle cx cy r filled =>
    exact ⟨Numeric.isInt32_clampInt32 _, Numeric.isInt32_clampInt32 _,
      Numeric.isInt32_clampInt32 _, Numeric.isInt32_clampInt32 _⟩
  | line x1 y1 x2 y2 =>
    have hmin : ∀ {m n : Int}, Numeric.isInt32 m = true → Numeric.isInt32 n = true →
        Numeric.isInt32 (min m n) = true := by
      intro m n hm hn
      rw [Int.min_def]
      split <;> assumption
    refine ⟨hmin h.1 h.2.2.1, hmin h.2.1 h.2.2.2, ?_, ?_⟩
    · show Numeric.isInt32 (if _ then _ else _) = true
      split
      · exact hone
      · exact Numeric.isInt32_clampInt32 _
    · show Numeric.isInt32 (if _ then _ else _) = true
      split
      · exact Numeric.isInt32_clampInt32 _
      · exact hone

end DrawCall

namespace Line

theorem isInt32_of_mem_integers? {n : Nat} {args : List (List Char)} {ns : List Int}
    (h : integers? n args = some ns) : ∀ m ∈ ns, Numeric.isInt32 m = true := by
  rw [integers?] at h
  split at h
  · exact absurd h (by simp)
  generalize args.take n = args at h
  induction args generalizing ns with
  | nil =>
    cases h
    exact fun m hm => absurd hm List.not_mem_nil
  | cons a args ih =>
    simp only [List.mapM_cons, Option.bind_eq_bind, Option.bind_eq_some_iff, Option.pure_def,
      Option.some.injEq] at h
    obtain ⟨m, hm, ms, hms, rfl⟩ := h
    intro k hk
    rcases List.mem_cons.1 hk with rfl | hk
    · exact (Option.filter_eq_some_iff.1 hm).2
    · exact ih hms k hk

theorem isPlaced_drawCall? {name : String} {args : List (List Char)} {call : DrawCall}
    (h : drawCall? name args = some call) : call.IsPlaced := by
  have hrectangle : ∀ filled, drawCall?.rectangle args filled = some call → call.IsPlaced := by
    intro filled h
    unfold drawCall?.rectangle at h
    split at h
    · next hints =>
      have hall := isInt32_of_mem_integers? hints
      cases h
      exact ⟨hall _ (by simp), hall _ (by simp), hall _ (by simp), hall _ (by simp)⟩
    · exact absurd h (by simp)
  have hcircle : ∀ filled, drawCall?.circle args filled = some call → call.IsPlaced := by
    intro filled h
    unfold drawCall?.circle at h
    split at h
    · cases h
      trivial
    · exact absurd h (by simp)
  unfold drawCall? at h
  split at h
  · exact hrectangle false h
  · exact hrectangle true h
  · exact hcircle false h
  · exact hcircle true h
  · split at h
    · next hints =>
      have hall := isInt32_of_mem_integers? hints
      cases h
      exact ⟨hall _ (by simp), hall _ (by simp), hall _ (by simp), hall _ (by simp)⟩
    · exact absurd h (by simp)
  · exact absurd h (by simp)

theorem isPlaced_of_classify {line : String} {call : DrawCall} (h : classify line = .draw call) :
    call.IsPlaced := by
  have hdraw := draw?_of_classify h
  unfold draw? at hdraw
  simp only [Option.bind_eq_bind, Option.bind_eq_some_iff] at hdraw
  obtain ⟨_, -, _, -, _, -, hcall⟩ := hdraw
  exact isPlaced_drawCall? hcall

end Line

/-- The sizes of all types have 32 bits. -/
theorem Kind.isInt32_size [Qr.Encoder] (k : Kind) :
    Numeric.isInt32 k.behaviour.size.1 = true ∧ Numeric.isInt32 k.behaviour.size.2 = true := by
  cases k <;> exact ⟨rfl, rfl⟩

namespace Widget

theorem isInt32_markerNumber? (m : Marker) (key : String) {fallback : Int}
    (h : Numeric.isInt32 fallback = true) :
    Numeric.isInt32 ((markerNumber? m key).getD fallback) = true := by
  rw [markerNumber?]
  cases (m.get? key).bind Json.integerOfText? with
  | none => exact h
  | some n => exact Numeric.isInt32_clampInt32 n

theorem isPlaced_readProps {m : Marker} {t : PropertyTable} {w : Widget} (h : w.IsPlaced) :
    (View.readProps m t w).IsPlaced := by
  induction t generalizing w with
  | nil => exact h
  | cons p t ih =>
    refine ih ?_
    dsimp only
    split
    · exact ⟨h.x, h.y, h.width, h.height⟩
    · exact h

theorem isPlaced_readMarker {m : Marker} {w : Widget} (h : w.IsPlaced) :
    (Condition.readMarker m w).IsPlaced := by
  unfold Condition.readMarker
  split <;> exact ⟨h.x, h.y, h.width, h.height⟩

theorem isPlaced_ofMarker? [Qr.Encoder] {m : Marker} {w : Widget} (h : ofMarker? m = some w) :
    w.IsPlaced := by
  unfold ofMarker? at h
  simp only [Option.bind_eq_bind, Option.bind_eq_some_iff, Option.pure_def, Option.some.injEq] at h
  obtain ⟨b, hb, rfl⟩ := h
  obtain ⟨k, -, rfl⟩ := exists_kind_of_behaviour? hb
  refine isPlaced_readMarker (isPlaced_readProps ⟨?_, ?_, ?_, ?_⟩)
  · exact isInt32_markerNumber? m "x" Numeric.isInt32_zero
  · exact isInt32_markerNumber? m "y" Numeric.isInt32_zero
  · exact isInt32_markerNumber? m "w" k.isInt32_size.1
  · exact isInt32_markerNumber? m "h" k.isInt32_size.2

end Widget

namespace Recovery

/-- The widgets that have been recovered so far are placed by 32-bit integers. -/
def IsPlaced (r : Recovery) : Prop := ∀ q ∈ r.pages, q.2.IsPlaced

theorem isPlaced_blankPage (index : Nat) : (blankPage index).IsPlaced :=
  fun _ hw => absurd hw List.not_mem_nil

theorem isPlaced_changePage {f : Page → Page} (hf : ∀ p, p.IsPlaced → (f p).IsPlaced) (index : Nat)
    {pages : List (Nat × Page)} (h : ∀ q ∈ pages, q.2.IsPlaced) :
    ∀ q ∈ changePage index f pages, q.2.IsPlaced := by
  have hnew : (f (blankPage index)).IsPlaced := hf _ (isPlaced_blankPage index)
  induction pages with
  | nil =>
    intro q hq
    cases List.mem_singleton.1 hq
    exact hnew
  | cons p pages ih =>
    obtain ⟨i, page⟩ := p
    have hpage := h (i, page) List.mem_cons_self
    have hrest := fun q hq => h q (List.mem_cons_of_mem _ hq)
    rw [changePage]
    split
    · intro q hq
      rcases List.mem_cons.1 hq with rfl | hq
      · exact hnew
      · exact h q hq
    · split
      · intro q hq
        rcases List.mem_cons.1 hq with rfl | hq
        · exact hf _ hpage
        · exact hrest q hq
      · intro q hq
        rcases List.mem_cons.1 hq with rfl | hq
        · exact hpage
        · exact ih hrest q hq

theorem isPlaced_change {r : Recovery} (h : r.IsPlaced) {f : Page → Page}
    (hf : ∀ p, p.IsPlaced → (f p).IsPlaced) : (r.change f).IsPlaced :=
  isPlaced_changePage hf r.current h

theorem isPlaced_addWidget {r : Recovery} (h : r.IsPlaced) {w : Widget} (hw : w.IsPlaced) :
    (r.addWidget w).IsPlaced := by
  refine isPlaced_change h fun p hp v hv => ?_
  rcases List.mem_append.1 hv with hv | hv
  · exact hp v hv
  · cases List.mem_singleton.1 hv
    exact hw

theorem isPlaced_noteFact (key value : String) {p : Page} (h : p.IsPlaced) :
    (noteFact key value p).IsPlaced := by
  have hwidgets : (noteFact key value p).widgets = p.widgets := by
    unfold noteFact
    split <;> rfl
  rw [Page.IsPlaced, hwidgets]
  exact h

/-- One line keeps what has been recovered placed. -/
theorem isPlaced_step [Qr.Encoder] {r : Recovery} (h : r.IsPlaced) (line : String) :
    (r.step (Line.classify line)).IsPlaced := by
  cases hline : Line.classify line with
  | pageHeader index =>
    have hturned : ({ r with current := index, inWidget := false } : Recovery).IsPlaced := h
    exact isPlaced_change hturned fun _ hp => hp
  | pageFact key value =>
    have hnoted := isPlaced_change h fun _ hp => isPlaced_noteFact key value hp
    exact hnoted
  | marker m =>
    rw [step]
    split
    · next w hw => exact isPlaced_addWidget h (Widget.isPlaced_ofMarker? hw)
    · exact h
  | draw call =>
    rw [step]
    split
    · exact h
    · exact isPlaced_addWidget h (DrawCall.isPlaced_shape (Line.isPlaced_of_classify hline) _)
  | other => exact h

theorem isPlaced_ofText [Qr.Encoder] (text : String) : (ofText text).IsPlaced := by
  rw [ofText, Line.classifyAll]
  generalize Text.lines text = lines
  have hrun : ∀ r : Recovery, r.IsPlaced → ((lines.map Line.classify).foldl step r).IsPlaced := by
    induction lines with
    | nil => exact fun r hr => hr
    | cons line lines ih => exact fun r hr => ih _ (isPlaced_step hr line)
  exact hrun {} fun q hq => absurd hq List.not_mem_nil

theorem isPlaced_draft {r : Recovery} (h : r.IsPlaced) : r.draft.IsPlaced := by
  intro page hpage
  obtain ⟨q, hq, rfl⟩ := List.mem_map.1 hpage
  exact h q hq

end Recovery

/-! ## Normal form -/

/-- A widget in normal form. -/
structure Widget.IsNormal (w : Widget) : Prop extends w.IsPlaced where
  id : w.id ≠ ""
  type : Alias.ofName? w.type = none
  width_pos : 1 ≤ w.width
  height_pos : 1 ≤ w.height

/-- A page in normal form. -/
structure Page.IsNormal (p : Page) : Prop where
  id : p.id ≠ ""
  name : p.name ≠ ""
  widgets : ∀ w ∈ p.widgets, w.IsNormal

/-- A project in normal form. -/
def Project.IsNormal (p : Project) : Prop := ∀ page ∈ p.pages, page.IsNormal

/-- A project that has been read from a document, or from any text. -/
def Project.IsLoaded [Qr.Encoder] (p : Project) : Prop :=
  (∃ document loaded, Project.ofJson document = .ok loaded ∧ loaded.project = p)
    ∨ ∃ text loaded, Project.ofAnyText text = .ok loaded ∧ loaded.project = p

namespace Widget

theorem isPlaced_resolveAlias {w : Widget} (h : w.IsPlaced) : w.resolveAlias.IsPlaced := by
  rw [resolveAlias]
  split
  · exact h
  · exact ⟨h.x, h.y, h.width, h.height⟩

/-- No name is left of a type that has been resolved. -/
theorem ofName?_resolveAlias (w : Widget) : Alias.ofName? w.resolveAlias.type = none := by
  rw [resolveAlias]
  split
  · assumption
  · next a _ => exact a.kind.alias_tag

theorem isInt32_max_one {n : Int} (h : Numeric.isInt32 n = true) :
    Numeric.isInt32 (max 1 n) = true := by
  rw [Numeric.isInt32_iff] at h ⊢
  omega

theorem isNormal_normalize {w : Widget} (h : w.IsPlaced) (page index : Nat) :
    (w.normalize page index).IsNormal := by
  have hplaced := isPlaced_resolveAlias h
  refine ⟨⟨hplaced.x, hplaced.y, isInt32_max_one hplaced.width, isInt32_max_one hplaced.height⟩,
    ?_, w.ofName?_resolveAlias, Int.le_max_left _ _, Int.le_max_left _ _⟩
  show (if w.resolveAlias.id.isEmpty then positionId page index else w.resolveAlias.id) ≠ ""
  split
  · simp [positionId]
  · next hid => simpa using hid

theorem normalize_of_isNormal {w : Widget} (h : w.IsNormal) (page index : Nat) :
    w.normalize page index = w := by
  have hresolve : w.resolveAlias = w := by rw [resolveAlias, h.type]
  have hid : w.id.isEmpty = false := by simpa using h.id
  rw [normalize, hresolve, hid, Int.max_eq_right h.width_pos, Int.max_eq_right h.height_pos]
  rfl

end Widget

namespace Page

theorem isNormal_normalize {p : Page} (h : p.IsPlaced) (index : Nat) :
    (p.normalize index).IsNormal := by
  refine ⟨?_, ?_, ?_⟩
  · show (if p.id.isEmpty then _ else p.id) ≠ ""
    split
    · simp
    · next hid => simpa using hid
  · show (if p.name.isEmpty then _ else p.name) ≠ ""
    split
    · simp
    · next hname => simpa using hname
  · intro w hw
    obtain ⟨i, hi, rfl⟩ := List.mem_mapIdx.1 hw
    exact Widget.isNormal_normalize (h _ (List.getElem_mem hi)) index i

theorem normalize_of_isNormal {p : Page} (h : p.IsNormal) (index : Nat) : p.normalize index = p := by
  have hid : p.id.isEmpty = false := by simpa using h.id
  have hname : p.name.isEmpty = false := by simpa using h.name
  have hwidgets : (p.widgets.mapIdx fun i w => w.normalize index i) = p.widgets := by
    refine List.ext_getElem (by simp) fun i hi _ => ?_
    rw [List.getElem_mapIdx]
    exact Widget.normalize_of_isNormal (h.widgets _ (List.getElem_mem _)) index i
  rw [normalize, hid, hname, hwidgets]
  rfl

end Page

namespace Project

theorem isNormal_normalize {p : Project} (h : p.IsPlaced) : p.normalize.IsNormal := by
  intro page hpage
  obtain ⟨i, hi, rfl⟩ := List.mem_mapIdx.1 hpage
  exact Page.isNormal_normalize (h _ (List.getElem_mem hi)) i

theorem normalize_of_isNormal {p : Project} (h : p.IsNormal) : p.normalize = p := by
  have hpages : (p.pages.mapIdx fun i page => page.normalize i) = p.pages := by
    refine List.ext_getElem (by simp) fun i hi _ => ?_
    rw [List.getElem_mapIdx]
    exact Page.normalize_of_isNormal (h _ (List.getElem_mem _)) i
  rw [normalize, hpages]

theorem isNormal_ofJson {document : Json} {l : Loaded} (h : ofJson document = .ok l) :
    l.project.IsNormal := by
  unfold ofJson at h
  cases hdecode : decode document with
  | error e =>
    rw [hdecode] at h
    cases h
  | ok p =>
    rw [hdecode] at h
    cases h
    exact isNormal_normalize (isPlaced_decode hdecode)

theorem isNormal_ofAnyText [Qr.Encoder] {text : String} {l : Loaded} (h : ofAnyText text = .ok l) :
    l.project.IsNormal := by
  unfold ofAnyText at h
  split at h
  · unfold ofText at h
    cases hdocument : readDocument text with
    | error e =>
      rw [hdocument] at h
      cases h
    | ok j =>
      rw [hdocument] at h
      exact isNormal_ofJson h
  · unfold ofGenerated at h
    dsimp only at h
    split at h
    · cases h
    · cases h
      exact isNormal_normalize (Recovery.isPlaced_draft (Recovery.isPlaced_ofText text))

/-- **Every project that has been read is in normal form.** -/
theorem IsLoaded.isNormal [Qr.Encoder] {p : Project} (h : p.IsLoaded) : p.IsNormal := by
  rcases h with ⟨document, l, hl, rfl⟩ | ⟨text, l, hl, rfl⟩
  · exact isNormal_ofJson hl
  · exact isNormal_ofAnyText hl

end Project

end DisplayLayout
