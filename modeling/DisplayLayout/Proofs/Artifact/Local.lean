import DisplayLayout.Proofs.Artifact.Balanced
import DisplayLayout.Proofs.Artifact.PageTree

/-!
# What a page shows is what its widgets show

The content of a page is read off an artifact by its rows alone: the rows of the
branch of the page behind the filling of its background, the rows below the key
of its widgets, or the payload of its call. It is the content of its widgets, one
behind the other, and that of a widget is what the artifact of a project with no
other widget shows (`Project.content_compile`).
-/

namespace DisplayLayout

open Text

/-! ## Reading rows -/

/-- The rows behind the last one that is a mark. -/
def behindLast (mark : String) (rows : List String) : List String :=
  (rows.reverse.takeWhile (· != mark)).reverse

/-- The rows behind the first one that a condition holds of. -/
def behindFirst (p : String → Bool) (rows : List String) : List String :=
  (rows.dropWhile fun row => !p row).drop 1

/-- A row without its first characters. -/
def outdent (n : Nat) (row : String) : String := String.ofList (row.toList.drop n)

namespace Artifact

/-- The rows of the text of an artifact. -/
def rows (a : Artifact) : List String := ((splitOn '\n' a.text.toList).dropLast).map String.ofList

/-- The rows of the branch of a page in the display lambda. -/
def branchRows (a : Artifact) (index : Nat) : List String :=
  let lambda := (behindLast "    lambda: |-" a.rows).map (outdent 6)
  let branch := behindFirst (· == "if (currentPage == " ++ toString index ++ ") \x7b") lambda
  (branch.takeWhile (· != "\x7d")).map (outdent 2)

/-- The rows of a page in the tree of widgets. -/
def pageRows (a : Artifact) (index : Nat) : List String :=
  let pages := behindLast "  pages:" a.rows
  let page := behindFirst (· == "    - id: " ++ PageTree.pageId index) pages
  page.takeWhile fun row => !hasLead "    - id: " row

/-- The payload of the call of a page. -/
def payload (a : Artifact) (index : Nat) : List Json :=
  let call := a.document.items?.bind (·[index]?)
  (((call.bind (Json.get? "data")).bind (Json.get? "payload")).bind Json.items?).getD []

/-- What an artifact shows on a page: rows as texts, or elements of a payload. -/
def content (a : Artifact) (index : Nat) : List Json :=
  match a.mode with
  | .direct => (behindFirst (hasLead "it.fill(") (a.branchRows index)).map .string
  | .retained => (behindFirst (· == "      widgets:") (a.pageRows index)).map .string
  | .protocolA => a.payload index
  | .protocolB => a.payload index

end Artifact

/-- How the contents of widgets stand behind each other. -/
def Mode.joined (mode : Mode) (contents : List (List Json)) : List Json :=
  match mode with
  | .direct => (contents.intersperse [.string DisplayLambda.rule]).flatten
  | _ => contents.flatten

/-- What becomes of a widget of a type in a mode. -/
def Behaviour.shown (b : Behaviour) (mode : Mode) (s : Surface) (v : View) : List Json :=
  match mode with
  | .direct => (DisplayLambda.block v (b.direct v s).lines).map .string
  | .retained =>
    (PageTree.nodeLines ⟨v.marker, (b.retained v s).node.getD (PageTree.placeholder v)⟩).map .string
  | .protocolA => ServiceCall.elements (b.element .a v s)
  | .protocolB => ServiceCall.elements (b.element .b v s)

/-- A project with a single widget. -/
def Widget.alone (w : Widget) (dark : Bool) : Project := { dark, pages := [{ widgets := [w] }] }

/-! ### Laws of the readers -/

theorem behindLast_append {mark : String} {rows : List String} (h : mark ∉ rows) (front : List String) :
    behindLast mark (front ++ mark :: rows) = rows := by
  rw [behindLast, List.reverse_append, List.reverse_cons, List.append_assoc, takeWhile_append_stop,
    List.reverse_reverse]
  · intro row hrow
    rw [bne_iff_ne]
    rintro rfl
    exact h (List.mem_reverse.1 hrow)
  · rintro row ⟨⟩
    exact bne_self_eq_false _

theorem behindFirst_append {p : String → Bool} {front : List String} {row : String}
    (hfront : ∀ r ∈ front, p r = false) (hrow : p row = true) (rest : List String) :
    behindFirst p (front ++ row :: rest) = rest := by
  rw [behindFirst, List.dropWhile_append_of_pos fun r hr => by simp [hfront r hr],
    List.dropWhile_cons_of_neg (by simp [hrow]), List.drop_one, List.tail_cons]

theorem behindFirst_eq_nil {p : String → Bool} {rows : List String} (h : ∀ r ∈ rows, p r = false) :
    behindFirst p rows = [] := by
  have hall : ∀ r ∈ rows, (!p r) = true := fun r hr => by simp [h r hr]
  rw [behindFirst, List.dropWhile_eq_nil_iff.2 hall]
  rfl

theorem map_outdent {blanks : String} {n : Nat} (h : blanks.toList.length = n) (rows : List String) :
    (rows.map (blanks ++ ·)).map (outdent n) = rows := by
  rw [List.map_map]
  refine List.map_id'' (fun row => ?_) rows
  rw [Function.comp_apply, outdent, String.toList_append, List.drop_left' h, String.ofList_toList]

/-- Rows of one line each at the end of a text are rows of an artifact. -/
theorem Artifact.exists_rows_eq {a : Artifact} {front rows : List String}
    (h : a.text = unlines (front ++ rows)) (hrows : ∀ row ∈ rows, OneLine row) :
    ∃ before, a.rows = before ++ rows := by
  have hpieces : (rows.flatMap fun row => splitOn '\n' row.toList) = rows.map String.toList := by
    rw [List.flatMap_congr fun row hrow => splitOn_eq_singleton (hrows row hrow)]
    exact List.flatMap_pure_eq_map _ _
  have hsplit := splitOn_unlines_append (front ++ rows) []
  rw [List.append_nil, ← h, List.flatMap_append, hpieces] at hsplit
  refine ⟨(front.flatMap fun row => splitOn '\n' row.toList).map String.ofList, ?_⟩
  have hlast : splitOn '\n' [] = [[]] := rfl
  rw [Artifact.rows, hsplit, hlast, List.dropLast_concat, List.map_append, List.map_map]
  congr 1
  exact List.map_id'' (fun row => String.ofList_toList) rows

/-- **The rows behind the head of the last section** are found in the text of an artifact, whatever
stands before them. -/
theorem Artifact.behindLast_rows {a : Artifact} {front : List Section} {last : Section}
    {head body : List String} {mark : String} (htext : a.text = Section.renderAll (front ++ [last]))
    (hne : front ≠ []) (hlast : last.render = head ++ mark :: body) (hmark : OneLine mark)
    (hbody : ∀ row ∈ body, OneLine row) (hnot : mark ∉ body) : behindLast mark a.rows = body := by
  have hrows : a.text = unlines ((Section.rows front ++ "" :: head) ++ mark :: body) := by
    rw [htext, Section.renderAll_eq (List.concat_ne_nil _ _), Section.rows_concat hne, hlast,
      List.append_assoc, List.cons_append]
  obtain ⟨before, hbefore⟩ := exists_rows_eq hrows (List.forall_mem_cons.2 ⟨hmark, hbody⟩)
  rw [hbefore, behindLast_append hnot]

/-! ## Pages one behind the other -/

/-- The rows of pages, split at one of them. -/
theorem exists_flatten_mapIdx_eq {β : Type} (f : Nat → β → List String) {pages : List β} {i : Nat}
    {page : β} (h : pages[i]? = some page) :
    ∃ front back, (pages.mapIdx f).flatten = front ++ (f i page ++ back)
      ∧ (∀ row ∈ front, ∃ j < i, ∃ q ∈ pages, row ∈ f j q)
      ∧ (back = [] ∨ ∃ q ∈ pages, ∃ rest, back = f (i + 1) q ++ rest) := by
  obtain ⟨hi, rfl⟩ := List.getElem?_eq_some_iff.1 h
  have hlength : i < (pages.mapIdx f).length := by rwa [List.length_mapIdx]
  have hsplit : pages.mapIdx f = (pages.mapIdx f).take i
      ++ f i pages[i] :: (pages.mapIdx f).drop (i + 1) := by
    conv_lhs => rw [← List.take_append_drop i (pages.mapIdx f), List.drop_eq_getElem_cons hlength]
    rw [List.getElem_mapIdx]
  refine ⟨((pages.mapIdx f).take i).flatten, ((pages.mapIdx f).drop (i + 1)).flatten, ?_, ?_, ?_⟩
  · conv_lhs => rw [hsplit]
    rw [List.flatten_append, List.flatten_cons]
  · intro row hrow
    obtain ⟨rows, hrows, hrow⟩ := List.mem_flatten.1 hrow
    obtain ⟨j, hj, rfl⟩ := List.mem_take_iff_getElem.1 hrows
    rw [List.length_mapIdx, Nat.lt_min] at hj
    rw [List.getElem_mapIdx] at hrow
    exact ⟨j, hj.1, pages[j], List.getElem_mem hj.2, hrow⟩
  · by_cases hnext : i + 1 < pages.length
    · right
      have hlength : i + 1 < (pages.mapIdx f).length := by rwa [List.length_mapIdx]
      refine ⟨pages[i + 1], List.getElem_mem hnext, ((pages.mapIdx f).drop (i + 2)).flatten, ?_⟩
      rw [List.drop_eq_getElem_cons hlength, List.flatten_cons, List.getElem_mapIdx]
    · left
      rw [List.drop_eq_nil_of_le (by rw [List.length_mapIdx]; omega)]
      rfl

/-! ## The branch of a page -/

namespace DisplayLambda

/-- The row that opens the branch of a page. -/
def opening (index : Nat) : String := "if (currentPage == " ++ toString index ++ ") \x7b"

theorem opening_inj {i j : Nat} (h : opening i = opening j) : i = j := by
  unfold opening at h
  rw [String.append_left_inj, String.append_right_inj] at h
  rw [← Numeric.ofDigits_toString i, h, Numeric.ofDigits_toString]

theorem hasLead_opening (index : Nat) : hasLead "if (currentPage == " (opening index) = true := by
  unfold opening
  rw [String.append_assoc]
  exact hasLead_append _ _

theorem head?_append {c : Char} {lead : String} (h : lead.toList.head? = some c) (rest : String) :
    (lead ++ rest).toList.head? = some c := by
  rw [String.toList_append, List.head?_append, h, Option.some_or]

theorem head?_ofList {c : Char} {cs : List Char} (h : cs.head? = some c) :
    (String.ofList cs).toList.head? = some c := by
  rwa [String.toList_ofList]

theorem head?_opening (index : Nat) : (opening index).toList.head? = some 'i' := by
  unfold opening
  rw [String.append_assoc]
  exact head?_append rfl _

theorem head?_insideRoundedRect : ∀ row ∈ DrawHelper.insideRoundedRect, row.toList.head? = some ' ' := by
  simp only [DrawHelper.insideRoundedRect, List.forall_mem_cons]
  and_intros
  all_goals first
    | exact head?_ofList rfl
    | exact List.forall_mem_nil _

/-- What the definition of a helper begins with. -/
def definitionLead (h : DrawHelper) : String := "auto " ++ h.name ++ " = [&]("

theorem exists_definition (h : DrawHelper) :
    ∃ parameters, h.definition = (definitionLead h ++ parameters) :: h.definition.tail := by
  cases h with
  | ditherRect => exact ⟨"int x0, int y0, int w, int h) \x7b", rfl⟩
  | ditherRoundedRect => exact ⟨"int x0, int y0, int w, int h, int r, int band) \x7b", rfl⟩
  | ditherCircle => exact ⟨"int cx, int cy, int r, int band) \x7b", rfl⟩
  | filledRoundedRect => exact ⟨"int x0, int y0, int w, int h, int r, Color c) \x7b", rfl⟩
  | roundedRectBorder => exact ⟨"int x0, int y0, int w, int h, int r, int t, Color c) \x7b", rfl⟩

/-- A definition consists of its head, rows further in, and an end. -/
theorem head?_tail_definition (h : DrawHelper) :
    ∀ row ∈ h.definition.tail, row.toList.head? = some ' ' ∨ row.toList.head? = some '\x7d' := by
  cases h
  all_goals
    simp only [DrawHelper.definition, List.cons_append, List.tail_cons, List.forall_mem_append,
      List.forall_mem_cons]
    and_intros
  all_goals first
    | exact fun row hrow => Or.inl (head?_insideRoundedRect row hrow)
    | exact Or.inl (head?_ofList rfl)
    | exact Or.inr (head?_ofList rfl)
    | exact List.forall_mem_nil _

theorem head?_definition (h : DrawHelper) : ∀ row ∈ h.definition, row.toList.head? ≠ some 'i' := by
  obtain ⟨parameters, hrows⟩ := exists_definition h
  have hlead : (definitionLead h ++ parameters).toList.head? = some 'a' := by
    unfold definitionLead
    simp only [String.append_assoc]
    exact head?_append rfl _
  rw [hrows, List.forall_mem_cons, hlead]
  refine ⟨by decide, fun row hrow => ?_⟩
  rcases head?_tail_definition h row hrow with hhead | hhead <;> rw [hhead] <;> decide

/-- What stands before the branches opens none. -/
theorem front_ne (g : Generation) (index : Nat) :
    ∀ row ∈ Color.constantLines ++ g.prelude ++ ["int currentPage = id(display_page);"],
      row ≠ opening index := by
  have hne : ∀ row : String, row.toList.head? ≠ some 'i' → row ≠ opening index := by
    rintro row hrow rfl
    exact hrow (head?_opening index)
  rw [List.forall_mem_append, List.forall_mem_append, List.forall_mem_singleton]
  refine ⟨⟨fun row hrow => ?_, fun row hrow => ?_⟩, fun h => ?_⟩
  · obtain ⟨constant, -, rfl⟩ := List.mem_map.1 hrow
    refine hne _ ?_
    simp only [String.append_assoc]
    rw [head?_append (rfl : "const auto ".toList.head? = some 'c')]
    decide
  · obtain ⟨helper, -, hrow⟩ := List.mem_flatMap.1 hrow
    exact hne row (head?_definition helper row hrow)
  · have hlead := hasLead_opening index
    rw [← h] at hlead
    exact absurd hlead (by decide)

/-- The rows inside the branch of a page: the head, and the blocks. -/
def innerLines (p : VisitedPage (List String)) : List String :=
  (p.page.facts.map (fun fact => "// " ++ Page.factText fact)
    ++ ["it.fill(" ++ p.surface.background ++ ");"]) ++ (p.contents.intersperse [rule]).flatten

theorem pageLines_eq (index : Nat) (p : VisitedPage (List String)) :
    pageLines index p = opening index :: ((innerLines p).map Lambda.indent ++ ["\x7d"]) := rfl

/-- A row inside a branch starts with a blank. -/
theorem indent_ne {row other : String} (h : other.toList.head? ≠ some ' ') : Lambda.indent row ≠ other := by
  rintro rfl
  refine h ?_
  rw [Lambda.indent, String.toList_append]
  rfl

/-- The branch of another page has not the row that opens this one. -/
theorem opening_notMem {i j : Nat} (hij : j ≠ i) (p : VisitedPage (List String)) :
    ∀ row ∈ pageLines j p, row ≠ opening i := by
  intro row hrow
  rw [pageLines_eq, List.mem_cons, List.mem_append, List.mem_singleton] at hrow
  rcases hrow with rfl | hrow | rfl
  · exact fun h => hij (opening_inj h)
  · obtain ⟨inner, -, rfl⟩ := List.mem_map.1 hrow
    refine indent_ne ?_
    rw [head?_opening]
    decide
  · intro h
    have hhead := head?_opening i
    rw [← h] at hhead
    exact absurd hhead (by decide)

variable [Qr.Encoder] {p : Project} {config : Config}

/-- The blocks of a page hold no line feed. -/
theorem oneLine_contents {visited : VisitedPage (List String)} (h : visited ∈ p.visit form config) :
    ∀ rows ∈ visited.contents, ∀ row ∈ rows, OneLine row := by
  intro rows hrows
  obtain ⟨w, k, s, htype, rfl⟩ := exists_of_mem_contents h hrows
  exact oneLine_block htype (k.quiet_direct _ s)

/-- **The display lambda is found in the text.** -/
theorem behindLast_compile (hmode : config.mode = .direct) :
    (behindLast "    lambda: |-" (p.compile config).artifact.rows).map (outdent 6)
      = lines (registries config (p.visit form config)) (p.visit form config) := by
  let lambda := lines (registries config (p.visit form config)) (p.visit form config)
  have honeLine : ∀ line ∈ lambda, OneLine line :=
    oneLine_lines fun visited hvisited => oneLine_contents hvisited
  have hrender : (displaySection config.device lambda).render
      = ["display:", "  - id: " ++ config.device.displayId]
        ++ "    lambda: |-" :: lambda.map ("      " ++ ·) := rfl
  rw [Artifact.behindLast_rows (text_compile hmode) (List.concat_ne_nil _ _) hrender (by decide),
    map_outdent (by decide)]
  · intro row hrow
    obtain ⟨line, hline, rfl⟩ := List.mem_map.1 hrow
    exact oneLine_append.2 ⟨by decide, honeLine line hline⟩
  · intro hmem
    obtain ⟨line, -, hline⟩ := List.mem_map.1 hmem
    have hchars := congrArg (fun s : String => s.toList[4]?) hline
    rw [String.toList_append] at hchars
    exact absurd hchars (by simp)

/-- **The branch of a page is found in the display lambda,** and behind the filling of the background
stand the blocks of its widgets. -/
theorem behindFirst_branchRows (hmode : config.mode = .direct) {i : Nat} {page : Page}
    (hpage : p.pages[i]? = some page) :
    behindFirst (hasLead "it.fill(") ((p.compile config).artifact.branchRows i)
      = ((VisitedPage.ofPage form config p.dark page).contents.intersperse [rule]).flatten := by
  let visited := VisitedPage.ofPage form config p.dark page
  have hvisited : (p.visit form config)[i]? = some visited := by
    rw [Project.visit, List.getElem?_map, hpage, Option.map_some]
  obtain ⟨front, back, hflatten, hfront, -⟩ := exists_flatten_mapIdx_eq pageLines hvisited
  have hbranch : behindFirst (· == opening i)
      (lines (registries config (p.visit form config)) (p.visit form config))
        = (innerLines visited).map Lambda.indent ++ "\x7d" :: back := by
    rw [lines, hflatten, pageLines_eq, List.cons_append, ← List.append_assoc, behindFirst_append]
    · rw [List.append_assoc, List.singleton_append]
    · rw [List.forall_mem_append]
      refine ⟨fun row hrow => ?_, fun row hrow => ?_⟩
      · exact beq_eq_false_iff_ne.2 (front_ne _ i row hrow)
      · obtain ⟨j, hj, q, -, hrow⟩ := hfront row hrow
        exact beq_eq_false_iff_ne.2 (opening_notMem (Nat.ne_of_lt hj) q row hrow)
    · exact beq_self_eq_true _
  have hinner : (p.compile config).artifact.branchRows i = innerLines visited := by
    rw [Artifact.branchRows, behindLast_compile hmode]
    show ((behindFirst (· == opening i) _).takeWhile _).map _ = _
    rw [hbranch, takeWhile_append_stop]
    -- Every row inside the branch is indented, so the first brace at the margin ends it.
    · exact map_outdent (by decide) _
    · intro row hrow
      obtain ⟨line, -, rfl⟩ := List.mem_map.1 hrow
      exact bne_iff_ne.2 (indent_ne (by decide))
    · rintro row ⟨⟩
      exact bne_self_eq_false _
  rw [hinner, innerLines, List.append_assoc, List.singleton_append, behindFirst_append]
  · intro row hrow
    obtain ⟨fact, -, rfl⟩ := List.mem_map.1 hrow
    rw [hasLead, String.toList_append]
    rfl
  · rw [String.append_assoc]
    exact hasLead_append _ _

end DisplayLambda

/-! ## Where the rows of a tree stand -/

namespace Yaml

/-- A row that stands at an indentation or further in, or is blank. -/
def Row.StandsAt (indent : Nat) (r : Row) : Prop := indent ≤ r.indent ∨ r.text = ""

theorem Row.StandsAt.mono {indent inner : Nat} {r : Row} (h : r.StandsAt inner) (hle : indent ≤ inner) :
    r.StandsAt indent := h.imp_left hle.trans

theorem standsAt_codeRows (indent : Nat) (code : String) :
    ∀ r ∈ codeRows indent code, r.StandsAt indent := by
  intro r hr
  obtain ⟨line, -, rfl⟩ := List.mem_map.1 hr
  split
  · exact Or.inr rfl
  · exact Or.inl (Nat.le_refl _)

theorem standsAt_singleton (indent : Nat) (body : String) :
    ∀ r ∈ [(⟨indent, body⟩ : Row)], r.StandsAt indent :=
  List.forall_mem_singleton.2 (Or.inl (Nat.le_refl _))

/-- A row, and rows further in. -/
theorem standsAt_cons {indent : Nat} (body : String) {rows : List Row}
    (h : ∀ r ∈ rows, r.StandsAt (indent + 2)) : ∀ r ∈ (⟨indent, body⟩ : Row) :: rows, r.StandsAt indent := by
  rw [List.forall_mem_cons]
  exact ⟨Or.inl (Nat.le_refl _), fun r hr => (h r hr).mono (Nat.le_add_right _ _)⟩

theorem standsAt_dashFirst {indent : Nat} {rows : List Row} (h : ∀ r ∈ rows, r.StandsAt (indent + 2)) :
    ∀ r ∈ dashFirst indent rows, r.StandsAt indent := by
  cases rows with
  | nil => exact List.forall_mem_nil _
  | cons r rows => exact standsAt_cons _ (List.forall_mem_cons.1 h).2

mutual

theorem standsAt_entryRows (indent : Nat) (key : String) : (j : Json) →
    ∀ r ∈ entryRows indent key j, r.StandsAt indent
  | .string s => by
    rw [entryRows]
    split
    · exact standsAt_cons _ (standsAt_codeRows _ _)
    · exact standsAt_singleton _ _
  | .object entries => by
    rw [entryRows]
    split
    · exact standsAt_singleton _ _
    · exact standsAt_cons _ (standsAt_entriesRows (indent + 2) entries)
  | .array items => by
    rw [entryRows]
    split
    · exact standsAt_singleton _ _
    · exact standsAt_cons _ (standsAt_itemsRows (indent + 2) items)
  | .null => by
    simp only [entryRows]
    exact standsAt_singleton _ _
  | .bool b => by
    simp only [entryRows]
    exact standsAt_singleton _ _
  | .number n => by
    simp only [entryRows]
    exact standsAt_singleton _ _

theorem standsAt_entriesRows (indent : Nat) : (entries : List (String × Json)) →
    ∀ r ∈ entriesRows indent entries, r.StandsAt indent
  | [] => List.forall_mem_nil _
  | (key, j) :: rest => by
    rw [entriesRows, List.forall_mem_append]
    exact ⟨standsAt_entryRows indent key j, standsAt_entriesRows indent rest⟩

/-- **No row of an item stands further out than the item,** but for blank ones. -/
theorem standsAt_itemRows (indent : Nat) : (j : Json) → ∀ r ∈ itemRows indent j, r.StandsAt indent
  | .string s => by
    rw [itemRows]
    split
    · exact standsAt_cons _ (standsAt_codeRows _ _)
    · exact standsAt_singleton _ _
  | .object entries => by
    rw [itemRows]
    split
    · exact standsAt_singleton _ _
    · exact standsAt_dashFirst (standsAt_entriesRows (indent + 2) entries)
  | .array items => by
    rw [itemRows]
    split
    · exact standsAt_singleton _ _
    · exact standsAt_dashFirst (standsAt_itemsRows (indent + 2) items)
  | .null => by
    simp only [itemRows]
    exact standsAt_singleton _ _
  | .bool b => by
    simp only [itemRows]
    exact standsAt_singleton _ _
  | .number n => by
    simp only [itemRows]
    exact standsAt_singleton _ _

theorem standsAt_itemsRows (indent : Nat) : (items : List Json) →
    ∀ r ∈ itemsRows indent items, r.StandsAt indent
  | [] => List.forall_mem_nil _
  | j :: rest => by
    rw [itemsRows, List.forall_mem_append]
    exact ⟨standsAt_itemRows indent j, standsAt_itemsRows indent rest⟩

end

end Yaml

/-! ## The item of a page -/

namespace PageTree

open Yaml

/-- A row that stands further in than the header of a page, or is blank. -/
def isInside (row : String) : Bool := row.isEmpty || hasLead "     " row

/-- A row inside a page does not start as a row that stands further out. -/
theorem not_prefix_of_isInside {row lead : String} (h : isInside row = true) (hlead : 5 ≤ lead.toList.length)
    (hother : ¬"     ".toList <+: lead.toList) : ¬lead.toList <+: row.toList := by
  intro hpre
  rw [isInside, Bool.or_eq_true] at h
  rcases h with hempty | hinside
  · rw [String.isEmpty_iff.1 hempty] at hpre
    have hlength := hpre.length_le
    rw [String.toList_empty, List.length_nil] at hlength
    omega
  · rw [hasLead_iff] at hinside
    exact hother (List.prefix_of_prefix_length_le hinside hpre hlead)

theorem isInside_of_standsAt {r : Row} {indent : Nat} (h : r.StandsAt indent) (hle : 5 ≤ indent) :
    isInside r.text = true := by
  rw [isInside, Bool.or_eq_true]
  rcases h with hindent | hblank
  · right
    have htext : r.text.toList = List.replicate r.indent ' ' ++ r.body.toList := by
      rw [Row.text, String.toList_append, spaces, String.toList_ofList]
    have hspaces : "     ".toList <+: List.replicate r.indent ' ' := by
      rw [List.prefix_replicate_iff]
      exact ⟨hle.trans hindent, by decide⟩
    rw [hasLead_iff, htext]
    exact hspaces.trans (List.prefix_append _ _)
  · left
    rw [hblank]
    rfl

theorem isInside_append {lead : String} (h : hasLead "     " lead = true) (rest : String) :
    isInside (lead ++ rest) = true := by
  rw [hasLead_iff] at h
  rw [isInside, Bool.or_eq_true]
  right
  rw [hasLead_iff, String.toList_append]
  exact h.trans (List.prefix_append _ _)

/-- The row that starts a page. -/
def header (index : Nat) : String := "    - id: " ++ pageId index

theorem header_inj {i j : Nat} (h : header i = header j) : i = j := by
  unfold header pageId at h
  rw [String.append_right_inj] at h
  have hindex : "page_" ++ toString i = "page_" ++ toString j := h
  rw [String.append_right_inj] at hindex
  rw [← Numeric.ofDigits_toString i, hindex, Numeric.ofDigits_toString]

theorem hasLead_header (index : Nat) : hasLead "    - id: " (header index) = true :=
  hasLead_append _ _

/-- The rows of a page behind its header. -/
def innerLines (p : VisitedPage MarkedNode) : List String :=
  p.page.factRows 6 "#" ++ ((entryRows 6 "bg_color" (.string (background p))).map Row.text
    ++ if p.contents.isEmpty then ["      widgets: []"]
      else "      widgets:" :: p.contents.flatMap nodeLines)

theorem pageLines_eq_header (index : Nat) (p : VisitedPage MarkedNode) :
    pageLines index p = header index :: innerLines p := pageLines_eq index p

theorem isInside_nodeLines (n : MarkedNode) : ∀ row ∈ nodeLines n, isInside row = true := by
  rw [nodeLines, List.forall_mem_cons]
  refine ⟨isInside_append (by decide) _, List.forall_mem_map.2 fun r hr => ?_⟩
  have hitem : sequenceRows 8 [n.node] = itemRows 8 n.node := List.append_nil (itemRows 8 n.node)
  rw [hitem] at hr
  exact isInside_of_standsAt (standsAt_itemRows 8 n.node r hr) (by decide)

theorem isInside_innerLines (p : VisitedPage MarkedNode) : ∀ row ∈ innerLines p, isInside row = true := by
  rw [innerLines, List.forall_mem_append, List.forall_mem_append]
  refine ⟨fun row hrow => ?_, List.forall_mem_map.2 fun r hr => ?_, ?_⟩
  · obtain ⟨fact, -, rfl⟩ := List.mem_map.1 hrow
    rw [← factRow_eq]
    exact isInside_append (by decide) _
  · exact isInside_of_standsAt (standsAt_entryRows 6 _ _ r hr) (by decide)
  · split
    · exact List.forall_mem_singleton.2 (by decide)
    · rw [List.forall_mem_cons]
      refine ⟨by decide, fun row hrow => ?_⟩
      obtain ⟨n, -, hrow⟩ := List.mem_flatMap.1 hrow
      exact isInside_nodeLines n row hrow

/-- A row inside a page is not the header of any page. -/
theorem hasLead_of_isInside {row : String} (h : isInside row = true) :
    hasLead "    - id: " row = false := by
  rw [← Bool.not_eq_true, hasLead_iff]
  exact not_prefix_of_isInside h (by decide) (by decide)

/-- **What a page shows stands below the key of its widgets.** -/
theorem behindFirst_innerLines (p : VisitedPage MarkedNode) :
    behindFirst (· == "      widgets:") (innerLines p) = p.contents.flatMap nodeLines := by
  have hfacts : ∀ row ∈ p.page.factRows 6 "#", (row == "      widgets:") = false := by
    intro row hrow
    obtain ⟨fact, -, rfl⟩ := List.mem_map.1 hrow
    rw [← factRow_eq, beq_eq_false_iff_ne]
    intro h
    have hpre : "      # ".toList <+: "      widgets:".toList := by
      rw [← h, String.toList_append]
      exact List.prefix_append _ _
    exact absurd hpre (by decide)
  have hbackground : ∀ row ∈ (entryRows 6 "bg_color" (.string (background p))).map Row.text,
      (row == "      widgets:") = false := by
    have hcode : code? (background p) = none := code?_of_clash (by decide : Line.clash _ "0x".toList = true) _
    have hrows : entryRows 6 "bg_color" (.string (background p))
        = [⟨6, "bg_color: " ++ textScalar (background p)⟩] := by
      rw [entryRows, hcode]
      rfl
    rw [hrows, List.map_singleton, List.forall_mem_singleton, beq_eq_false_iff_ne]
    intro h
    have hpre : "      bg_color: ".toList <+: "      widgets:".toList := by
      rw [← h, Row.text, ← String.append_assoc, String.toList_append]
      exact List.prefix_append _ _
    exact absurd hpre (by decide)
  rw [innerLines, ← List.append_assoc]
  have hfront := List.forall_mem_append.2 ⟨hfacts, hbackground⟩
  cases hcontents : p.contents with
  | nil =>
    refine behindFirst_eq_nil ?_
    rw [List.isEmpty_nil, if_pos rfl, List.forall_mem_append, List.forall_mem_singleton]
    exact ⟨hfront, by decide⟩
  | cons n contents =>
    rw [List.isEmpty_cons, if_neg Bool.false_ne_true, behindFirst_append hfront (beq_self_eq_true _)]

variable [Qr.Encoder] {p : Project} {config : Config}

/-- The rows of a page hold no line feed. -/
theorem oneLine_pageLines {visited : VisitedPage MarkedNode} (h : visited ∈ p.visit form config)
    (index : Nat) : ∀ row ∈ pageLines index visited, OneLine row := by
  obtain ⟨page, -, rfl⟩ := List.mem_map.1 h
  rw [pageLines_eq_header, List.forall_mem_cons, innerLines, List.forall_mem_append, List.forall_mem_append]
  refine ⟨oneLine_header index, page.oneLine_factRows (Or.inr rfl), fun row hrow => ?_, ?_⟩
  · exact (silent_background _ _ row hrow).oneLine
  · split
    · exact List.forall_mem_singleton.2 (by decide)
    · rw [List.forall_mem_cons]
      refine ⟨by decide, fun row hrow => ?_⟩
      obtain ⟨n, hn, hrow⟩ := List.mem_flatMap.1 hrow
      obtain ⟨e, he, rfl⟩ := List.mem_map.1 hn
      obtain ⟨w, -, k, htype, rfl⟩ := VisitedPage.exists_of_mem_emissions form config p.dark page he
      exact oneLine_nodeLines (Widget.isPlain_marker htype) (k.copies_retained _ _).isItem row hrow

/-- **The pages of the tree are found in the text.** -/
theorem behindLast_compile (hmode : config.mode = .retained) :
    behindLast "  pages:" (p.compile config).artifact.rows
      = ((p.visit form config).mapIdx pageLines).flatten := by
  have hrender : (treeSection config.device (p.visit form config)).render
      = ["lvgl:", "  displays:", "    - " ++ config.device.displayId]
        ++ "  pages:" :: ((p.visit form config).mapIdx pageLines).flatten := rfl
  refine Artifact.behindLast_rows (text_compile hmode) (List.concat_ne_nil _ _) hrender (by decide) ?_ ?_
  · intro row hrow
    obtain ⟨rows, hrows, hrow⟩ := List.mem_flatten.1 hrow
    obtain ⟨i, hi, rfl⟩ := List.mem_mapIdx.1 hrows
    exact oneLine_pageLines (List.getElem_mem hi) i row hrow
  · intro hmem
    obtain ⟨rows, hrows, hmem⟩ := List.mem_flatten.1 hmem
    obtain ⟨i, hi, rfl⟩ := List.mem_mapIdx.1 hrows
    rw [pageLines_eq_header, List.mem_cons] at hmem
    rcases hmem with heq | hmem
    · have hlead := hasLead_header i
      rw [← heq] at hlead
      exact absurd hlead (by decide)
    · exact absurd (isInside_innerLines _ _ hmem) (by decide)

/-- **The item of a page is found among the pages,** and below the key of its widgets stand their
markers and nodes. -/
theorem behindFirst_pageRows (hmode : config.mode = .retained) {i : Nat} {page : Page}
    (hpage : p.pages[i]? = some page) :
    behindFirst (· == "      widgets:") ((p.compile config).artifact.pageRows i)
      = (VisitedPage.ofPage form config p.dark page).contents.flatMap nodeLines := by
  let visited := VisitedPage.ofPage form config p.dark page
  have hvisited : (p.visit form config)[i]? = some visited := by
    rw [Project.visit, List.getElem?_map, hpage, Option.map_some]
  obtain ⟨front, back, hflatten, hfront, hback⟩ := exists_flatten_mapIdx_eq pageLines hvisited
  have hitem : behindFirst (· == header i) ((p.visit form config).mapIdx pageLines).flatten
      = innerLines visited ++ back := by
    rw [hflatten, pageLines_eq_header, List.cons_append, behindFirst_append]
    · intro row hrow
      obtain ⟨j, hj, q, -, hrow⟩ := hfront row hrow
      rw [beq_eq_false_iff_ne]
      rintro rfl
      rw [pageLines_eq_header, List.mem_cons] at hrow
      rcases hrow with heq | hrow
      · exact Nat.ne_of_gt hj (header_inj heq)
      · have hlead := hasLead_of_isInside (isInside_innerLines q _ hrow)
        rw [hasLead_header] at hlead
        cases hlead
    · exact beq_self_eq_true _
  have hpageRows : (p.compile config).artifact.pageRows i = innerLines visited := by
    rw [Artifact.pageRows, behindLast_compile hmode]
    show (behindFirst (· == header i) _).takeWhile _ = _
    rw [hitem, takeWhile_append_stop]
    -- No row inside a page looks like a header, and the next page starts with one.
    · intro row hrow
      rw [hasLead_of_isInside (isInside_innerLines visited row hrow), Bool.not_false]
    · rcases hback with rfl | ⟨q, -, rest, rfl⟩
      · exact fun row hrow => absurd hrow (by simp)
      · rw [pageLines_eq_header]
        rintro row ⟨⟩
        rw [hasLead_header, Bool.not_true]
  rw [hpageRows, behindFirst_innerLines]

end PageTree

/-! ## The payload of a page -/

namespace ServiceCall

variable [Qr.Encoder]

/-- The document of a protocol: a call for each page. -/
theorem document_compile {p : Project} {config : Config} {protocol : Protocol}
    (hcompile : p.compile config = .withoutDeclarations p config protocol) :
    (p.compile config).artifact.document
      = .array ((p.visit (form protocol) config).map (call protocol config.envelope)) := by
  rw [hcompile]
  cases protocol <;> rfl

/-- **The payload of a page is found in its call.** -/
theorem payload_compile {p : Project} {config : Config} {protocol : Protocol}
    (hcompile : p.compile config = .withoutDeclarations p config protocol) {i : Nat} {page : Page}
    (hpage : p.pages[i]? = some page) :
    (p.compile config).artifact.payload i
      = (VisitedPage.ofPage (form protocol) config p.dark page).contents.flatten := by
  have hcall : ((p.visit (form protocol) config).map (call protocol config.envelope))[i]?
      = some (call protocol config.envelope (VisitedPage.ofPage (form protocol) config p.dark page)) := by
    rw [Project.visit, List.getElem?_map, List.getElem?_map, hpage]
    rfl
  rw [Artifact.payload, document_compile hcompile]
  dsimp only [Json.items?]
  rw [Option.bind_some, hcall]
  cases protocol <;> rfl

end ServiceCall

/-! ## All modes -/

variable [Qr.Encoder]

/-- What becomes of a widget in a mode; nothing unless its type exists in it. -/
def Widget.shown (mode : Mode) (s : Surface) (w : Widget) : List Json :=
  match w.behaviourIn? mode with
  | some b => b.shown mode s (w.view b)
  | none => []

/-- The contents of a page are those of the widgets that the mode supports. -/
theorem VisitedPage.map_contents {α : Type} {form : Form α} {config : Config} {write : α → List Json}
    (h : ∀ b v s, write (form b v s).content = b.shown config.mode s v) (dark : Bool) (page : Page) :
    (ofPage form config dark page).contents.map write
      = (page.supported config.mode).map (Widget.shown config.mode (ofPage form config dark page).surface) := by
  rw [contents, emissions_ofPage, Page.supported, List.map_map]
  generalize (ofPage form config dark page).surface = s
  -- A widget that the mode does not know is neither emitted nor supported.
  induction page.widgets with
  | nil => rfl
  | cons w ws ih =>
    cases hb : w.behaviourIn? config.mode with
    | none =>
      rw [List.filter_cons_of_neg (by simp [hb]), List.filterMap_cons_none (by rw [hb]; rfl)]
      exact ih
    | some b =>
      have hshown : w.shown config.mode s = b.shown config.mode s (w.view b) := by
        rw [Widget.shown, hb]
      rw [List.filter_cons_of_pos (by simp [hb]), List.filterMap_cons_some (by rw [hb]; rfl),
        List.map_cons, List.map_cons, ih, hshown, ← h]
      rfl

omit [Qr.Encoder] in
theorem map_flatten_intersperse {α β : Type} (f : α → β) (sep : α) (groups : List (List α)) :
    (groups.intersperse [sep]).flatten.map f
      = ((groups.map (List.map f)).intersperse [f sep]).flatten := by
  induction groups with
  | nil => rfl
  | cons first groups ih =>
    cases groups with
    | nil => simp
    | cons second groups =>
      rw [List.intersperse_cons_cons, List.flatten_cons, List.flatten_cons, List.map_append,
        List.map_append, ih]
      rfl

variable {p : Project} {config : Config}

theorem ServiceCall.payload_eq {protocol : Protocol}
    (hshown : ∀ b v s, (form protocol b v s).content = b.shown config.mode s v)
    (hcompile : p.compile config = .withoutDeclarations p config protocol) {i : Nat} {page : Page}
    (hpage : p.pages[i]? = some page) :
    (p.compile config).artifact.payload i = ((page.supported config.mode).map
      (Widget.shown config.mode ⟨config.device, page.theme.isDark p.dark⟩)).flatten := by
  have hcontents : (VisitedPage.ofPage (form protocol) config p.dark page).contents.map id
      = (page.supported config.mode).map
          (Widget.shown config.mode ⟨config.device, page.theme.isDark p.dark⟩) :=
    VisitedPage.map_contents hshown p.dark page
  rw [payload_compile hcompile hpage, ← hcontents, List.map_id]

theorem Project.mode_compile : (p.compile config).artifact.mode = config.mode := by
  rw [compile]
  split <;> rfl

/-- **A page shows what its widgets become,** in order. -/
theorem Project.content_eq {i : Nat} {page : Page} (hpage : p.pages[i]? = some page) :
    (p.compile config).artifact.content i
      = config.mode.joined ((page.supported config.mode).map
          (Widget.shown config.mode ⟨config.device, page.theme.isDark p.dark⟩)) := by
  rw [Artifact.content, mode_compile]
  cases hmode : config.mode with
  | direct =>
    dsimp only [Mode.joined]
    rw [DisplayLambda.behindFirst_branchRows hmode hpage, map_flatten_intersperse,
      VisitedPage.map_contents (fun b v s => by rw [hmode]; rfl), hmode]
    rfl
  | retained =>
    dsimp only [Mode.joined]
    rw [PageTree.behindFirst_pageRows hmode hpage, List.map_flatMap, List.flatMap_def,
      VisitedPage.map_contents (fun b v s => by rw [hmode]; rfl), hmode]
    rfl
  | protocolA =>
    have hshown : ∀ b v s, (ServiceCall.form .a b v s).content = b.shown config.mode s v :=
      fun b v s => by rw [hmode]; rfl
    have hcompile : p.compile config = .withoutDeclarations p config .a := by
      rw [compile, hmode]
    dsimp only [Mode.joined]
    rw [← hmode]
    exact ServiceCall.payload_eq hshown hcompile hpage
  | protocolB =>
    have hshown : ∀ b v s, (ServiceCall.form .b b v s).content = b.shown config.mode s v :=
      fun b v s => by rw [hmode]; rfl
    have hcompile : p.compile config = .withoutDeclarations p config .b := by
      rw [compile, hmode]
    dsimp only [Mode.joined]
    rw [← hmode]
    exact ServiceCall.payload_eq hshown hcompile hpage

/-! ## The counts of a run -/

theorem Stats.of_visit {α : Type} (form : Form α) (sensors : Nat) (g : Generation) :
    (Stats.of (p.visit form config) sensors g).widgets
        = (p.widgets.filter fun w => (w.behaviourIn? config.mode).isSome).length
      ∧ (Stats.of (p.visit form config) sensors g).skipped
        = (p.widgets.filter fun w => !(w.behaviourIn? config.mode).isSome).length := by
  have hemitted : ∀ page : Page, ((VisitedPage.ofPage form config p.dark page).visits.filterMap
      Visit.emission?).length
        = (page.widgets.filter fun w => (w.behaviourIn? config.mode).isSome).length := by
    intro page
    have hemissions := VisitedPage.emissions_ofPage form config p.dark page
    rw [VisitedPage.emissions] at hemissions
    rw [hemissions, List.length_filterMap_eq_countP, List.countP_eq_length_filter]
    simp
  have hvisits : ∀ page : Page, (VisitedPage.ofPage form config p.dark page).visits.length
      = page.widgets.length := fun page => List.length_map _
  have hwidgets : (((p.visit form config).flatMap VisitedPage.visits).filterMap Visit.emission?).length
      = (p.widgets.filter fun w => (w.behaviourIn? config.mode).isSome).length := by
    rw [Project.visit, Project.widgets, List.flatMap_map, List.filterMap_flatMap, List.filter_flatMap,
      List.length_flatMap, List.length_flatMap]
    simp only [hemitted]
  have hall : ((p.visit form config).flatMap VisitedPage.visits).length = p.widgets.length := by
    rw [Project.visit, Project.widgets, List.flatMap_map, List.length_flatMap, List.length_flatMap]
    simp only [hvisits]
  refine ⟨hwidgets, ?_⟩
  have hsplit := List.length_eq_length_filter_add (fun w : Widget => (w.behaviourIn? config.mode).isSome)
    (l := p.widgets)
  have hskipped : (Stats.of (p.visit form config) sensors g).skipped
      = ((p.visit form config).flatMap VisitedPage.visits).length
        - (((p.visit form config).flatMap VisitedPage.visits).filterMap Visit.emission?).length := rfl
  rw [hskipped, hall, hwidgets]
  omega

/-! ## Locality -/

omit [Qr.Encoder] in
theorem Mode.joined_nil (mode : Mode) : mode.joined [] = [] := by
  cases mode <;> rfl

omit [Qr.Encoder] in
theorem Mode.joined_singleton (mode : Mode) (content : List Json) : mode.joined [content] = content := by
  cases mode <;> simp [joined]

/-- A widget on its own is shown as it is on any page. -/
theorem Widget.content_alone (w : Widget) (dark : Bool) (config : Config) :
    ((w.alone dark).compile config).artifact.content 0 = w.shown config.mode ⟨config.device, dark⟩ := by
  have hpage : (w.alone dark).pages[0]? = some { widgets := [w] } := rfl
  have hdark : Theme.inherit.isDark (w.alone dark).dark = dark := rfl
  rw [Project.content_eq hpage, hdark]
  cases hb : w.behaviourIn? config.mode with
  | some b =>
    have hsupported : Page.supported config.mode { widgets := [w] } = [w] := by
      rw [Page.supported, List.filter_singleton, hb]
      rfl
    rw [hsupported, List.map_singleton, Mode.joined_singleton]
  | none =>
    have hsupported : Page.supported config.mode { widgets := [w] } = [] := by
      rw [Page.supported, List.filter_singleton, hb]
      rfl
    rw [hsupported, List.map_nil, Mode.joined_nil, shown, hb]

/-- **What a page shows is what its widgets show,** in order, with a rule between two of them in a
display lambda, and over just those of its widgets whose type exists in the mode. What a widget shows
is what the artifact of a project with no other widget shows, on a page as dark as its own. The other
widgets are counted as skipped. -/
theorem Project.content_compile (p : Project) (config : Config) :
    let a := (p.compile config).artifact
    (p.pages.mapIdx fun i _ => a.content i) = (p.pages.map fun page =>
        config.mode.joined ((page.supported config.mode).map fun w =>
          ((w.alone (page.theme.isDark p.dark)).compile config).artifact.content 0))
      ∧ (∀ (w : Widget) (dark : Bool), ((w.alone dark).compile config).artifact.content 0
          = w.shown config.mode ⟨config.device, dark⟩)
      ∧ a.stats.widgets = (p.widgets.filter fun w => (w.behaviourIn? config.mode).isSome).length
      ∧ a.stats.skipped = (p.widgets.filter fun w => !(w.behaviourIn? config.mode).isSome).length := by
  intro a
  refine ⟨?_, fun w dark => w.content_alone dark config, ?_⟩
  · refine List.ext_getElem (by simp) fun i hi _ => ?_
    rw [List.length_mapIdx] at hi
    have hpage : p.pages[i]? = some p.pages[i] := List.getElem?_eq_getElem hi
    rw [List.getElem_mapIdx, List.getElem_map, content_eq hpage]
    simp only [Widget.content_alone]
  · show (p.compile config).artifact.stats.widgets = _ ∧ (p.compile config).artifact.stats.skipped = _
    rw [compile]
    split
    · exact Stats.of_visit _ _ _
    · exact Stats.of_visit _ _ _
    · exact Stats.of_visit _ _ _
    · exact Stats.of_visit _ _ _

end DisplayLayout
