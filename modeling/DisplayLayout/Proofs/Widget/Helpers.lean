import DisplayLayout.Proofs.Widget.Supplied

/-!
# Where helpers are called

A widget asks for the helpers that its statements call, and for no other ones
(`Kind.mem_helpers_iff`). That it asks for those it calls is part of what it is
supplied with; here every helper that it asks for is found in a statement.
-/

namespace DisplayLayout

open Text Lambda

/-! ## Helpers on a line -/

namespace Lambda

/-- The helpers that a line calls; all of them if it cannot be read. -/
def lineHelpers (line : String) : List DrawHelper :=
  match scan line with
  | some pieces => helperCalls [] pieces
  | none => DrawHelper.all

theorem lineHelpers_of_scan {line : String} {pieces : List Piece} (h : scan line = some pieces) :
    lineHelpers line = helperCalls [] pieces := by
  rw [lineHelpers, h]

/-- What stands before a blank is not part of the word behind it. -/
theorem helperCalls_blank {c : Char} (hc : isWordChar c = false) (before after : List Char)
    (pieces : List Piece) :
    helperCalls (before ++ c :: after) pieces = helperCalls before pieces := by
  have hword : ∀ before : List Char,
      (before ++ c :: after).takeWhile isWordChar = before.takeWhile isWordChar :=
    takeWhile_append_of_head fun _ hd => Option.some.inj hd ▸ hc
  induction pieces generalizing before with
  | nil => rfl
  | cons piece pieces ih =>
    cases piece with
    | literal text => rfl
    | code d =>
      have hrest := ih (d :: before)
      rw [List.cons_append] at hrest
      rw [helperCalls, helperCalls, hword, hrest]

/-- What is known of the calls of a passage is known of the helpers that its lines call. -/
theorem Passage.supplies_helper {P : Call → Prop} {G : Nat → Prop} {a b : Nat} {lines : List String}
    (hlines : Passage P G a b lines) {line : String} (hline : line ∈ lines) {h : DrawHelper}
    (hcall : h ∈ lineHelpers line) : P (.helper h) := by
  obtain ⟨pieces, hscan, hcalls, -⟩ := hlines.reads line hline
  rw [lineHelpers_of_scan hscan] at hcall
  exact hcalls [] _ (helper_mem_calls.2 hcall)

/-- Indentation changes no call. -/
theorem lineHelpers_indent (line : String) : lineHelpers (indent line) = lineHelpers line := by
  unfold lineHelpers
  rw [Passage.scan_indent]
  cases scan line with
  | none => rfl
  | some pieces =>
    show helperCalls [' ', ' '] pieces = helperCalls [] pieces
    exact helperCalls_blank (by decide) [] [' '] pieces

theorem helperCalls_chars (cs before : List Char) (pieces : List Piece) :
    helperCalls (cs.reverse ++ before) pieces ⊆ helperCalls before (cs.map .code ++ pieces) := by
  induction cs generalizing before with
  | nil => exact List.Subset.refl _
  | cons c cs ih =>
    have hrest := ih (c :: before)
    rw [List.reverse_cons, List.append_assoc, List.singleton_append, List.map_cons, List.cons_append,
      helperCalls]
    split
    · exact List.subset_append_of_subset_right _ hrest
    · exact hrest

/-- A call of a helper is found behind code that does not go on as its name. -/
theorem CallsHelper.mem_lineHelpers_behind {T : List Char → Prop} {h : DrawHelper} {lead s : String}
    (hs : CallsHelper T h s) (hlead : Reads lead.toList (lead.toList.map .code))
    (hblank : lead.toList.reverse.takeWhile isWordChar = []) : h ∈ lineHelpers (lead ++ s) := by
  obtain ⟨tail, rfl, pieces, htail⟩ := hs
  have hname : Reads (h.name ++ "(").toList ((h.name ++ "(").toList.map .code) := by
    cases h
    all_goals exact reads_of_closes (by decide) (by decide)
  have hscan : scan (lead ++ (h.name ++ "(" ++ tail))
      = some (lead.toList.map .code ++ ((h.name ++ "(").toList.map .code ++ pieces)) := by
    rw [scan, String.toList_append, String.toList_append]
    exact (hlead.append (hname.append htail.reads)).readCode_eq
  rw [lineHelpers_of_scan hscan]
  refine helperCalls_chars _ _ _ (helper_mem_calls.1 (Passage.helper_mem_calls_name h ?_ pieces))
  rw [List.append_nil]
  exact hblank

theorem CallsHelper.mem_lineHelpers {T : List Char → Prop} {h : DrawHelper} {s : String}
    (hs : CallsHelper T h s) : h ∈ lineHelpers s := by
  have hmem : h ∈ lineHelpers ("" ++ s) := hs.mem_lineHelpers_behind (fun rest => by simp) rfl
  rwa [String.empty_append] at hmem

end Lambda

/-! ## Drawings -/

namespace Drawing

/-- Every helper that is asked for is called. -/
def CallsItsOwn (d : Drawing) : Prop := ∀ h ∈ d.helpers, ∃ line ∈ d.lines, h ∈ lineHelpers line

theorem callsItsOwn_of_nil {d : Drawing} (h : d.helpers = []) : d.CallsItsOwn := by
  intro helper hmem
  rw [h] at hmem
  exact absurd hmem List.not_mem_nil

theorem CallsItsOwn.append {a b : Drawing} (ha : a.CallsItsOwn) (hb : b.CallsItsOwn) :
    (a ++ b).CallsItsOwn := by
  intro h hmem
  rcases List.mem_append.1 hmem with hmem | hmem
  · obtain ⟨line, hline, hcall⟩ := ha h hmem
    exact ⟨line, List.mem_append_left _ hline, hcall⟩
  · obtain ⟨line, hline, hcall⟩ := hb h hmem
    exact ⟨line, List.mem_append_right _ hline, hcall⟩

theorem CallsItsOwn.when {d : Drawing} (h : d.CallsItsOwn) (b : Bool) : (when b d).CallsItsOwn := by
  cases b with
  | true => exact h
  | false => exact callsItsOwn_of_nil rfl

/-- A helper, and a statement that calls it. -/
theorem callsItsOwn_of_mem {d : Drawing} {h : DrawHelper} (hhelpers : d.helpers = [h]) {line : String}
    (hline : line ∈ d.lines) (hcall : h ∈ lineHelpers line) : d.CallsItsOwn := by
  intro k hk
  rw [hhelpers, List.mem_singleton] at hk
  rw [hk]
  exact ⟨line, hline, hcall⟩

theorem callsItsOwn_dither (mask : DitherShape) : (dither mask).CallsItsOwn := by
  have hsome : mask.statements ≠ [] := by cases mask <;> exact List.cons_ne_nil _ _
  obtain ⟨line, hline⟩ := List.exists_mem_of_ne_nil _ hsome
  have hcall : CallsHelper (fun _ => True) mask.helper line := mask.callsHelper_statements line hline
  exact callsItsOwn_of_mem rfl hline hcall.mem_lineHelpers

end Drawing

open Drawing

section

variable {v : View} {s : Surface}

theorem Caption.callsItsOwn_background : (Caption.background v s).CallsItsOwn := by
  unfold background
  dsimp only
  split
  · exact callsItsOwn_of_nil rfl
  · split
    · exact callsItsOwn_dither _
    · exact callsItsOwn_of_nil rfl

theorem ProgressBar.callsItsOwn_borderDrawing : (borderDrawing v s).CallsItsOwn := by
  unfold borderDrawing
  split
  · exact callsItsOwn_of_nil rfl
  · dsimp only
    split
    · -- The strips of the border stand further in.
      obtain ⟨line, hline, hcall⟩ := callsItsOwn_dither (.rectBand (barBox v) (border v)) _
        (List.mem_singleton_self _)
      refine callsItsOwn_of_mem rfl (List.mem_map_of_mem hline) ?_
      rwa [lineHelpers_indent]
    · exact callsItsOwn_of_nil rfl

theorem ProgressBar.callsItsOwn_fillDrawing : (fillDrawing v s).CallsItsOwn := by
  unfold fillDrawing
  dsimp only
  split
  · refine callsItsOwn_of_mem rfl (List.mem_singleton_self _) ?_
    refine CallsHelper.mem_lineHelpers_behind (T := fun _ => True) ?_
      (reads_of_closes (by decide) (by decide)) (by decide)
    refine .insert (.insert (.insert (.name _) (.int _) ?_) (.int _) ?_) (.int _) ?_
    all_goals exact .bare (by decide)
  · exact callsItsOwn_of_nil rfl

theorem ProgressBar.callsItsOwn_direct : (ProgressBar.direct v s).CallsItsOwn := by
  have hfront : ∀ rows, (Drawing.font (font v) ++ .ofLines rows).CallsItsOwn := fun _ =>
    callsItsOwn_of_nil rfl
  exact (((hfront _).append callsItsOwn_borderDrawing).append callsItsOwn_fillDrawing).append
    (callsItsOwn_of_nil rfl)

namespace Shape

theorem callsItsOwn_painted {key : String} {mask : DitherShape} {solid : String → Drawing}
    (h : ∀ color, IsColor color → (solid color).CallsItsOwn) :
    (painted v s key mask solid).CallsItsOwn := by
  unfold painted
  rcases s.paint_cases (v.text key) with hp | hp <;> rw [hp]
  · exact callsItsOwn_dither mask
  · exact h _ (s.isColor_direct _)

theorem callsItsOwn_fillThenBorder {border : Int} {inside edge : Drawing}
    (hinside : inside.CallsItsOwn) (hedge : edge.CallsItsOwn) :
    (fillThenBorder v border inside edge).CallsItsOwn :=
  (hinside.when _).append (hedge.when _)

end Shape

open Shape

theorem RoundedRect.callsItsOwn_direct : (RoundedRect.direct v s).CallsItsOwn := by
  refine callsItsOwn_fillThenBorder (callsItsOwn_painted fun color hcolor => ?_)
    (callsItsOwn_painted fun color hcolor => ?_)
  · refine callsItsOwn_of_mem rfl (List.mem_singleton_self _)
      (CallsHelper.mem_lineHelpers (T := fun _ => True) ?_)
    refine .insert (.insert (.insert (.insert (.insert (.insert (.name _) (.int _) ?_) (.int _) ?_)
      (.int _) ?_) (.int _) ?_) (.int _) ?_) hcolor.fragment ?_
    all_goals exact .bare (by decide)
  · refine callsItsOwn_of_mem rfl (List.mem_singleton_self _)
      (CallsHelper.mem_lineHelpers (T := fun _ => True) ?_)
    refine .insert (.insert (.insert (.insert (.insert (.insert (.insert (.name _) (.int _) ?_) (.int _) ?_)
      (.int _) ?_) (.int _) ?_) (.int _) ?_) (.int _) ?_) hcolor.fragment ?_
    all_goals exact .bare (by decide)

theorem StraightLine.callsItsOwn_direct : (StraightLine.direct v s).CallsItsOwn := by
  refine callsItsOwn_painted fun color _ => callsItsOwn_of_nil ?_
  dsimp only
  split <;> rfl

theorem TouchArea.callsItsOwn_direct : (TouchArea.direct v s).CallsItsOwn := by
  refine callsItsOwn_of_nil ?_
  unfold TouchArea.direct
  split <;> rfl

theorem Graph.callsItsOwn_direct : (Graph.direct v s).CallsItsOwn := by
  unfold Graph.direct
  dsimp only
  split
  · exact (callsItsOwn_of_nil rfl).append ((callsItsOwn_of_nil rfl).when _)
  · exact callsItsOwn_of_nil rfl

theorem Image.Store.helpers_direct (k : Store) (table : PropertyTable)
    (declare : View → Surroundings → String → List Component) :
    ((k.behaviour table declare).direct v s).helpers = [] := by
  unfold Store.behaviour drawAsset
  dsimp only
  split
  · split <;> rfl
  · rfl

end

namespace Kind

variable (k : Kind) (v : View) (s : Surface)

/-- What a type requires are fonts and glyphs. -/
theorem helpers_requirements [Qr.Encoder] : (k.behaviour.requirements v).helpers = [] := by
  have hwhen : ∀ {b : Bool} {d : Drawing}, d.helpers = [] → (when b d).helpers = [] := by
    intro b d h
    cases b with
    | true => exact h
    | false => rfl
  cases k with
  | batteryIcon => exact hwhen rfl
  | wifiSignal => exact hwhen rfl
  | progressBar => exact hwhen rfl
  | touchArea =>
    dsimp only [Kind.behaviour, TouchArea.behaviour]
    split <;> rfl
  | _ => rfl

theorem callsItsOwn_direct [Qr.Encoder] : (k.behaviour.direct v s).CallsItsOwn := by
  have hsome : ∀ (b : Behaviour) (f : View → Surface → Drawing), b.direct = f →
      (f v s).CallsItsOwn → (b.direct v s).CallsItsOwn := by
    intro b f hb hf
    rw [hb]
    exact hf
  have hnil : ∀ {d : Drawing}, d.helpers = [] → d.CallsItsOwn := callsItsOwn_of_nil
  cases k with
  | text =>
    exact hsome Caption.behaviour _ rfl
      ((Caption.callsItsOwn_background.append (hnil rfl)).append (hnil rfl))
  | sensorText => exact hsome Readout.behaviour _ rfl ((hnil rfl).append (hnil rfl))
  | datetime => exact hsome Clock.behaviour _ rfl ((hnil rfl).append (hnil rfl))
  | calendar => exact hsome Calendar.behaviour _ rfl ((hnil rfl).append (hnil rfl))
  | icon => exact hsome Symbol.behaviour _ rfl (hnil rfl)
  | weatherIcon => exact hsome WeatherSymbol.behaviour _ rfl (hnil rfl)
  | batteryIcon => exact hsome BatteryGauge.behaviour _ rfl (((hnil rfl).when _).append (hnil rfl))
  | wifiSignal => exact hsome SignalGauge.behaviour _ rfl (((hnil rfl).when _).append (hnil rfl))
  | progressBar => exact hsome ProgressBar.behaviour _ rfl ProgressBar.callsItsOwn_direct
  | qrCode => exact hsome QrCode.behaviour _ rfl (hnil rfl)
  | shapeRect =>
    exact hsome PlainRect.behaviour PlainRect.direct rfl (Shape.callsItsOwn_fillThenBorder
      (Shape.callsItsOwn_painted fun _ _ => hnil rfl) (Shape.callsItsOwn_painted fun _ _ => hnil rfl))
  | roundedRect => exact hsome RoundedRect.behaviour _ rfl RoundedRect.callsItsOwn_direct
  | shapeCircle =>
    exact hsome Circle.behaviour Circle.direct rfl (Shape.callsItsOwn_fillThenBorder
      (Shape.callsItsOwn_painted fun _ _ => hnil rfl) (Shape.callsItsOwn_painted fun _ _ => hnil rfl))
  | line => exact hsome StraightLine.behaviour StraightLine.direct rfl StraightLine.callsItsOwn_direct
  | image =>
    dsimp only [Kind.behaviour, Image.fileBehaviour]
    exact hnil (Image.Store.helpers_direct _ _ _)
  | onlineImage =>
    dsimp only [Kind.behaviour, Image.onlineBehaviour]
    exact hnil (Image.Store.helpers_direct _ _ _)
  | touchArea =>
    dsimp only [Kind.behaviour, TouchArea.behaviour]
    exact TouchArea.callsItsOwn_direct
  | graph => exact hsome Graph.behaviour Graph.direct rfl Graph.callsItsOwn_direct
  | _ => exact hsome _ (fun _ _ => {}) rfl (hnil rfl)

/-- **A widget asks for exactly the helpers that its statements call.** -/
theorem mem_helpers_iff [Qr.Encoder] {h : DrawHelper} : h ∈ (k.behaviour.direct v s).helpers
    ↔ ∃ line ∈ (k.behaviour.direct v s).lines, h ∈ lineHelpers line := by
  refine ⟨k.callsItsOwn_direct v s h, ?_⟩
  rintro ⟨line, hline, hcall⟩
  obtain ⟨size, hcovers⟩ := k.covers_direct v s
  have hmem : h ∈ (k.behaviour.requirements v ++ k.behaviour.direct v s).helpers :=
    hcovers.supplies_helper hline hcall
  rcases List.mem_append.1 hmem with hmem | hmem
  · rw [k.helpers_requirements v] at hmem
    exact absurd hmem List.not_mem_nil
  · exact hmem

end Kind

end DisplayLayout
