import DisplayLayout.Catalogue
import DisplayLayout.Proofs.Icon
import DisplayLayout.Proofs.Lambda.Statement
import DisplayLayout.Proofs.Widget.Stem

/-!
# Drawn widgets are quiet

Whatever its texts are, a widget draws nothing in the display lambda that could
be taken for a comment or for the start of a page (`Kind.quiet_direct`): texts
stand in literals, identifiers are words, and everything else is a number.
-/

namespace DisplayLayout

open Text

/-! ## Contributions -/

/-- A contribution whose statements are quiet. -/
def Drawing.Quiet (d : Drawing) : Prop := ∀ line ∈ d.lines, Line.Quiet line

namespace Drawing

theorem quiet_append {a b : Drawing} (ha : a.Quiet) (hb : b.Quiet) : (a ++ b).Quiet := by
  intro line hline
  rcases List.mem_append.1 (show line ∈ a.lines ++ b.lines from hline) with h | h
  · exact ha line h
  · exact hb line h

theorem quiet_of_lines_nil {d : Drawing} (h : d.lines = []) : d.Quiet := by
  intro line hline
  rw [h] at hline
  exact absurd hline List.not_mem_nil

theorem quiet_line {s : String} (h : Line.Quiet s) : (line s).Quiet := by
  intro row hrow
  rw [List.mem_singleton.1 hrow]
  exact h

theorem quiet_ofLines {rows : List String} (h : ∀ row ∈ rows, Line.Quiet row) :
    (ofLines rows).Quiet := h

theorem quiet_when {b : Bool} {d : Drawing} (h : b = true → d.Quiet) : (when b d).Quiet := by
  cases b with
  | false => exact quiet_of_lines_nil rfl
  | true => exact h rfl

theorem quiet_dither (mask : DitherShape) : (dither mask).Quiet := mask.quiet_statements

end Drawing

/-! ## Texts -/

namespace Caption

theorem quiet_background (v : View) (s : Surface) : (background v s).Quiet := by
  unfold background
  dsimp only
  split
  · exact Drawing.quiet_of_lines_nil rfl
  · rcases s.paint_cases (v.text "bg_color") with h | h <;> rw [h]
    · exact Drawing.quiet_dither _
    · exact Drawing.quiet_line (Lambda.quiet_fillRect _ (s.oneLine_direct _))

theorem quiet_direct (v : View) (s : Surface) : (direct v s).Quiet := by
  unfold direct
  dsimp only
  refine Drawing.quiet_append (Drawing.quiet_append (quiet_background v s) ?_)
    (Drawing.quiet_ofLines fun row hrow => ?_)
  · exact Drawing.quiet_of_lines_nil rfl
  · obtain ⟨⟨text, y⟩, -, rfl⟩ := List.mem_map.1 hrow
    exact Lambda.quiet_print (.ofNames (font v).oneLine_id (s.oneLine_direct _)) _

end Caption

namespace Readout

theorem oneLine_conversion {sensor : Sensor} (h : OneLine sensor.id) (places : Int) :
    OneLine (conversion sensor places).1 ∧ OneLine (conversion sensor places).2 := by
  have hstate := Lambda.oneLine_state h
  unfold conversion
  dsimp only
  split
  · exact ⟨by simp +decide only [oneLine_append, Numeric.oneLine_toString_int], hstate⟩
  · exact ⟨(by decide : OneLine "%s"), oneLine_append.2 ⟨hstate, by decide⟩⟩
  · exact ⟨(by decide : OneLine "%s"), oneLine_append.2 ⟨hstate, by decide⟩⟩

theorem oneLine_sensorId {v : View} {sensor : Sensor} (h : sensor? v = some sensor) :
    OneLine sensor.id := by
  obtain ⟨entity, -, rfl⟩ := Option.map_eq_some_iff.1 h
  exact Sensor.oneLine_id_of _ _

theorem quiet_valueCall (v : View) {style : Lambda.TextStyle} (hstyle : style.OneLine)
    (label : String) : Line.Quiet (valueCall v style label) := by
  unfold valueCall
  split
  · next sensor hsensor =>
    obtain ⟨hmark, hargument⟩ := oneLine_conversion (oneLine_sensorId hsensor) (places v)
    refine Lambda.quiet_printf hstyle ?_ hargument
    rw [oneLine_append, oneLine_append, oneLine_append]
    exact ⟨⟨⟨Lambda.oneLine_escapeFormat _, Lambda.oneLine_escapeFormat _⟩, hmark⟩,
      Lambda.oneLine_escapeFormat _⟩
  · exact Lambda.quiet_print hstyle _

theorem quiet_direct (v : View) (s : Surface) : (direct v s).Quiet := by
  have hcolor := s.oneLine_direct (v.text "color")
  have hlabel := (labelFont v).oneLine_id
  have hvalue := (valueFont v).oneLine_id
  unfold direct
  dsimp only
  refine Drawing.quiet_append (Drawing.quiet_of_lines_nil rfl) (Drawing.quiet_ofLines ?_)
  split
  · exact List.forall_mem_singleton.2 (quiet_valueCall v (.ofNames hvalue hcolor) _)
  · exact List.forall_mem_singleton.2 (quiet_valueCall v (.ofNames hvalue hcolor) _)
  · refine List.forall_mem_cons.2 ⟨?_, List.forall_mem_singleton.2 ?_⟩
    · exact Lambda.quiet_print (.ofNames hlabel hcolor) _
    · exact quiet_valueCall v (.ofNames hvalue hcolor) _

end Readout

namespace Clock

theorem quiet_direct (v : View) (s : Surface) : (direct v s).Quiet := by
  have hcolor := s.oneLine_direct (v.text "color")
  have htime := (timeFont v).oneLine_id
  have hdate := (dateFont v).oneLine_id
  have hopen : ∀ row ∈ ["\x7b", "  auto now = id(" ++ Ledger.timeSource ++ ").now();"],
      Line.settlesRow row = true := by decide
  unfold direct
  dsimp only
  refine Drawing.quiet_append (Drawing.quiet_of_lines_nil rfl) (Drawing.quiet_ofLines ?_)
  refine List.forall_mem_append.2 ⟨List.forall_mem_append.2 ⟨?_, ?_⟩,
    List.forall_mem_singleton.2 Line.quiet_brace⟩
  · exact fun row hrow => Line.quiet_of_settlesRow (hopen row hrow)
  refine Lambda.quiet_map_indent ?_
  split
  · refine List.forall_mem_cons.2 ⟨?_, List.forall_mem_singleton.2 ?_⟩
    · exact Lambda.quiet_strftime (.ofNames htime hcolor) (by decide)
    · exact Lambda.quiet_strftime (.ofNames hdate hcolor) (by decide)
  · exact List.forall_mem_singleton.2 (Lambda.quiet_strftime (.ofNames htime hcolor) (by decide))
  · exact List.forall_mem_singleton.2 (Lambda.quiet_strftime (.ofNames hdate hcolor) (by decide))

end Clock

/-! ## Symbols -/

namespace Symbol

theorem oneLine_style (v : View) (s : Surface) (y : Int) : (style v s y).OneLine :=
  .ofNames (Icon.oneLine_fontId _) (s.oneLine_direct _)

theorem quiet_glyphCall {style : Lambda.TextStyle} (h : style.OneLine) {glyph : String}
    (hglyph : OneLine glyph) : Line.Quiet (glyphCall style glyph) := by
  simp only [glyphCall, String.append_assoc]
  refine Line.quiet_of_lead (by decide) ?_
  simp +decide only [oneLine_append, h.arguments, hglyph]

/-- A call that draws the literal of a codepoint. -/
theorem quiet_codeCall {style : Lambda.TextStyle} (h : style.OneLine) {code : String}
    (hcode : OneLine code) : Line.Quiet (glyphCall style ("\"" ++ Icon.escape code ++ "\"")) := by
  refine quiet_glyphCall h ?_
  rw [oneLine_append, oneLine_append]
  exact ⟨⟨by decide, Icon.oneLine_escape hcode⟩, by decide⟩

theorem oneLine_code (v : View) : OneLine (code v) := by
  unfold code
  cases h : Icon.normalize? (v.text "code") with
  | none => exact (by decide : OneLine defaultCode)
  | some code => exact (Icon.isWordText_of_normalize? h).oneLine

theorem quiet_direct (v : View) (s : Surface) : (behaviour.direct v s).Quiet := by
  show (Drawing.line _).Quiet
  exact Drawing.quiet_line (quiet_codeCall (oneLine_style v s _) (oneLine_code v))

end Symbol

/-! ## Tiers -/

namespace TierTable

theorem oneLine_cppTest {test : TierTest} (h : ∀ s, test = .state s → Text.OneLine s)
    {subject : String} (hsubject : Text.OneLine subject) :
    Text.OneLine (cppTest subject test) := by
  cases test with
  | atLeast n =>
    unfold cppTest
    simp +decide only [oneLine_append, oneLine_toString, hsubject, Numeric.oneLine_toString_int]
  | state s =>
    unfold cppTest
    simp +decide only [oneLine_append, hsubject, h s rfl]

theorem oneLine_literal {tier : Tier} (h : Text.OneLine tier.code) :
    Text.OneLine (literal tier) := by
  unfold literal
  rw [oneLine_append, oneLine_append]
  exact ⟨⟨by decide, Icon.oneLine_escape h⟩, by decide⟩

/-- The states of a table. -/
def states (t : TierTable) : List String :=
  t.tiers.filterMap fun p => match p.1 with
    | .state s => some s
    | .atLeast _ => none

theorem mem_leads {α : Type} {first other lead : String} {x : α} {xs : List α}
    (h : (lead, x) ∈ leads first other xs) : (lead = first ∨ lead = other) ∧ x ∈ xs := by
  cases xs with
  | nil => exact absurd h List.not_mem_nil
  | cons y ys =>
    rcases List.mem_cons.1 h with heq | hm
    · cases heq
      exact ⟨Or.inl rfl, List.mem_cons_self⟩
    · obtain ⟨z, hz, heq⟩ := List.mem_map.1 hm
      cases heq
      exact ⟨Or.inr rfl, List.mem_cons_of_mem _ hz⟩

/-- A table whose tests and glyphs stand on one line, and a name of the reading that tells its
tests from the start of a page. -/
structure Plain (t : TierTable) (subject : String) : Prop where
  oneLine : Text.OneLine subject
  opens : Line.opens ("if (" ++ subject) = true
  states : ∀ s ∈ t.states, Text.OneLine s
  codes : ∀ p ∈ t.tiers, Text.OneLine p.2.code
  fallback : Text.OneLine t.fallback.code

namespace Plain

variable {t : TierTable} {subject : String} (h : t.Plain subject)

include h

theorem oneLine_test {p : TierTest × Tier} (hp : p ∈ t.tiers) : Text.OneLine (cppTest subject p.1) := by
  refine oneLine_cppTest (fun s hs => h.states s ?_) h.oneLine
  exact List.mem_filterMap.2 ⟨p, hp, by rw [hs]⟩

/-- A test does not start a page, because the name of the reading is no page. -/
theorem quiet_test {p : TierTest × Tier} (hp : p ∈ t.tiers) {rest : String}
    (hrest : Text.OneLine rest) : Line.Quiet ("if (" ++ (cppTest subject p.1 ++ rest)) := by
  obtain ⟨more, hmore⟩ : ∃ more, cppTest subject p.1 = subject ++ more := by
    cases p.1 with
    | atLeast n => exact ⟨" >= " ++ toString n, by unfold cppTest; simp [String.append_assoc]; rfl⟩
    | state s => exact ⟨" == \"" ++ (s ++ "\""), by unfold cppTest; simp only [String.append_assoc]⟩
  have hline : "if (" ++ (cppTest subject p.1 ++ rest) = ("if (" ++ subject) ++ (more ++ rest) := by
    rw [hmore]
    simp only [String.append_assoc]
  have htest := h.oneLine_test hp
  rw [hmore, oneLine_append] at htest
  rw [hline]
  exact Line.quiet_of_lead h.opens (oneLine_append.2 ⟨htest.2, hrest⟩)

/-- The statements that choose a glyph are quiet. -/
theorem quiet_assignChain {target : String} (htarget : Text.OneLine target) :
    ∀ line ∈ t.assignChain subject target, Line.Quiet line := by
  refine List.forall_mem_append.2 ⟨fun line hline => ?_, List.forall_mem_singleton.2 ?_⟩
  · obtain ⟨⟨lead, test, tier⟩, hmem, rfl⟩ := List.mem_map.1 hline
    obtain ⟨hlead, hp⟩ := mem_leads hmem
    have htest := h.oneLine_test hp
    have hglyph := oneLine_literal (h.codes (test, tier) hp)
    dsimp only
    -- Behind the first test an `else` settles the line, whatever is tested.
    rcases hlead with rfl | rfl
    · have hopen : "if" ++ " (" = "if (" := by decide
      rw [hopen]
      simp only [String.append_assoc]
      refine h.quiet_test hp ?_
      simp +decide only [oneLine_append, htarget, hglyph]
    · simp only [String.append_assoc]
      refine Line.quiet_of_lead (by decide : Line.opens "else if" = true) ?_
      simp +decide only [oneLine_append, htest, htarget, hglyph]
  · have hglyph := oneLine_literal h.fallback
    simp only [String.append_assoc]
    refine Line.quiet_of_lead (by decide : Line.opens "else " = true) ?_
    simp +decide only [oneLine_append, htarget, hglyph]

/-- The statements that return a glyph are quiet. -/
theorem quiet_returnChain : ∀ line ∈ t.returnChain subject, Line.Quiet line := by
  refine List.forall_mem_append.2 ⟨fun line hline => ?_, List.forall_mem_singleton.2 ?_⟩
  · obtain ⟨⟨test, tier⟩, hp, rfl⟩ := List.mem_map.1 hline
    have hglyph := oneLine_literal (h.codes (test, tier) hp)
    simp only [String.append_assoc]
    refine h.quiet_test hp ?_
    simp +decide only [oneLine_append, hglyph]
  · rw [String.append_assoc]
    exact Line.quiet_of_lead (by decide) (oneLine_append.2 ⟨oneLine_literal h.fallback, by decide⟩)

end Plain

end TierTable

/-! ## Weather, batteries and signals -/

namespace WeatherSymbol

theorem plain_tiers : Tier.weather.Plain "weather_state" where
  oneLine := by decide
  opens := by decide
  states := by decide
  codes := by decide
  fallback := by decide

theorem quiet_readState (v : View) : Line.Quiet (readState v) := by
  have hid : OneLine (sensor v).id := Sensor.oneLine_id_of _ _
  unfold readState
  exact Lambda.quiet_reading (by decide) hid (by decide)

theorem quiet_direct (v : View) (s : Surface) : (direct v s).Quiet := by
  have hread := quiet_readState v
  have hchain := plain_tiers.quiet_assignChain (by decide : OneLine "weather_glyph")
  unfold direct
  refine Drawing.quiet_ofLines (List.forall_mem_append.2 ⟨List.forall_mem_append.2 ⟨?_, ?_⟩, ?_⟩)
  · refine List.forall_mem_cons.2 ⟨Line.quiet_of_settlesRow (by decide),
      List.forall_mem_cons.2 ⟨Lambda.quiet_indent hread, List.forall_mem_singleton.2 ?_⟩⟩
    exact Line.quiet_of_settlesRow (by decide)
  · exact Lambda.quiet_map_indent hchain
  · refine List.forall_mem_cons.2 ⟨Lambda.quiet_indent ?_, List.forall_mem_singleton.2 Line.quiet_brace⟩
    exact Symbol.quiet_glyphCall (Symbol.oneLine_style v s _) (by decide)

end WeatherSymbol

namespace Gauge

/-- A gauge whose names and tiers stand on one line. -/
structure Setup.Plain (g : Setup) : Prop where
  tiers : g.meter.tiers.Plain g.meter.variableName
  format : OneLine g.meter.format
  sourceId : ∀ v, OneLine (g.source v).id

theorem quiet_readValue {g : Setup} (h : g.Plain) (v : View) : Line.Quiet (readValue g v) := by
  have hname := h.tiers.oneLine
  have hstate := Lambda.oneLine_state (h.sourceId v)
  unfold readValue
  simp only [String.append_assoc]
  refine Line.quiet_of_lead (by decide) ?_
  simp +decide only [oneLine_append, hname, hstate]

theorem quiet_direct {g : Setup} (h : g.Plain) (v : View) (s : Surface) : (direct g v s).Quiet := by
  have hname := h.tiers.oneLine
  have hglyph : OneLine (g.meter.variableName ++ "_glyph") := oneLine_append.2 ⟨hname, by decide⟩
  have hread := quiet_readValue h v
  have hdeclare : Line.Quiet ("  const char *" ++ (g.meter.variableName ++ "_glyph") ++ ";") := by
    rw [String.append_assoc]
    exact Line.quiet_of_lead (by decide) (oneLine_append.2 ⟨hglyph, by decide⟩)
  have hchain := h.tiers.quiet_assignChain hglyph
  have hstyle := Symbol.oneLine_style v s (v.widget.y + (stackOffsets g v).1)
  unfold direct
  dsimp only
  refine Drawing.quiet_append (Drawing.quiet_when fun _ => Drawing.quiet_of_lines_nil rfl)
    (Drawing.quiet_ofLines ?_)
  simp only [List.forall_mem_append]
  refine ⟨⟨⟨⟨?_, Lambda.quiet_map_indent hchain⟩, ?_⟩, ?_⟩, ?_⟩
  · refine List.forall_mem_cons.2 ⟨Line.quiet_of_settlesRow (by decide), ?_⟩
    exact List.forall_mem_cons.2 ⟨Lambda.quiet_indent hread, List.forall_mem_singleton.2 hdeclare⟩
  · refine List.forall_mem_singleton.2 (Lambda.quiet_indent ?_)
    exact Symbol.quiet_glyphCall hstyle hglyph
  · split
    · refine List.forall_mem_singleton.2 (Lambda.quiet_indent ?_)
      exact Lambda.quiet_printf (.ofNames (font v).oneLine_id hstyle.color) h.format hname
    · exact List.forall_mem_nil _
  · exact List.forall_mem_singleton.2 Line.quiet_brace

end Gauge

theorem BatteryGauge.plain_setup : setup.Plain where
  tiers := ⟨by decide, by decide, by decide, by decide, by decide⟩
  format := by decide
  sourceId v := by
    show OneLine (source v).id
    unfold source
    dsimp only
    split
    · exact (by decide : OneLine localId)
    · exact Sensor.oneLine_id_of _ _

theorem SignalGauge.plain_setup : setup.Plain where
  tiers := ⟨by decide, by decide, by decide, by decide, by decide⟩
  format := by decide
  sourceId v := by
    show OneLine (source v).id
    unfold source
    split
    · split
      · exact (by decide : OneLine localId)
      · exact Sensor.oneLine_id_of _ _
    · exact (by decide : OneLine localId)

/-! ## Progress bars -/

namespace ProgressBar

theorem quiet_borderDrawing (v : View) (s : Surface) : (borderDrawing v s).Quiet := by
  unfold borderDrawing
  rcases s.paint_cases (v.text "color") with h | h <;> rw [h]
  · dsimp only
    split
    · refine Drawing.quiet_append (Drawing.quiet_of_lines_nil rfl) (Drawing.quiet_ofLines ?_)
      exact Lambda.quiet_map_indent (DitherShape.quiet_statements _)
    · exact Drawing.quiet_of_lines_nil rfl
  · refine Drawing.quiet_ofLines (Lambda.quiet_map_indent ?_)
    exact Lambda.quiet_outlineBorder _ _ (s.oneLine_direct _)

theorem quiet_fillDrawing (v : View) (s : Surface) : (fillDrawing v s).Quiet := by
  have hcolor := s.oneLine_direct (v.text "color")
  unfold fillDrawing
  dsimp only
  rcases s.paint_cases (v.text "color") with h | h <;> rw [h]
  · refine Drawing.quiet_append (Drawing.quiet_of_lines_nil rfl) (Drawing.quiet_line ?_)
    refine Line.quiet_of_lead (by decide) ?_
    simp +decide only [oneLine_append, Numeric.oneLine_toString_int]
  · refine Drawing.quiet_line (Line.quiet_of_lead (by decide) ?_)
    simp +decide only [oneLine_append, oneLine_toString, Numeric.oneLine_toString_int, hcolor]

theorem quiet_rowCalls (v : View) (s : Surface) : ∀ row ∈ rowCalls v s, Line.Quiet row := by
  have hcolor := s.oneLine_direct (v.text "color")
  have hfont := (font v).oneLine_id
  unfold rowCalls
  dsimp only
  refine List.forall_mem_append.2 ⟨?_, ?_⟩
  · split
    · exact List.forall_mem_singleton.2 (Lambda.quiet_print (.ofNames hfont hcolor) _)
    · exact List.forall_mem_nil _
  · split
    · exact List.forall_mem_singleton.2
        (Lambda.quiet_printf (.ofNames hfont hcolor) (by decide) (by decide))
    · exact List.forall_mem_nil _

/-- The statement that reads the progress. -/
theorem quiet_source (v : View) :
    Line.Quiet ("  float progress_value = " ++ (match sensor? v with
      | some sensor => Lambda.state sensor.id
      | none => "0") ++ ";") := by
  rw [String.append_assoc]
  refine Line.quiet_of_lead (by decide) (oneLine_append.2 ⟨?_, by decide⟩)
  split
  · next sensor hsensor =>
    obtain ⟨entity, -, rfl⟩ := Option.map_eq_some_iff.1 hsensor
    exact Lambda.oneLine_state (Sensor.oneLine_id_of _ _)
  · decide

theorem quiet_direct (v : View) (s : Surface) : (direct v s).Quiet := by
  have hfill : ∀ width : Int, Line.Quiet
      s!"  int progress_fill = (int) ({width} * progress_value / 100.0f);" := fun width => by
    rw [String.append_assoc]
    refine Line.quiet_of_lead (by decide) ?_
    simp +decide only [oneLine_append, Numeric.oneLine_toString_int]
  have hclamp : ∀ row ∈ ["  if (isnan(progress_value) || progress_value < 0) progress_value = 0;",
      "  if (progress_value > 100) progress_value = 100;"], Line.settlesRow row = true := by decide
  unfold direct
  dsimp only
  refine Drawing.quiet_append (Drawing.quiet_append (Drawing.quiet_append (Drawing.quiet_append
    (Drawing.quiet_of_lines_nil rfl) (Drawing.quiet_ofLines ?_)) (quiet_borderDrawing v s))
    (quiet_fillDrawing v s)) (Drawing.quiet_line Line.quiet_brace)
  refine List.forall_mem_append.2 ⟨?_, Lambda.quiet_map_indent (quiet_rowCalls v s)⟩
  simp only [List.forall_mem_cons]
  refine ⟨Line.quiet_of_settlesRow (by decide), quiet_source v, ?_, ?_, hfill _,
    List.forall_mem_nil _⟩
  · exact Line.quiet_of_settlesRow (hclamp _ (by simp))
  · exact Line.quiet_of_settlesRow (hclamp _ (by simp))

end ProgressBar

/-! ## Codes and images -/

theorem QrCode.quiet_direct [Qr.Encoder] (v : View) (s : Surface) : (direct v s).Quiet := by
  have hcolor := s.oneLine_direct (v.text "color")
  have hid : OneLine (componentId v) := oneLine_append.2 ⟨by decide, v.oneLine_ident⟩
  unfold direct
  refine Drawing.quiet_line ?_
  simp only [String.append_assoc]
  refine Line.quiet_of_lead (by decide) ?_
  simp +decide only [oneLine_append, Numeric.oneLine_toString_int, hcolor, hid]

theorem Graph.quiet_direct (v : View) (s : Surface) : (direct v s).Quiet := by
  have hcolor := s.oneLine_direct (v.text "line_color")
  have hid : OneLine (componentId v) := oneLine_append.2 ⟨by decide, v.oneLine_ident⟩
  unfold direct
  dsimp only
  split
  · refine Drawing.quiet_append (Drawing.quiet_of_lines_nil rfl) (Drawing.quiet_when fun _ => ?_)
    exact Drawing.quiet_line (Lambda.quiet_outlineRect _ hcolor)
  · refine Drawing.quiet_line ?_
    simp only [String.append_assoc]
    refine Line.quiet_of_lead (by decide) ?_
    simp +decide only [oneLine_append, Numeric.oneLine_toString_int, hcolor, hid]

theorem TouchArea.quiet_direct (v : View) (s : Surface) : (direct v s).Quiet := by
  have hcolor := s.oneLine_direct (v.text "color")
  unfold direct
  split
  · exact Drawing.quiet_of_lines_nil rfl
  · next code hcode =>
    refine Drawing.quiet_line (Symbol.quiet_codeCall (.ofNames (Icon.oneLine_fontId _) hcolor) ?_)
    exact (Icon.isWordText_of_normalize? hcode).oneLine

namespace Image

/-- The identifier of an asset is free of line breaks; its size may be negative. -/
theorem oneLine_assetId {family : String} (h : OneLine family) (location : String) (v : View) :
    OneLine (assetId family location v) := by
  have hstem := (isWordText_stem location).oneLine
  unfold assetId
  simp +decide only [oneLine_append, Numeric.oneLine_toString_int, h, hstem]

theorem quiet_drawAsset (v : View) (s : Surface) {id : String} (hid : OneLine id) :
    (drawAsset v s id).Quiet := by
  have hwhite := s.oneLine_direct "white"
  have hblack := s.oneLine_direct "black"
  have htail : ∀ rest, OneLine rest →
      Line.Quiet (s!"it.image({v.widget.x}, {v.widget.y}, id({id})" ++ rest) := fun rest hrest => by
    simp only [String.append_assoc]
    refine Line.quiet_of_lead (by decide) ?_
    simp +decide only [oneLine_append, oneLine_toString, Numeric.oneLine_toString_int, hid, hrest]
  unfold drawAsset
  dsimp only
  split
  · exact Drawing.quiet_line (htail _ (by decide))
  · refine Drawing.quiet_line ?_
    simp only [String.append_assoc]
    simp only [String.append_assoc] at htail
    refine htail _ ?_
    by_cases hinvert : v.flag "invert" = true
    · simp +decide only [hinvert, if_true, oneLine_append, hwhite, hblack]
    · simp +decide only [hinvert, if_false, oneLine_append, hwhite, hblack]

theorem Store.quiet_direct {k : Store} (h : OneLine k.family) (table : PropertyTable)
    (declare : View → Surroundings → String → List Component) (v : View) (s : Surface) :
    ((k.behaviour table declare).direct v s).Quiet := by
  unfold Store.behaviour
  dsimp only
  split
  · exact quiet_drawAsset v s (oneLine_assetId h _ v)
  · exact Drawing.quiet_of_lines_nil rfl

end Image

/-! ## Shapes -/

namespace Shape

theorem quiet_painted (v : View) (s : Surface) (key : String) (mask : DitherShape)
    {solid : String → Drawing} (h : ∀ color, OneLine color → (solid color).Quiet) :
    (painted v s key mask solid).Quiet := by
  unfold painted
  rcases s.paint_cases (v.text key) with hp | hp <;> rw [hp]
  · exact Drawing.quiet_dither mask
  · exact h _ (s.oneLine_direct _)

theorem quiet_fillThenBorder (v : View) (border : Int) {inside edge : Drawing}
    (hinside : inside.Quiet) (hedge : edge.Quiet) : (fillThenBorder v border inside edge).Quiet :=
  Drawing.quiet_append (Drawing.quiet_when fun _ => hinside) (Drawing.quiet_when fun _ => hedge)

end Shape

open Shape

theorem PlainRect.quiet_direct (v : View) (s : Surface) : (direct v s).Quiet := by
  unfold direct
  dsimp only
  refine quiet_fillThenBorder v _ ?_ ?_
  · exact quiet_painted v s _ _ fun color hcolor =>
      Drawing.quiet_line (Lambda.quiet_fillRect _ hcolor)
  · exact quiet_painted v s _ _ fun color hcolor =>
      Drawing.quiet_ofLines (Lambda.quiet_outlineBorder _ _ hcolor)

theorem RoundedRect.quiet_direct (v : View) (s : Surface) : (direct v s).Quiet := by
  unfold direct
  dsimp only
  refine quiet_fillThenBorder v _ ?_ ?_
  · refine quiet_painted v s _ _ fun color hcolor => ?_
    refine Drawing.quiet_append (Drawing.quiet_of_lines_nil rfl) (Drawing.quiet_line ?_)
    simp only [String.append_assoc]
    refine Line.quiet_of_lead (by decide) ?_
    simp +decide only [oneLine_append, oneLine_toString, Numeric.oneLine_toString_int, hcolor]
  · refine quiet_painted v s _ _ fun color hcolor => ?_
    refine Drawing.quiet_append (Drawing.quiet_of_lines_nil rfl) (Drawing.quiet_line ?_)
    simp only [String.append_assoc]
    refine Line.quiet_of_lead (by decide) ?_
    simp +decide only [oneLine_append, oneLine_toString, Numeric.oneLine_toString_int, hcolor]

theorem Circle.quiet_direct (v : View) (s : Surface) : (direct v s).Quiet := by
  unfold direct
  dsimp only
  refine quiet_fillThenBorder v _ ?_ ?_
  · exact quiet_painted v s _ _ fun color hcolor =>
      Drawing.quiet_line (Lambda.quiet_shape (by decide) _ hcolor)
  · refine quiet_painted v s _ _ fun color hcolor => Drawing.quiet_ofLines fun row hrow => ?_
    obtain ⟨i, -, rfl⟩ := List.mem_map.1 hrow
    exact Lambda.quiet_shape (by decide) _ hcolor

theorem StraightLine.quiet_direct (v : View) (s : Surface) : (direct v s).Quiet := by
  unfold direct
  dsimp only
  refine quiet_painted v s _ _ fun color hcolor => ?_
  split
  · exact Drawing.quiet_line (Lambda.quiet_shape (by decide) _ hcolor)
  · exact Drawing.quiet_line (Lambda.quiet_fillRect _ hcolor)

/-! ## Calendars -/

namespace Calendar

/-- The rows of a calendar that are always the same. -/
theorem quiet_daysInMonth : ∀ row ∈ daysInMonth, Line.Quiet row := by
  simp only [daysInMonth, List.forall_mem_cons]
  and_intros
  all_goals first
    | exact (Line.silent_ofList (by decide +kernel)).quiet
    | exact List.forall_mem_nil _

theorem quiet_entries (v : View) {sensor : Sensor} (h : entries? v = some sensor)
    {style : Lambda.TextStyle} (hstyle : style.OneLine) :
    Line.Quiet (Lambda.printf style "%s" (Lambda.state sensor.id ++ ".c_str()")) := by
  obtain ⟨entity, -, rfl⟩ := Option.map_eq_some_iff.1 h
  have hid := (Sensor.isWordText_id_withAttribute (Sensor.of .text entity) "entries").oneLine
  exact Lambda.quiet_printf hstyle (by decide)
    (oneLine_append.2 ⟨Lambda.oneLine_state hid, by decide⟩)

/-- A heading of a calendar. -/
theorem quiet_heading {style : Lambda.TextStyle} (h : style.OneLine) {format : String}
    (hformat : OneLine format) : Line.Quiet ("    " ++ Lambda.strftime style format) :=
  (Lambda.quiet_strftime h hformat).indent (by decide)

theorem quiet_direct (v : View) (s : Surface) : (direct v s).Quiet := by
  have hcolor := s.oneLine_direct (v.text "color")
  have hback := s.oneLine_background
  have hgrid := (gridFont v).oneLine_id
  have hdate := (dateFont v).oneLine_id
  have hday := (dayFont v).oneLine_id
  have hcell : ∀ row, Line.settlesRow row = true → Line.Quiet row := fun _ =>
    Line.quiet_of_settlesRow
  have hdays : ∀ row ∈ daysInMonth.map ("    " ++ ·), Line.Quiet row :=
    List.forall_mem_map.2 fun row hrow => (quiet_daysInMonth row hrow).indent (by decide)
  unfold direct
  dsimp only
  refine Drawing.quiet_append (Drawing.quiet_of_lines_nil rfl) (Drawing.quiet_ofLines ?_)
  simp only [List.forall_mem_append, List.forall_mem_cons, String.append_assoc]
  refine ⟨⟨⟨⟨?head, hdays⟩, ?grid⟩, ?entries⟩, Line.quiet_brace, List.forall_mem_nil _⟩
  case head =>
    refine ⟨hcell _ (by decide), hcell _ (by decide), hcell _ (by decide), ?_, ?_, ?_,
      List.forall_mem_nil _⟩
    · exact quiet_heading (.ofNames hdate hcolor) (by decide)
    · exact quiet_heading (.ofNames hday hcolor) (by decide)
    · exact quiet_heading (.ofNames hgrid hcolor) (by decide)
  case grid =>
    refine ⟨hcell _ (by decide +kernel), hcell _ (by decide +kernel), hcell _ (by decide), ?name,
      by decide, hcell _ (by decide), hcell _ (by decide), ?column, ?row, hcell _ (by decide),
      ?today, ?inverse, by decide, ?day, by decide, by decide, by decide, List.forall_mem_nil _⟩
    all_goals refine Line.quiet_of_lead (by decide) ?_
    all_goals simp +decide only [oneLine_append, oneLine_toString, Numeric.oneLine_toString_int,
      hcolor, hback, hgrid]
  case entries =>
    split
    · next sensor hsensor =>
      refine List.forall_mem_singleton.2 (Lambda.quiet_indent ?_)
      exact quiet_entries v hsensor (.ofNames hgrid hcolor)
    · exact List.forall_mem_nil _

end Calendar

/-! ## All types -/

/-- **Whatever its texts are, a widget draws only quiet statements.** -/
theorem Kind.quiet_direct [Qr.Encoder] (k : Kind) (v : View) (s : Surface) :
    (k.behaviour.direct v s).Quiet := by
  have hsilent : ∀ b : Behaviour, b.direct = (fun _ _ => {}) → (b.direct v s).Quiet := by
    intro b hb
    rw [hb]
    exact Drawing.quiet_of_lines_nil rfl
  have hdrawn : ∀ (b : Behaviour) (d : View → Surface → Drawing), b.direct = d →
      (d v s).Quiet → (b.direct v s).Quiet := by
    intro b d hb hd
    rw [hb]
    exact hd
  cases k with
  | text => exact hdrawn _ Caption.direct rfl (Caption.quiet_direct v s)
  | sensorText => exact hdrawn _ Readout.direct rfl (Readout.quiet_direct v s)
  | datetime => exact hdrawn _ Clock.direct rfl (Clock.quiet_direct v s)
  | icon => exact hdrawn _ Symbol.behaviour.direct rfl (Symbol.quiet_direct v s)
  | weatherIcon => exact hdrawn _ WeatherSymbol.direct rfl (WeatherSymbol.quiet_direct v s)
  | batteryIcon => exact hdrawn _ (Gauge.direct _) rfl (Gauge.quiet_direct BatteryGauge.plain_setup v s)
  | wifiSignal => exact hdrawn _ (Gauge.direct _) rfl (Gauge.quiet_direct SignalGauge.plain_setup v s)
  | progressBar => exact hdrawn _ ProgressBar.direct rfl (ProgressBar.quiet_direct v s)
  | qrCode => exact hdrawn _ QrCode.direct rfl (QrCode.quiet_direct v s)
  | shapeRect => exact hdrawn _ PlainRect.direct rfl (PlainRect.quiet_direct v s)
  | roundedRect => exact hdrawn _ RoundedRect.direct rfl (RoundedRect.quiet_direct v s)
  | shapeCircle => exact hdrawn _ Circle.direct rfl (Circle.quiet_direct v s)
  | line => exact hdrawn _ StraightLine.direct rfl (StraightLine.quiet_direct v s)
  | image =>
    have hb : Kind.image.behaviour = Image.file.behaviour Image.fileTable Image.declareFile := rfl
    rw [hb]
    exact Image.Store.quiet_direct (by decide) _ _ v s
  | onlineImage =>
    have hb : Kind.onlineImage.behaviour
        = Image.online.behaviour Image.onlineTable Image.declareOnline := rfl
    rw [hb]
    exact Image.Store.quiet_direct (by decide) _ _ v s
  | touchArea =>
    dsimp only [Kind.behaviour, TouchArea.behaviour]
    exact TouchArea.quiet_direct v s
  | calendar => exact hdrawn _ Calendar.direct rfl (Calendar.quiet_direct v s)
  | graph => exact hdrawn _ Graph.direct rfl (Graph.quiet_direct v s)
  | _ => exact hsilent _ rfl

end DisplayLayout
