import DisplayLayout.Artifact.PageTree
import DisplayLayout.Catalogue
import DisplayLayout.Proofs.Widget.Drawn
import DisplayLayout.Proofs.Yaml.Copies

/-!
# The texts that a node copies

A node of the widget tree holds identifiers, colors and code that are made for
it, and texts that it copies from its widget as they are (`Kind.copied`). What
is made for a node is mute, so a node says nothing but what the texts say that
it copies (`Kind.copies_retained`).
-/

namespace DisplayLayout

open Text Yaml

/-- A branch whose node copies texts, if it has a node. -/
def Branch.Copies (copied : List Held) (b : Branch) : Prop := ∀ node ∈ b.node, CopiesItem copied node

section Nodes

variable {copied : List Held} (v : View) (s : Surface)

/-! ## Texts that are made for a node -/

@[simp] theorem View.isMute_identWith {suffix : String} (h : IsWordText suffix) :
    (Held.value (v.identWith suffix)).IsMute :=
  isMute_value (code?_word (v.isWordText_identWith h))

@[simp] theorem View.isMute_ident : (Held.value v.ident).IsMute :=
  isMute_value (code?_word v.isWordText_ident)

@[simp] theorem Font.isMute_id (f : Font) : (Held.value f.id).IsMute :=
  isMute_value (code?_word f.isWordText_id)

@[simp] theorem Icon.isMute_fontId (size : Nat) : (Held.value (fontId size)).IsMute :=
  isMute_value (code?_word (isWordText_fontId size))

@[simp] theorem Surface.isMute_retained (token : String) : (Held.value (s.retained token)).IsMute :=
  isMute_value (code?_of_clash (by decide : Line.clash _ "0x".toList = true) _)

@[simp] theorem Align.isMute_retained (a : Align) : (Held.value a.retained).IsMute := by
  rw [retained]
  cases a.horizontal <;> decide

@[simp] theorem Yaml.isMute_upper (t : String) : (Held.value (Text.upper t)).IsMute :=
  isMute_value (code?_upper t)

/-! ## Parts of nodes -/

namespace Node

@[simp] theorem copies_int (n : Int) : Copies copied (.int n) := copies_number _

theorem copiesItem_of {kind : String} (hkind : isKey kind = true) (hid : kind ≠ "id")
    {entries : Entries} : CopiesItem copied (Node.of kind entries) ↔ CopiesEntries copied entries := by
  rw [Node.of, copiesItem_object, copiesEntries_cons hkind, copies_object]
  simp [hid]

theorem copies_branch {kind : String} (hkind : isKey kind = true) (hid : kind ≠ "id")
    {entries : Entries} {uses : Drawing} :
    (branch kind entries uses).Copies copied ↔ CopiesEntries copied entries := by
  rw [Branch.Copies, branch, ← copiesItem_of hkind hid]
  simp

@[simp] theorem copiesEntries_geometry : CopiesEntries copied (geometry v) := by
  simp (disch := decide) [geometry]

@[simp] theorem copiesItem_container {children : List Json} :
    CopiesItem copied (container v children) ↔ ∀ child ∈ children, CopiesItem copied child := by
  simp (disch := decide) [container, copiesItem_of]

@[simp] theorem copies_color (key : String) : Copies copied (color v s key) := by
  simp [color]

@[simp] theorem copies_atLeast (key : String) (least : Int) : Copies copied (atLeast v key least) :=
  copies_number _

@[simp] theorem copies_flag (key : String) : Copies copied (flag v key) := copies_bool _

@[simp] theorem isMute_word (key : String) : (Held.value (word v key)).IsMute := isMute_upper _

theorem copies_text (key : String) : Copies copied (text v key) ↔ Held.value (v.text key) ∈ copied
    ∨ (Held.value (v.text key)).IsMute := by
  rw [text, copies_string, or_comm]

/-- A percentage is mute. -/
theorem isMute_percent (n : Int) : (Held.value (toString n ++ "%")).IsMute := by
  refine isMute_value (code?_of_notMem (by decide : '!' ∈ lambdaTag.toList) fun hm => ?_)
  rw [String.toList_append, List.mem_append] at hm
  rcases hm with hm | hm
  · rcases Numeric.mem_toString_int hm with hdigit | heq
    · exact absurd hdigit (by decide)
    · exact absurd heq (by decide)
  · exact absurd hm (by decide)

@[simp] theorem copies_opacity : Copies copied (opacity v) := by
  unfold opacity
  dsimp only
  split
  · exact copies_string.2 (Or.inl (by decide))
  split
  · exact copies_string.2 (Or.inl (by decide))
  · exact copies_string.2 (Or.inl (isMute_percent _))

/-- Code of one quiet line is mute. -/
theorem copies_lambda {code : String} (h : Line.Quiet code) : Copies copied (lambda code) := by
  rw [lambda, Yaml.lambda, copies_string]
  left
  have hjoin : Text.join "\n" [code] = code := by simp [Text.join]
  rw [← hjoin]
  exact isMute_join (List.forall_mem_singleton.2 h)

end Node

open Node Binding

/-! ## Readings -/

namespace Binding

/-- A reading of no sensor, or of one whose identifier stands on one line. -/
def Reads (sensor : Option Sensor) : Prop := ∀ s ∈ sensor, OneLine s.id

/-- A sensor that is made for an entity. -/
theorem reads_map (kind : String → SensorKind) (entity : Option String) :
    Reads (entity.map fun e => Sensor.of (kind e) e) := by
  intro sensor h
  obtain ⟨entity, -, rfl⟩ := Option.map_eq_some_iff.1 h
  exact Sensor.oneLine_id_of _ _

theorem reads_numeric? : Reads (numeric? v) := reads_map (fun _ => .numeric) _

theorem reads_binary? : Reads (binary? v) := reads_map (fun _ => .binary) _

theorem reads_text? : Reads (text? v) := reads_map (fun _ => .text) _

theorem reads_any? : Reads (any? v) := reads_map (fun e => (domainKind? e).getD .numeric) _

section Values

variable {sensor : Option Sensor} (h : Reads sensor) {fixed : Json}

include h

theorem copies_stateOr (hfixed : sensor = none → Copies copied fixed) :
    Copies copied (stateOr sensor fixed) := by
  cases sensor with
  | none => exact hfixed rfl
  | some sensor => exact copies_lambda (Lambda.quiet_reading (by decide) (h sensor rfl) (by decide))

theorem copies_countOr (hfixed : sensor = none → Copies copied fixed) :
    Copies copied (countOr sensor fixed) := by
  cases sensor with
  | none => exact hfixed rfl
  | some sensor => exact copies_lambda (Lambda.quiet_reading (by decide) (h sensor rfl) (by decide))

end Values

/-- Texts that stand in the place of a reading where there is no sensor. -/
def unread (sensor : Option Sensor) (held : List Held) : List Held :=
  if sensor.isSome then [] else held

theorem mem_unread {sensor : Option Sensor} (h : sensor = none) {t : Held} {held : List Held}
    (ht : t ∈ held) : t ∈ unread sensor held := by
  rw [unread, h]
  exact ht

/-- The entity of a widget, as the data of a call. -/
def called (v : View) : List Held := v.entity?.toList.map Held.value

theorem mem_called {v : View} {entity : String} (h : entity ∈ v.entity?) :
    Held.value entity ∈ called v :=
  List.mem_map.2 ⟨entity, Option.mem_toList.2 h, rfl⟩

theorem copies_service {name entity : String} {data : Entries} (hname : (Held.value name).IsMute)
    (hentity : Held.value entity ∈ copied) (hdata : CopiesEntries copied data) :
    Copies copied (service name entity data) := by
  simp (disch := decide) [service, hname, hentity, hdata]

/-- A call for the entity of a widget copies nothing but the entity. -/
theorem copiesEntries_action {trigger : String} {call : String → Json}
    (htrigger : isKey trigger = true)
    (hcall : ∀ e ∈ v.entity?, Copies copied (call e)) :
    CopiesEntries copied (action v trigger call) := by
  intro entry hentry
  obtain ⟨e, he, rfl⟩ := Option.map_eq_some_iff.1 (Option.mem_toList.1 hentry)
  exact ⟨htrigger, hcall e he⟩

end Binding

/-! ## Controls -/

namespace Control

@[simp] theorem copiesEntries_range : CopiesEntries copied (range v) := by
  simp (disch := decide) [range]

@[simp] theorem copies_value : Copies copied (value v) :=
  copies_stateOr (reads_numeric? v) fun _ => copies_number _

@[simp] theorem copies_filled (key : String) : Copies copied (filled v s key) := by
  simp (disch := decide) [filled]

@[simp] theorem copies_checkedState : Copies copied (checkedState v) := by
  have hstate : Copies copied (stateOr (binary? v) (Node.flag v "checked")) :=
    copies_stateOr (reads_binary? v) fun _ => copies_bool _
  simp (disch := decide) [checkedState, hstate]

@[simp] theorem copies_checkedMark : Copies copied (checkedMark v s) := by
  simp (disch := decide) [checkedMark]

theorem copiesEntries_toggle {trigger : String} (htrigger : isKey trigger = true)
    (hcopied : called v ⊆ copied) : CopiesEntries copied (toggle v trigger) :=
  copiesEntries_action v htrigger fun _ he =>
    copies_service (by decide) (hcopied (mem_called he)) copiesEntries_nil

/-- The service of a press is a word with a point, whatever the entity is. -/
theorem isMute_pressService (entity : String) : (Held.value (pressService entity)).IsMute := by
  unfold pressService
  dsimp only
  split
  · next h =>
    rcases h with h | h
    · rw [h]
      decide
    · rw [h]
      decide
  split
  · next h =>
    rcases h with h | h
    · rw [h]
      decide
    · rw [h]
      decide
  · decide

theorem copies_buttonNode :
    (buttonNode v s).Copies (.value (v.text "text") :: called v) := by
  have haction : CopiesEntries (.value (v.text "text") :: called v)
      (action v "on_click" fun e => service (pressService e) e []) :=
    copiesEntries_action v (by decide) fun e he =>
      copies_service (isMute_pressService e) (List.mem_cons_of_mem _ (mem_called he)) copiesEntries_nil
  simp (disch := decide) [buttonNode, copies_branch, copiesItem_of, haction]

theorem quiet_readingText {sensor : Sensor} (h : OneLine sensor.id) :
    Line.Quiet (readingText sensor) := by
  unfold readingText
  dsimp only
  split
  · exact Lambda.quiet_reading (by decide) h (by decide)
  · exact Lambda.quiet_reading (by decide) h (by decide)
  · exact Lambda.quiet_reading (by decide) h (by decide)

theorem copies_labelText : Copies (unread (any? v) [.value (v.text "text")]) (labelText v) := by
  unfold labelText
  split
  · next sensor hsensor =>
    exact copies_lambda (quiet_readingText (reads_any? v sensor hsensor))
  · next hnone =>
    exact copies_string.2 (Or.inr (mem_unread hnone (List.mem_singleton.2 rfl)))

theorem copies_labelNode :
    (labelNode v s).Copies (unread (any? v) [.value (v.text "text")]) := by
  simp (disch := decide) [labelNode, copies_branch, copies_labelText]

theorem copies_arcNode : (arcNode v s).Copies copied := by
  simp (disch := decide) [arcNode, copies_branch, angle]

theorem copies_barNode : (barNode v s).Copies copied := by
  simp (disch := decide) [barNode, copies_branch]

theorem isKey_setter (entity : String) : isKey (Setter.ofEntity entity).key = true := by
  unfold Setter.ofEntity
  split <;> decide

theorem isMute_setter (entity : String) : (Held.value (Setter.ofEntity entity).service).IsMute := by
  unfold Setter.ofEntity
  split <;> decide

/-- What sets an entity: words of the code, and the value of the control. -/
theorem copies_call {entity : String} (h : Held.value entity ∈ copied) :
    Copies copied (Setter.call entity) := by
  have hvalue : Copies copied (Setter.ofEntity entity).value := by
    refine copies_lambda ?_
    split
    · exact Line.quiet_of_settlesRow (by decide)
    · exact Line.quiet_of_settlesRow (by decide)
  refine copies_service (isMute_setter entity) h ?_
  rw [copiesEntries_cons (isKey_setter entity)]
  exact ⟨hvalue, copiesEntries_nil⟩

theorem copies_sliderNode : (sliderNode v s).Copies (called v) := by
  have haction : CopiesEntries (called v) (action v "on_release" Setter.call) :=
    copiesEntries_action v (by decide) fun e he => copies_call (mem_called he)
  simp (disch := decide) [sliderNode, copies_branch, haction]

theorem copies_switchNode : (switchNode v s).Copies (called v) := by
  have htoggle : CopiesEntries (called v) (toggle v "on_change") :=
    copiesEntries_toggle v (by decide) (List.Subset.refl _)
  simp (disch := decide) [switchNode, copies_branch, htoggle]

theorem copies_checkboxNode : (checkboxNode v s).Copies (.value (v.text "text") :: called v) := by
  have htoggle : CopiesEntries (.value (v.text "text") :: called v) (toggle v "on_click") :=
    copiesEntries_toggle v (by decide) (List.subset_cons_self _ _)
  simp (disch := decide) [checkboxNode, copies_branch, htoggle]

theorem copies_ledNode : (ledNode v s).Copies copied := by
  have hbrightness : Copies copied (ledBrightness v) := by
    unfold ledBrightness
    split
    · next sensor hsensor =>
      refine copies_lambda (Lambda.quiet_reading (by decide) (reads_binary? v sensor hsensor) ?_)
      simp +decide only [oneLine_append, Numeric.oneLine_toString_int]
    · exact copies_string.2 (Or.inl (isMute_percent _))
  simp (disch := decide) [ledNode, copies_branch, hbrightness]

end Control

/-! ## Instruments -/

namespace Instrument

theorem copiesItem_needle : CopiesItem copied (needle v s) := by
  have hvalue : Copies copied (stateOr (numeric? v) (.int (v.int "value"))) :=
    copies_stateOr (reads_numeric? v) fun _ => copies_number _
  simp (disch := decide) [needle, needleId, copiesItem_of, hvalue]

theorem copies_meterNode : (meterNode v s).Copies copied := by
  simp (disch := decide) [meterNode, copies_branch, scale, ticks, copiesItem_needle]

theorem copies_chartNode : (chartNode v s).Copies [.value (v.text "title")] := by
  simp (disch := decide) [chartNode, copies_branch, copiesItem_of, copies_text]

end Instrument

/-! ## Entry fields -/

namespace Entry

theorem copies_selectedIndex : Copies copied (selectedIndex v) :=
  copies_countOr (reads_numeric? v) fun _ => copies_number _

theorem copies_direction (key : String) : (Held.value (direction (word v key))).IsMute := by
  have hword := isMute_word v key
  unfold direction
  split
  · decide
  · decide
  · decide
  · exact hword

/-- Texts as a sequence are copied one by one. -/
theorem copies_texts (ts : List String) : Copies (ts.map Held.item) (Node.texts ts) := by
  rw [Node.texts, copies_array, List.forall_mem_map]
  intro t ht
  rw [copiesItem_string]
  exact Or.inr (List.mem_map.2 ⟨t, ht, rfl⟩)

theorem copies_dropdownNode : (dropdownNode v s).Copies ((linesOf v "options").map .item) := by
  simp (disch := decide) [dropdownNode, copies_branch, copies_texts, copies_selectedIndex,
    copies_direction]

theorem copies_rollerNode : (rollerNode v s).Copies ((linesOf v "options").map .item) := by
  simp (disch := decide) [rollerNode, copies_branch, copies_texts, copies_selectedIndex]

theorem copies_textareaNode : (textareaNode v s).Copies
    [.value (v.text "placeholder"), .value (v.text "text")] := by
  simp (disch := decide) [textareaNode, copies_branch, copies_text]

theorem copies_spinboxNode : (spinboxNode v s).Copies copied := by
  have hvalue : Copies copied (countOr (numeric? v) (.int (v.int "value"))) :=
    copies_countOr (reads_numeric? v) fun _ => copies_number _
  simp (disch := decide) [spinboxNode, copies_branch, hvalue]

/-- The labels of a button matrix. -/
def labels (text : String) : List String :=
  (Text.splitOn ';' text.toList).flatMap fun row => Text.fields ',' (String.ofList row)

theorem copies_matrixRows (text : String) :
    Copies ((labels text).map .value) (.array (matrixRows text)) := by
  rw [copies_array, matrixRows, List.forall_mem_map]
  intro row hrow
  obtain ⟨piece, hpiece, rfl⟩ := List.mem_map.1 (List.mem_filter.1 hrow).1
  have hbutton : ∀ t ∈ Text.fields ',' (String.ofList piece),
      CopiesItem ((labels text).map .value) (.object [("text", .string t)]) := by
    intro t ht
    have hmem : Held.value t ∈ (labels text).map .value :=
      List.mem_map.2 ⟨t, List.mem_flatMap.2 ⟨piece, hpiece, ht⟩, rfl⟩
    simp (disch := decide) [hmem]
  rw [copiesItem_object]
  refine ⟨by simp, ?_⟩
  rw [copiesEntries_cons (by decide), copies_array, List.forall_mem_map]
  exact ⟨hbutton, copiesEntries_nil⟩

theorem copies_matrixNode : (matrixNode v s).Copies ((labels (v.text "rows")).map .value) := by
  simp (disch := decide) only [matrixNode, copies_branch, copiesEntries_append,
    copiesEntries_geometry, copiesEntries_cons, copies_matrixRows, copies_color, copies_opacity,
    copiesEntries_nil, and_self]

theorem copies_keyboardNode : (keyboardNode v s).Copies copied := by
  have hmode : (Held.value (keyboardMode v)).IsMute := by
    unfold keyboardMode
    dsimp only
    split
    · decide
    · exact isMute_word v "mode"
  simp (disch := decide) [keyboardNode, copies_branch, hmode]

end Entry

/-! ## Panels and pictures -/

namespace Panel

theorem copies_boxNode : (boxNode v s).Copies copied := by
  have hopacity : (Held.value (if v.flag "fill" = true then "COVER" else "TRANSP")).IsMute := by
    split <;> decide
  simp (disch := decide) [boxNode, copies_branch, hopacity]

theorem copies_tabNode : (tabNode v s).Copies ((tabNames v).map .value) := by
  have htab : ∀ name ∈ tabNames v, CopiesItem ((tabNames v).map .value)
      (.object [("name", .string name), ("widgets", .array [])]) := by
    intro name hname
    have hmem : Held.value name ∈ (tabNames v).map .value := List.mem_map.2 ⟨name, hname, rfl⟩
    simp (disch := decide) [hmem]
  have htabs : Copies ((tabNames v).map .value) (.array ((tabNames v).map fun name =>
      .object [("name", .string name), ("widgets", .array [])])) := by
    rw [copies_array, List.forall_mem_map]
    exact htab
  simp (disch := decide) only [tabNode, copies_branch, copiesEntries_append, copiesEntries_geometry,
    copiesEntries_cons, copies_color, copies_string, isMute_word, isMute_percent, htabs,
    copiesEntries_nil, true_or, and_self]

theorem copies_tileNode : (tileNode v s).Copies copied := by
  simp (disch := decide) [tileNode, copies_branch]

end Panel

namespace Picture

theorem copies_symbolNode :
    (symbolNode v s).Copies (unread (text? v) [.value (v.text "text")]) := by
  have htext : Copies (unread (text? v) [.value (v.text "text")]) (symbolText v) := by
    unfold symbolText
    split
    · next sensor hsensor =>
      exact copies_lambda
        (Lambda.quiet_reading (by decide) (reads_text? v sensor hsensor) (by decide))
    · next hnone =>
      rw [copies_text]
      exact Or.inl (mem_unread hnone (List.mem_singleton.2 rfl))
  simp (disch := decide) [symbolNode, copies_branch, htext]

theorem copies_imageNode : (imageNode v s).Copies [.value (imageSource v)] := by
  simp (disch := decide) [imageNode, copies_branch]

theorem copies_lineNode : (lineNode v s).Copies copied := by
  have hpoint : ∀ p ∈ linePoints v,
      CopiesItem copied (.object [("x", .int p.1), ("y", .int p.2)]) := by
    intro p _
    simp (disch := decide)
  have hpoints : Copies copied (.array ((linePoints v).map fun p =>
      .object [("x", .int p.1), ("y", .int p.2)])) := by
    rw [copies_array, List.forall_mem_map]
    exact hpoint
  simp (disch := decide) only [lineNode, copies_branch, copiesEntries_append, copiesEntries_geometry,
    copiesEntries_cons, hpoints, copies_atLeast, copies_color, copies_flag, copies_opacity,
    copiesEntries_nil, and_self]

end Picture

/-! ## Types of all modes -/

theorem Caption.copies_retained : (Caption.retained v s).Copies [.value (v.text "text")] := by
  have hback : CopiesEntries [.value (v.text "text")]
      (if (s.color (v.text "bg_color")).isTransparent then []
        else [("bg_color", .string (s.retained (v.text "bg_color"))), ("bg_opa", .string "COVER")]) := by
    split
    · exact copiesEntries_nil
    · simp (disch := decide)
  simp (disch := decide) [Caption.retained, copies_branch, hback]

namespace Readout

theorem copies_treeText : Copies (unread (sensor? v) (texts (treeText v))) (treeText v) := by
  cases hsensor : sensor? v with
  | none =>
    refine ⟨?_, fun held hheld => Or.inr hheld⟩
    unfold treeText
    rw [hsensor]
    rfl
  | some sensor =>
    have hconversion := oneLine_conversion (oneLine_sensorId hsensor) (places v)
    unfold treeText
    rw [hsensor]
    dsimp only
    refine copies_lambda ?_
    simp only [String.append_assoc]
    refine Line.quiet_of_lead (by decide : Line.opens "return str_sprintf(\"" = true) ?_
    simp +decide only [oneLine_append, Lambda.oneLine_escapeFormat, hconversion.1, hconversion.2]

theorem copies_retained :
    (retained v s).Copies (unread (sensor? v) (texts (treeText v))) := by
  simp (disch := decide) [retained, copies_branch, copies_treeText]

end Readout

/-- The time in a format is code of one line. -/
theorem Calendar.copies_treeTime {format : String} (h : OneLine format) :
    Copies copied (treeTime format) := by
  refine copies_lambda ?_
  simp only [String.append_assoc]
  refine Line.quiet_of_lead (by decide) ?_
  simp +decide only [oneLine_append, h]

theorem Clock.copies_retained : (Clock.retained v s).Copies copied := by
  unfold Clock.retained
  split
  next format font heq =>
  have hformat : OneLine format := by
    split at heq
    all_goals
      obtain ⟨rfl, -⟩ := Prod.mk.inj heq
      decide
  have htext : Copies copied
      (Node.lambda ("return id(" ++ Ledger.timeSource ++ ").now().strftime(\"" ++ format ++ "\");")) :=
    Calendar.copies_treeTime hformat
  simp (disch := decide) [copies_branch, htext]

namespace Symbol

/-- A glyph is too short for the tag. -/
theorem code?_glyph (code : String) : code? (Icon.glyph code) = none := by
  have hlength : (Icon.glyph code).toList.length ≤ 1 := by
    unfold Icon.glyph
    split
    · split
      · exact Nat.le_of_eq (by simp)
      · exact Nat.zero_le _
    · exact Nat.zero_le _
  rw [code?, Option.map_eq_none_iff]
  refine Line.after?_eq_none fun hpre => ?_
  have hle := hpre.length_le
  have htag : lambdaTag.toList.length = 8 := by decide
  omega

theorem copies_label {text : Json} (h : Copies copied text) : (label v s text).Copies copied := by
  simp (disch := decide) [label, copies_branch, h]

end Symbol

theorem WeatherSymbol.copies_retained : (WeatherSymbol.behaviour.retained v s).Copies copied := by
  refine Symbol.copies_label v s (copies_string.2 (Or.inl (isMute_join ?_)))
  rw [List.forall_mem_cons]
  exact ⟨quiet_readState v, plain_tiers.quiet_returnChain⟩

theorem Node.copies_childLabel {id : String} (hid : (Held.value id).IsMute) (y : Int) {text : Json}
    (htext : Copies copied text) {font color : String} (hfont : (Held.value font).IsMute)
    (hcolor : (Held.value color).IsMute) :
    CopiesItem copied (childLabel id y text font color) := by
  simp (disch := decide) [childLabel, copiesItem_of, hid, htext, hfont, hcolor]

theorem Gauge.copies_retained {g : Setup} (h : g.Plain) : (Gauge.retained g v s).Copies copied := by
  have hicon : Copies copied (Node.lambda
      (Text.join "\n" (readValue g v :: g.meter.tiers.returnChain g.meter.variableName))) := by
    refine copies_string.2 (Or.inl (isMute_join ?_))
    rw [List.forall_mem_cons]
    exact ⟨quiet_readValue h v, h.tiers.quiet_returnChain⟩
  have hvalue : Copies copied (Node.lambda
      ("return str_sprintf(\"" ++ g.meter.format ++ "\", " ++ Lambda.state (g.source v).id ++ ");")) := by
    have hstate := Lambda.oneLine_state (h.sourceId v)
    have hformat := h.format
    refine copies_lambda ?_
    simp only [String.append_assoc]
    refine Line.quiet_of_lead (by decide) ?_
    simp +decide only [oneLine_append, hformat, hstate]
  rintro node ⟨⟩
  rw [copiesItem_container, List.forall_mem_cons]
  constructor
  · exact copies_childLabel (v.isMute_identWith (by decide)) _ hicon (Icon.isMute_fontId _)
      (s.isMute_retained _)
  · split
    · rw [List.forall_mem_singleton]
      exact copies_childLabel (v.isMute_identWith (by decide)) _ hvalue (Font.isMute_id _)
        (s.isMute_retained _)
    · exact List.forall_mem_nil _

namespace ProgressBar

/-- What the row of a progress bar copies: its text, unless that is the code of a reading. -/
def copiedRow (v : View) : List Held :=
  if showsPercentage v then unread (sensor? v) (texts (rowText v)) else texts (rowText v)

theorem reads_sensor? : Reads (sensor? v) := reads_map (fun _ => .numeric) _

theorem copies_rowText : Copies (copiedRow v) (rowText v) := by
  unfold copiedRow
  by_cases hshows : showsPercentage v = true
  · -- The percentage comes from the sensor, or is a fixed one.
    rw [if_pos hshows]
    cases hsensor : sensor? v with
    | none =>
      refine ⟨?_, fun held hheld => Or.inr hheld⟩
      unfold rowText
      dsimp only
      rw [if_pos hshows, hsensor]
      rfl
    | some sensor =>
      have hstate := Lambda.oneLine_state (reads_sensor? v sensor hsensor)
      unfold rowText
      dsimp only
      rw [if_pos hshows, hsensor]
      refine copies_lambda ?_
      simp only [String.append_assoc]
      refine Line.quiet_of_lead (by decide : Line.opens "return str_sprintf(\"" = true) ?_
      simp +decide only [oneLine_append, Lambda.oneLine_escapeFormat, hstate]
  · rw [if_neg hshows]
    refine ⟨?_, fun held hheld => Or.inr hheld⟩
    unfold rowText
    dsimp only
    rw [if_neg hshows]
    rfl

theorem copies_retained : (retained v s).Copies (if hasRow v then copiedRow v else []) := by
  have htext := copies_rowText v
  have hvalue : Copies (if hasRow v then copiedRow v else []) (stateOr (sensor? v) (.int 0)) :=
    copies_stateOr (reads_sensor? v) fun _ => copies_number _
  rintro node ⟨⟩
  rw [copiesItem_container, List.forall_mem_append, List.forall_mem_singleton]
  constructor
  · split
    · rw [List.forall_mem_singleton]
      simp (disch := decide) [copiesItem_of, htext]
    · exact List.forall_mem_nil _
  · rw [copiesItem_of (by decide) (by decide)]
    simp (disch := decide) only [copiesEntries_cons, copies_string, View.isMute_identWith, copies_int,
      Surface.isMute_retained, copies_object, copiesEntries_nil, true_or, true_and, and_true]
    exact hvalue

end ProgressBar

theorem QrCode.copies_retained : (QrCode.retained v s).Copies [.value (v.text "value")] := by
  simp (disch := decide) [QrCode.retained, copies_branch]

theorem Shape.copies_treeBox (border radius : Int) : (Shape.treeBox v s border radius).Copies copied := by
  have hopacity : (Held.value (if isFilled v = true then "COVER" else "TRANSP")).IsMute := by
    split <;> decide
  simp (disch := decide) [Shape.treeBox, copies_branch, hopacity]

namespace StraightLine

/-- The characters of a point: digits, a minus and the comma between the numbers. -/
def isPointChar (c : Char) : Bool := c.isDigit || c == '-' || c == ','

theorem isPointChar_of_mem {n : Int} {c : Char} (hc : c ∈ (toString n).toList) :
    isPointChar c = true := by
  rcases Numeric.mem_toString_int hc with hdigit | rfl
  · simp [isPointChar, hdigit]
  · decide

/-- A point is too plain to be code or the identifier of a page. -/
theorem isMute_point {point : String} (h : ∀ c ∈ point.toList, isPointChar c = true) :
    (Held.item point).IsMute := by
  have hnot : ∀ c, isPointChar c = false → c ∉ point.toList := by
    intro c hother hc
    rw [h c hc] at hother
    cases hother
  refine isMute_item (code?_of_notMem (by decide : '!' ∈ lambdaTag.toList) ?_) fun hpre => ?_
  · exact hnot '!' (by decide)
  · exact hnot 'p' (by decide) (hpre.subset (by decide))

theorem copies_retained : (retained v s).Copies copied := by
  have hpoints : Copies copied (.array [.string "0,0",
      .string (if isVertical v then s!"0,{v.widget.height}" else s!"{v.widget.width},0")]) := by
    rw [copies_array, List.forall_mem_cons, List.forall_mem_singleton, copiesItem_string,
      copiesItem_string]
    refine ⟨Or.inl (by decide), Or.inl (isMute_point ?_)⟩
    split
    · rw [String.toList_append, List.forall_mem_append]
      exact ⟨List.all_eq_true.1 (by decide), fun c hc => isPointChar_of_mem hc⟩
    · rw [String.toList_append, List.forall_mem_append]
      exact ⟨fun c hc => isPointChar_of_mem hc, List.all_eq_true.1 (by decide)⟩
  unfold retained
  rw [copies_branch (by decide) (by decide)]
  simp (disch := decide) only [copiesEntries_cons, copies_string, View.isMute_ident, copies_int,
    hpoints, Surface.isMute_retained, copiesEntries_nil, true_or, and_self]

end StraightLine

theorem Image.Store.copies_retained {k : Store} {table : PropertyTable}
    {declare : View → Surroundings → String → List Component}
    (hfamily : Line.clash lambdaTag.toList k.family.toList = true) :
    ((k.behaviour table declare).retained v s).Copies copied := by
  dsimp only [Store.behaviour]
  split
  · next location hlocation =>
    have hid : (Held.value (k.id v location)).IsMute := by
      refine isMute_value ?_
      rw [Store.id, assetId]
      simp only [String.append_assoc]
      exact code?_of_clash hfamily _
    simp (disch := decide) [treeAsset, copies_branch, hid]
  · rintro node ⟨⟩

/-- The code of the grid of days has neither a comment nor a draw call in it. -/
theorem Calendar.quiet_gridCode : ∀ row ∈ gridCode, Line.Quiet row := by
  have hread : Line.Quiet readTime := by decide
  simp only [gridCode, firstColumn, List.forall_mem_append, List.forall_mem_cons]
  and_intros
  all_goals first
    | exact quiet_daysInMonth
    | exact (Line.silent_ofList (by decide +kernel)).quiet
    | exact List.forall_mem_nil _
    | exact hread

theorem Calendar.copies_retained : (Calendar.retained v s).Copies copied := by
  have hgrid : Copies copied (Node.lambda (Text.join "\n" gridCode)) :=
    copies_string.2 (Or.inl (isMute_join quiet_gridCode))
  have hchild : ∀ (suffix : String) (y : Int) {text : Json} (f : Font), IsWordText suffix →
      Copies copied text → CopiesItem copied
        (Node.childLabel (v.identWith suffix) y text f.id (s.retained (v.text "color"))) :=
    fun suffix y text f hsuffix htext =>
      copies_childLabel (v.isMute_identWith hsuffix) y htext f.isMute_id (s.isMute_retained _)
  rintro node ⟨⟩
  rw [copiesItem_container]
  simp only [List.forall_mem_cons]
  refine ⟨?_, ?_, ?_, ?_, List.forall_mem_nil _⟩
  · exact hchild "_date" _ _ (by decide) (copies_treeTime (by decide))
  · exact hchild "_day" _ _ (by decide) (copies_treeTime (by decide))
  · exact hchild "_month" _ _ (by decide) (copies_treeTime (by decide))
  · exact hchild "_grid" _ _ (by decide) hgrid

end Nodes

/-! ## All types -/

/-- The texts that the node of a widget copies: captions, options and labels as they stand, the
entity of a call, and what is shown where there is no reading. -/
def Kind.copied (k : Kind) (v : View) : List Held :=
  match k with
  | .text => [.value (v.text "text")]
  | .sensorText => Binding.unread (Readout.sensor? v) (texts (Readout.treeText v))
  | .progressBar => if ProgressBar.hasRow v then ProgressBar.copiedRow v else []
  | .qrCode => [.value (v.text "value")]
  | .button => .value (v.text "text") :: Binding.called v
  | .label => Binding.unread (Binding.any? v) [.value (v.text "text")]
  | .slider => Binding.called v
  | .switch => Binding.called v
  | .checkbox => .value (v.text "text") :: Binding.called v
  | .chart => [.value (v.text "title")]
  | .dropdown => (Node.linesOf v "options").map .item
  | .roller => (Node.linesOf v "options").map .item
  | .textarea => [.value (v.text "placeholder"), .value (v.text "text")]
  | .buttonMatrix => (Entry.labels (v.text "rows")).map .value
  | .qrSymbol => Binding.unread (Binding.text? v) [.value (v.text "text")]
  | .picture => [.value (Picture.imageSource v)]
  | .tabview => (Panel.tabNames v).map .value
  | _ => []

/-- **What a node does not copy from its widget is mute.** -/
theorem Kind.copies_branch [Qr.Encoder] (k : Kind) (v : View) (s : Surface) :
    (k.behaviour.retained v s).Copies (k.copied v) := by
  have hnone : ∀ copied, Branch.Copies copied {} := by
    rintro copied node ⟨⟩
  cases k with
  | text => exact Caption.copies_retained v s
  | sensorText => exact Readout.copies_retained v s
  | datetime => exact Clock.copies_retained v s
  | icon => exact Symbol.copies_label v s (copies_string.2 (Or.inl (isMute_value (Symbol.code?_glyph _))))
  | weatherIcon => exact WeatherSymbol.copies_retained v s
  | batteryIcon => exact Gauge.copies_retained v s BatteryGauge.plain_setup
  | wifiSignal => exact Gauge.copies_retained v s SignalGauge.plain_setup
  | progressBar => exact ProgressBar.copies_retained v s
  | qrCode => exact QrCode.copies_retained v s
  | shapeRect => exact Shape.copies_treeBox v s _ _
  | roundedRect => exact Shape.copies_treeBox v s _ _
  | shapeCircle => exact Shape.copies_treeBox v s _ _
  | line => exact StraightLine.copies_retained v s
  | image =>
    have hb : Kind.image.behaviour = Image.file.behaviour Image.fileTable Image.declareFile := rfl
    rw [hb]
    exact Image.Store.copies_retained v s (by decide)
  | onlineImage =>
    have hb : Kind.onlineImage.behaviour
        = Image.online.behaviour Image.onlineTable Image.declareOnline := rfl
    rw [hb]
    exact Image.Store.copies_retained v s (by decide)
  | touchArea => exact hnone _
  | calendar => exact Calendar.copies_retained v s
  | graph => exact hnone _
  | button => exact Control.copies_buttonNode v s
  | label => exact Control.copies_labelNode v s
  | arc => exact Control.copies_arcNode v s
  | bar => exact Control.copies_barNode v s
  | slider => exact Control.copies_sliderNode v s
  | switch => exact Control.copies_switchNode v s
  | checkbox => exact Control.copies_checkboxNode v s
  | led => exact Control.copies_ledNode v s
  | meter => exact Instrument.copies_meterNode v s
  | chart => exact Instrument.copies_chartNode v s
  | dropdown => exact Entry.copies_dropdownNode v s
  | roller => exact Entry.copies_rollerNode v s
  | textarea => exact Entry.copies_textareaNode v s
  | qrSymbol => exact Picture.copies_symbolNode v s
  | picture => exact Picture.copies_imageNode v s
  | polyline => exact Picture.copies_lineNode v s
  | box => exact Panel.copies_boxNode v s
  | buttonMatrix => exact Entry.copies_matrixNode v s
  | keyboard => exact Entry.copies_keyboardNode v s
  | spinbox => exact Entry.copies_spinboxNode v s
  | tabview => exact Panel.copies_tabNode v s
  | tileview => exact Panel.copies_tileNode v s
  | _ => exact hnone _

/-- The node of a widget, a placeholder if it has none, says nothing but what it copies. -/
theorem Kind.copies_retained [Qr.Encoder] (k : Kind) (v : View) (s : Surface) :
    CopiesItem (k.copied v) ((k.behaviour.retained v s).node.getD (PageTree.placeholder v)) := by
  cases hnode : (k.behaviour.retained v s).node with
  | some node => exact k.copies_branch v s node hnode
  | none =>
    rw [Option.getD_none, PageTree.placeholder, Node.copiesItem_of (by decide) (by decide)]
    simp (disch := decide)

end DisplayLayout
