import DisplayLayout.Proofs.Artifact.Nodes

/-!
# Entries of nodes

What holds of every entry of a node, at any depth (`Json.Keeps`). Two keys are
told apart from all others: under one stand identifiers, which the widget
derives from its own, and under the other one fonts, which most nodes do not
have (`Node.Allows`).
-/

namespace DisplayLayout

/-! ## Entries at any depth -/

namespace Json

/-- A tree of which every entry of every object satisfies `Q`. -/
def Keeps (Q : String → Json → Prop) (j : Json) : Prop :=
  ∀ entries ∈ j.objects, ∀ e ∈ entries, Q e.1 e.2

/-- Entries that satisfy `Q`, themselves and in their values. -/
def KeepsEntries (Q : String → Json → Prop) (entries : Node.Entries) : Prop :=
  ∀ e ∈ entries, Q e.1 e.2 ∧ Keeps Q e.2

variable {Q : String → Json → Prop}

@[simp] theorem keeps_string (s : String) : Keeps Q (.string s) := fun _ h => absurd h List.not_mem_nil

@[simp] theorem keeps_number (n : Number) : Keeps Q (.number n) := fun _ h => absurd h List.not_mem_nil

@[simp] theorem keeps_int (n : Int) : Keeps Q (.int n) := keeps_number _

@[simp] theorem keeps_bool (b : Bool) : Keeps Q (.bool b) := fun _ h => absurd h List.not_mem_nil

@[simp] theorem keeps_array {items : List Json} : Keeps Q (.array items) ↔ ∀ j ∈ items, Keeps Q j := by
  simp only [Keeps, objects_array, List.forall_mem_flatMap]

@[simp] theorem keeps_object {entries : Node.Entries} :
    Keeps Q (.object entries) ↔ KeepsEntries Q entries := by
  simp only [Keeps, KeepsEntries, objects_object, List.forall_mem_cons, List.forall_mem_flatMap,
    ← forall₂_and]

@[simp] theorem keepsEntries_nil : KeepsEntries Q [] := List.forall_mem_nil _

@[simp] theorem keepsEntries_cons {key : String} {j : Json} {entries : Node.Entries} :
    KeepsEntries Q ((key, j) :: entries) ↔ Q key j ∧ Keeps Q j ∧ KeepsEntries Q entries := by
  rw [KeepsEntries, List.forall_mem_cons, and_assoc]
  rfl

@[simp] theorem keepsEntries_append {entries more : Node.Entries} :
    KeepsEntries Q (entries ++ more) ↔ KeepsEntries Q entries ∧ KeepsEntries Q more :=
  List.forall_mem_append

end Json

open Json

/-- A node that keeps `Q`, if there is one. -/
def Branch.Keeps (Q : String → Json → Prop) (b : Branch) : Prop := ∀ node ∈ b.node, Json.Keeps Q node

/-! ## Parts of nodes -/

section Nodes

variable {Q : String → Json → Prop} (v : View) (s : Surface)

namespace Node

/-- What is added to the identifier of a widget in those of its node and of the parts of it. -/
def suffixes : List String :=
  ["", "_icon", "_value", "_label", "_bar", "_ind", "_date", "_day", "_month", "_grid"]

/-- Entries with any key but two are allowed, and so are identifiers made of that of the widget. -/
structure Allows (Q : String → Json → Prop) (v : View) : Prop where
  other : ∀ key j, key ≠ "id" → key ≠ "text_font" → Q key j
  ident : ∀ suffix ∈ suffixes, Q "id" (.string (v.identWith suffix))

@[simp] theorem keeps_of {kind : String} {entries : Entries} :
    Keeps Q (Node.of kind entries) ↔ Q kind (.object entries) ∧ KeepsEntries Q entries := by
  simp [Node.of]

theorem keeps_branch {kind : String} {entries : Entries} {uses : Drawing} :
    (branch kind entries uses).Keeps Q ↔ Q kind (.object entries) ∧ KeepsEntries Q entries := by
  rw [Branch.Keeps, branch]
  simp

@[simp] theorem keeps_lambda (code : String) : Keeps Q (lambda code) := keeps_string _

@[simp] theorem keeps_color (key : String) : Keeps Q (color v s key) := keeps_string _

@[simp] theorem keeps_atLeast (key : String) (least : Int) : Keeps Q (atLeast v key least) :=
  keeps_number _

@[simp] theorem keeps_flag (key : String) : Keeps Q (flag v key) := keeps_bool _

@[simp] theorem keeps_text (key : String) : Keeps Q (text v key) := keeps_string _

@[simp] theorem keeps_opacity : Keeps Q (opacity v) := by
  unfold opacity
  dsimp only
  split_ifs <;> exact keeps_string _

@[simp] theorem keeps_texts (ts : List String) : Keeps Q (texts ts) := by simp [texts]

variable {v}

theorem Allows.self (h : Allows Q v) : Q "id" (.string v.ident) := h.ident "" (by decide)

theorem Allows.keepsEntries_geometry (h : Allows Q v) : KeepsEntries Q (geometry v) := by
  simp [geometry, h.self, h.other]

theorem Allows.keeps_container (h : Allows Q v) {children : List Json}
    (hchildren : ∀ child ∈ children, Keeps Q child) : Keeps Q (container v children) := by
  simpa [container, h.keepsEntries_geometry, h.other] using hchildren

theorem Allows.keeps_placeholder (h : Allows Q v) : Keeps Q (PageTree.placeholder v) := by
  simp [PageTree.placeholder, h.keepsEntries_geometry, h.other]

end Node

open Node

namespace Binding

@[simp] theorem keeps_stateOr {sensor : Option Sensor} {fixed : Json} (h : Keeps Q fixed) :
    Keeps Q (stateOr sensor fixed) := by
  cases sensor with
  | none => exact h
  | some sensor => exact keeps_lambda _

@[simp] theorem keeps_countOr {sensor : Option Sensor} {fixed : Json} (h : Keeps Q fixed) :
    Keeps Q (countOr sensor fixed) := by
  cases sensor with
  | none => exact h
  | some sensor => exact keeps_lambda _

end Binding

open Binding

/-! ## Texts -/

theorem Readout.keeps_treeText : Keeps Q (Readout.treeText v) := by
  unfold treeText
  dsimp only
  split <;> exact keeps_string _

theorem ProgressBar.keeps_rowText : Keeps Q (ProgressBar.rowText v) := by
  unfold rowText
  dsimp only
  split
  · split <;> exact keeps_string _
  · exact keeps_string _

theorem Control.keeps_labelText : Keeps Q (Control.labelText v) := by
  unfold labelText
  split <;> exact keeps_string _

variable {v} (h : Node.Allows Q v)

include h

theorem Binding.keeps_service {name entity : String} {data : Entries} (hdata : KeepsEntries Q data) :
    Keeps Q (service name entity data) := by
  simp [service, h.other, hdata]

theorem Binding.keepsEntries_action {trigger : String} (htrigger : trigger ≠ "id" ∧ trigger ≠ "text_font")
    {call : String → Json} (hcall : ∀ e, Keeps Q (call e)) : KeepsEntries Q (action v trigger call) := by
  intro entry hentry
  obtain ⟨e, -, rfl⟩ := Option.map_eq_some_iff.1 (Option.mem_toList.1 hentry)
  exact ⟨h.other _ _ htrigger.1 htrigger.2, hcall e⟩

/-! ## Nodes without labels -/

namespace Control

theorem keepsEntries_range : KeepsEntries Q (range v) := by simp [range, h.other]

theorem keeps_filled (key : String) : Keeps Q (filled v s key) := by simp [filled, h.other]

theorem keeps_checkedState : Keeps Q (checkedState v) := by simp [checkedState, h.other]

theorem keeps_checkedMark : Keeps Q (checkedMark v s) := by
  simp [checkedMark, h.other, keeps_filled s h]

theorem keepsEntries_toggle {trigger : String} (htrigger : trigger ≠ "id" ∧ trigger ≠ "text_font") :
    KeepsEntries Q (toggle v trigger) :=
  keepsEntries_action h htrigger fun _ => keeps_service h keepsEntries_nil

theorem keeps_arcNode : (arcNode v s).Keeps Q := by
  simp [arcNode, value, angle, keeps_branch, h.other, h.keepsEntries_geometry, keepsEntries_range h]

theorem keeps_barNode : (barNode v s).Keeps Q := by
  simp [barNode, value, keeps_branch, h.other, h.keepsEntries_geometry, keepsEntries_range h,
    keeps_filled s h]

theorem keeps_sliderNode : (sliderNode v s).Keeps Q := by
  have hkey : ∀ e, (Setter.ofEntity e).key ≠ "id" ∧ (Setter.ofEntity e).key ≠ "text_font" := by
    intro e
    unfold Setter.ofEntity
    split <;> decide
  have hcall : ∀ e, Keeps Q (Setter.call e) := fun e =>
    keeps_service h (by simp [Setter.value, h.other, hkey])
  have hrelease := keepsEntries_action h (by decide : "on_release" ≠ "id" ∧ "on_release" ≠ "text_font") hcall
  simp [sliderNode, value, keeps_branch, h.other, h.keepsEntries_geometry, keepsEntries_range h,
    keeps_filled s h, hrelease]

theorem keeps_switchNode : (switchNode v s).Keeps Q := by
  simp [switchNode, keeps_branch, h.other, h.keepsEntries_geometry, keeps_checkedState h,
    keeps_checkedMark s h, keepsEntries_toggle h]

theorem keeps_checkboxNode : (checkboxNode v s).Keeps Q := by
  simp [checkboxNode, keeps_branch, h.other, h.keepsEntries_geometry, keeps_checkedState h,
    keeps_checkedMark s h, keepsEntries_toggle h]

theorem keeps_ledNode : (ledNode v s).Keeps Q := by
  have hbrightness : Keeps Q (ledBrightness v) := by
    unfold ledBrightness
    split <;> exact keeps_string _
  simp [ledNode, keeps_branch, h.other, h.keepsEntries_geometry, hbrightness]

end Control

namespace Instrument

theorem keeps_meterNode : (meterNode v s).Keeps Q := by
  have hneedle : Q "id" (.string (needleId v)) := h.ident "_ind" (by decide)
  simp [meterNode, scale, ticks, needle, keeps_branch, h.other, h.keepsEntries_geometry, hneedle]

theorem keeps_chartNode : (chartNode v s).Keeps Q := by
  simp [chartNode, keeps_branch, h.other, h.keepsEntries_geometry]

end Instrument

namespace Entry

theorem keeps_dropdownNode : (dropdownNode v s).Keeps Q := by
  simp [dropdownNode, selectedIndex, keeps_branch, h.other, h.keepsEntries_geometry]

theorem keeps_rollerNode : (rollerNode v s).Keeps Q := by
  simp [rollerNode, selectedIndex, keeps_branch, h.other, h.keepsEntries_geometry]

theorem keeps_textareaNode : (textareaNode v s).Keeps Q := by
  simp [textareaNode, keeps_branch, h.other, h.keepsEntries_geometry]

theorem keeps_spinboxNode : (spinboxNode v s).Keeps Q := by
  simp [spinboxNode, keeps_branch, h.other, h.keepsEntries_geometry]

theorem keeps_matrixNode : (matrixNode v s).Keeps Q := by
  have hrows : ∀ row ∈ matrixRows (v.text "rows"), Keeps Q row := by
    intro row hrow
    obtain ⟨texts, -, rfl⟩ := List.mem_map.1 hrow
    simp [h.other]
  simpa [matrixNode, keeps_branch, h.other, h.keepsEntries_geometry] using hrows

theorem keeps_keyboardNode : (keyboardNode v s).Keeps Q := by
  simp [keyboardNode, keeps_branch, h.other, h.keepsEntries_geometry]

end Entry

namespace Panel

theorem keeps_boxNode : (boxNode v s).Keeps Q := by
  simp [boxNode, keeps_branch, h.other, h.keepsEntries_geometry]

theorem keeps_tabNode : (tabNode v s).Keeps Q := by
  simp [tabNode, keeps_branch, h.other, h.keepsEntries_geometry]

theorem keeps_tileNode : (tileNode v s).Keeps Q := by
  simp [tileNode, keeps_branch, h.other, h.keepsEntries_geometry]

end Panel

namespace Picture

theorem keeps_symbolNode : (symbolNode v s).Keeps Q := by
  have htext : Keeps Q (symbolText v) := by
    unfold symbolText
    split <;> exact keeps_string _
  simp [symbolNode, keeps_branch, h.other, h.keepsEntries_geometry, htext]

theorem keeps_imageNode : (imageNode v s).Keeps Q := by
  simp [imageNode, keeps_branch, h.other, h.keepsEntries_geometry]

theorem keeps_lineNode : (lineNode v s).Keeps Q := by
  have hpoints : ∀ x y : Int, Keeps Q (.object [("x", .int x), ("y", .int y)]) := by
    simp [h.other]
  have hline : ∀ j x y, (x, y) ∈ linePoints v → Json.object [("x", .int x), ("y", .int y)] = j →
      Keeps Q j := by
    rintro _ x y - rfl
    exact hpoints x y
  simpa [lineNode, keeps_branch, h.other, h.keepsEntries_geometry] using hline

end Picture

theorem QrCode.keeps_retained : (QrCode.retained v s).Keeps Q := by
  simp [QrCode.retained, keeps_branch, h.self, h.other]

theorem Shape.keeps_treeBox (border radius : Int) : (Shape.treeBox v s border radius).Keeps Q := by
  simp [Shape.treeBox, keeps_branch, h.other, h.keepsEntries_geometry]

theorem StraightLine.keeps_retained : (StraightLine.retained v s).Keeps Q := by
  simp [StraightLine.retained, keeps_branch, h.self, h.other]

theorem Image.Store.keeps_retained {k : Store} {table : PropertyTable}
    {declare : View → Surroundings → String → List Component} :
    ((k.behaviour table declare).retained v s).Keeps Q := by
  dsimp only [Store.behaviour]
  split
  · simp [treeAsset, keeps_branch, h.self, h.other]
  · rintro node ⟨⟩

/-! ## Nodes with labels -/

section Labels

variable (hfont : ∀ j, Q "text_font" j)

include hfont

theorem Node.keeps_childLabel {id font color : String} {y : Int} {text : Json} (htext : Keeps Q text)
    (hid : Q "id" (.string id)) : Keeps Q (childLabel id y text font color) := by
  simp [childLabel, h.other, hfont, hid, htext]

theorem Caption.keeps_retained : (Caption.retained v s).Keeps Q := by
  have hback : KeepsEntries Q (if (s.color (v.text "bg_color")).isTransparent then []
      else [("bg_color", .string (s.retained (v.text "bg_color"))), ("bg_opa", .string "COVER")]) := by
    split
    · exact keepsEntries_nil
    · simp [h.other]
  simp [Caption.retained, keeps_branch, h.other, h.keepsEntries_geometry, hfont, hback]

theorem Readout.keeps_retained : (Readout.retained v s).Keeps Q := by
  simp [Readout.retained, keeps_branch, h.other, h.keepsEntries_geometry, hfont, keeps_treeText]

theorem Clock.keeps_retained : (Clock.retained v s).Keeps Q := by
  simp [Clock.retained, keeps_branch, h.other, h.keepsEntries_geometry, hfont]

theorem Calendar.keeps_retained : (Calendar.retained v s).Keeps Q := by
  rintro node ⟨⟩
  refine h.keeps_container ?_
  simp only [List.forall_mem_cons]
  exact ⟨keeps_childLabel h hfont (keeps_lambda _) (h.ident _ (by decide)),
    keeps_childLabel h hfont (keeps_lambda _) (h.ident _ (by decide)),
    keeps_childLabel h hfont (keeps_lambda _) (h.ident _ (by decide)),
    keeps_childLabel h hfont (keeps_lambda _) (h.ident _ (by decide)), List.forall_mem_nil _⟩

theorem Symbol.keeps_label {text : Json} (htext : Keeps Q text) : (Symbol.label v s text).Keeps Q := by
  simp [Symbol.label, keeps_branch, h.other, h.keepsEntries_geometry, hfont, htext]

theorem Gauge.keeps_retained (g : Setup) : (Gauge.retained g v s).Keeps Q := by
  rintro node ⟨⟩
  refine h.keeps_container ?_
  rw [List.forall_mem_cons]
  refine ⟨keeps_childLabel h hfont (keeps_lambda _) (h.ident _ (by decide)), ?_⟩
  split
  · exact List.forall_mem_singleton.2
      (keeps_childLabel h hfont (keeps_lambda _) (h.ident _ (by decide)))
  · exact List.forall_mem_nil _

theorem ProgressBar.keeps_retained : (ProgressBar.retained v s).Keeps Q := by
  have hlabel := h.ident "_label" (by decide)
  have hbar := h.ident "_bar" (by decide)
  rintro node ⟨⟩
  refine h.keeps_container (List.forall_mem_append.2 ⟨?_, List.forall_mem_singleton.2 ?_⟩)
  · split
    · simp [h.other, hfont, hlabel, keeps_rowText]
    · exact List.forall_mem_nil _
  · cases sensor? v <;> simp [h.other, hbar]

theorem Control.keeps_buttonNode : (buttonNode v s).Keeps Q := by
  have hclick := keepsEntries_action h (by decide : "on_click" ≠ "id" ∧ "on_click" ≠ "text_font")
    fun e => @keeps_service Q v h (pressService e) e [] keepsEntries_nil
  simp [buttonNode, keeps_branch, h.other, h.keepsEntries_geometry, hfont, hclick]

theorem Control.keeps_labelNode : (labelNode v s).Keeps Q := by
  simp [labelNode, keeps_branch, h.other, h.keepsEntries_geometry, hfont, keeps_labelText]

/-- **The entries of every node are allowed:** whatever the type is, its identifiers are made of that
of the widget. -/
theorem Kind.keeps_retained [Qr.Encoder] (k : Kind) : (k.behaviour.retained v s).Keeps Q := by
  have hnone : Branch.Keeps Q {} := by
    rintro node ⟨⟩
  cases k with
  | text => exact Caption.keeps_retained s h hfont
  | sensorText => exact Readout.keeps_retained s h hfont
  | datetime => exact Clock.keeps_retained s h hfont
  | icon => exact Symbol.keeps_label s h hfont (keeps_string _)
  | weatherIcon => exact Symbol.keeps_label s h hfont (keeps_lambda _)
  | batteryIcon => exact Gauge.keeps_retained s h hfont _
  | wifiSignal => exact Gauge.keeps_retained s h hfont _
  | progressBar => exact ProgressBar.keeps_retained s h hfont
  | qrCode => exact QrCode.keeps_retained s h
  | shapeRect => exact Shape.keeps_treeBox s h _ _
  | roundedRect => exact Shape.keeps_treeBox s h _ _
  | shapeCircle => exact Shape.keeps_treeBox s h _ _
  | line => exact StraightLine.keeps_retained s h
  | image =>
    dsimp only [Kind.behaviour, Image.fileBehaviour]
    exact Image.Store.keeps_retained s h
  | onlineImage =>
    dsimp only [Kind.behaviour, Image.onlineBehaviour]
    exact Image.Store.keeps_retained s h
  | calendar => exact Calendar.keeps_retained s h hfont
  | button => exact Control.keeps_buttonNode s h hfont
  | label => exact Control.keeps_labelNode s h hfont
  | arc => exact Control.keeps_arcNode s h
  | bar => exact Control.keeps_barNode s h
  | slider => exact Control.keeps_sliderNode s h
  | switch => exact Control.keeps_switchNode s h
  | checkbox => exact Control.keeps_checkboxNode s h
  | led => exact Control.keeps_ledNode s h
  | meter => exact Instrument.keeps_meterNode s h
  | chart => exact Instrument.keeps_chartNode s h
  | dropdown => exact Entry.keeps_dropdownNode s h
  | roller => exact Entry.keeps_rollerNode s h
  | textarea => exact Entry.keeps_textareaNode s h
  | qrSymbol => exact Picture.keeps_symbolNode s h
  | picture => exact Picture.keeps_imageNode s h
  | polyline => exact Picture.keeps_lineNode s h
  | box => exact Panel.keeps_boxNode s h
  | buttonMatrix => exact Entry.keeps_matrixNode s h
  | keyboard => exact Entry.keeps_keyboardNode s h
  | spinbox => exact Entry.keeps_spinboxNode s h
  | tabview => exact Panel.keeps_tabNode s h
  | tileview => exact Panel.keeps_tileNode s h
  | _ => exact hnone

end Labels

end Nodes

/-- The identifiers in the node of a widget are made of that of the widget. -/
theorem Kind.keeps_nodeOf [Qr.Encoder] {Q : String → Json → Prop} (k : Kind) (s : Surface)
    {w : Widget} (h : Node.Allows Q (w.view k.behaviour)) (hfont : ∀ j, Q "text_font" j) :
    Json.Keeps Q (PageTree.nodeOf k.behaviour s w) := by
  rw [PageTree.nodeOf]
  cases hnode : (k.behaviour.retained (w.view k.behaviour) s).node with
  | some node => exact k.keeps_retained s h hfont node hnode
  | none => exact h.keeps_placeholder

end DisplayLayout
