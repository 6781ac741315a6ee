import DisplayLayout.Proofs.Widget.Copied
import DisplayLayout.Proofs.Widget.Entries
import DisplayLayout.Proofs.Widget.Supplied

/-!
# Labelled nodes are supplied

A node of the widget tree is shown with a font if it names one, and then the
widget asks for that font; under an icon font it shows only glyphs that the
widget asks for at its size (`Kind.labels_retained`). Most nodes name no font.
-/

namespace DisplayLayout

open Text Lambda

/-! ## What a label needs -/

/-- The glyphs that a line of code names; none inside if it cannot be read. -/
def Lambda.lineGlyphs (cs : List Char) : List (Option Nat) :=
  match readCode cs with
  | some pieces => (literals pieces).flatMap glyphEscapes
  | none => [none]

/-- The glyphs that the text of a node shows: those that its code names, or its characters. -/
def Node.shownGlyphs (text : String) : List (Option Nat) :=
  match Yaml.code? text with
  | some code => (splitOn '\n' code.toList).flatMap lineGlyphs
  | none => text.toList.map fun c => some c.toNat

theorem Lambda.Fragment.lineGlyphs {G : Nat → Prop} {s : String} (h : Fragment (Shows G) s) :
    ∀ e ∈ Lambda.lineGlyphs s.toList, ∃ n, e = some n ∧ G n := by
  obtain ⟨pieces, h⟩ := h
  rw [Lambda.lineGlyphs, h.reads.readCode_eq]
  intro e he
  obtain ⟨text, htext, he⟩ := List.mem_flatMap.1 he
  exact h.literals text htext e he

/-- The font of an object is in use: a text font, or the icon font of a size, under which only
glyphs are shown that are in use. -/
def Drawing.Labels (d : Drawing) (entries : Node.Entries) (font : Json) : Prop :=
  (∃ f ∈ d.fonts, font = .string f.id)
    ∨ ∃ size, font = .string (Icon.fontId size) ∧ 0 < size ∧ (∃ n, d.ShowsAt size n)
      ∧ ∀ text, ("text", text) ∈ entries → ∃ t, text = .string t
        ∧ ∀ e ∈ Node.shownGlyphs t, ∃ n, e = some n ∧ d.ShowsAt size n

namespace Json

/-- The fonts of all objects in a tree are in use. -/
def Labelled (d : Drawing) (j : Json) : Prop :=
  ∀ entries ∈ j.objects, ∀ font, ("text_font", font) ∈ entries → d.Labels entries font

/-- A tree that names no font. -/
abbrev Bare : Json → Prop := Keeps fun key _ => key ≠ "text_font"

/-- Entries that name no font, themselves and in their values. -/
abbrev BareEntries : Node.Entries → Prop := KeepsEntries fun key _ => key ≠ "text_font"

variable {d : Drawing}

theorem Keeps.labelled {j : Json} (h : Bare j) : Labelled d j :=
  fun entries hentries _ hfont => absurd rfl (h entries hentries _ hfont)

/-- An object whose entries are labelled, and which names no font itself. -/
theorem labelled_object {entries : Node.Entries}
    (h : ∀ e ∈ entries, e.1 ≠ "text_font" ∧ Labelled d e.2) : Labelled d (.object entries) := by
  rw [Labelled, objects_object, List.forall_mem_cons, List.forall_mem_flatMap]
  exact ⟨fun _ hfont => absurd rfl (h _ hfont).1, fun e he => (h e he).2⟩

theorem labelled_array {items : List Json} (h : ∀ j ∈ items, Labelled d j) :
    Labelled d (.array items) := by
  simp only [Labelled, objects_array, List.forall_mem_flatMap]
  exact h

/-- Entries that name no font but one, and none in their values. -/
def NamesFont (font : String) (entries : Node.Entries) : Prop :=
  ∀ e ∈ entries, (e.1 = "text_font" → e.2 = .string font) ∧ Bare e.2

section NamesFont

variable {font : String}

@[simp] theorem namesFont_nil : NamesFont font [] := List.forall_mem_nil _

@[simp] theorem namesFont_cons {key : String} {j : Json} {entries : Node.Entries} :
    NamesFont font ((key, j) :: entries)
      ↔ (key = "text_font" → j = .string font) ∧ Bare j ∧ NamesFont font entries := by
  rw [NamesFont, List.forall_mem_cons, and_assoc]
  rfl

@[simp] theorem namesFont_append {entries more : Node.Entries} :
    NamesFont font (entries ++ more) ↔ NamesFont font entries ∧ NamesFont font more :=
  List.forall_mem_append

theorem KeepsEntries.namesFont {entries : Node.Entries} (h : BareEntries entries) :
    NamesFont font entries := fun e he => ⟨fun hkey => absurd hkey (h e he).1, (h e he).2⟩

/-- **An object with a font is labelled if the font is in use.** -/
theorem NamesFont.labelled {entries : Node.Entries} (h : NamesFont font entries)
    (hfont : d.Labels entries (.string font)) : Labelled d (.object entries) := by
  rw [Labelled, objects_object, List.forall_mem_cons, List.forall_mem_flatMap]
  refine ⟨fun other hother => ?_, fun e he => (h e he).2.labelled⟩
  have hsame : other = .string font := (h _ hother).1 rfl
  rw [hsame]
  exact hfont

end NamesFont

end Json

open Json

/-- A node that is labelled, if there is one. -/
def Branch.Labelled (d : Drawing) (b : Branch) : Prop := ∀ node ∈ b.node, Json.Labelled d node

/-- All entries but fonts are allowed in a node that names none. -/
theorem Node.allows_bare (v : View) : Node.Allows (fun key _ => key ≠ "text_font") v :=
  ⟨fun _ _ _ hkey => hkey, fun _ _ => by decide⟩

section Nodes

variable {d : Drawing} (v : View) (s : Surface)

namespace Node

theorem labelled_of {kind : String} (hkind : kind ≠ "text_font") {entries : Entries}
    (h : Labelled d (.object entries)) : Labelled d (Node.of kind entries) := by
  rw [Node.of, Json.Labelled, objects_object, List.forall_mem_cons, List.forall_mem_flatMap]
  refine ⟨fun font hfont => ?_, List.forall_mem_singleton.2 h⟩
  exact absurd (Prod.mk.inj (List.mem_singleton.1 hfont)).1.symm hkind

theorem labelled_branch {kind : String} (hkind : kind ≠ "text_font") {entries : Entries}
    {uses : Drawing} (h : Json.Labelled d (.object entries)) :
    (branch kind entries uses).Labelled d := by
  rintro node ⟨⟩
  exact labelled_of hkind h

theorem bareEntries_geometry : BareEntries (geometry v) := (allows_bare v).keepsEntries_geometry

@[simp] theorem namesFont_geometry {font : String} : NamesFont font (geometry v) :=
  (bareEntries_geometry v).namesFont

theorem labelled_container {children : List Json} (h : ∀ child ∈ children, Json.Labelled d child) :
    Json.Labelled d (container v children) := by
  refine labelled_of (by decide) (labelled_object (List.forall_mem_append.2 ⟨fun e he => ?_, ?_⟩))
  · have hbare := bareEntries_geometry v e he
    exact ⟨hbare.1, hbare.2.labelled⟩
  · simp only [List.forall_mem_cons]
    refine ⟨⟨by decide, ?_⟩, ⟨by decide, ?_⟩, ⟨by decide, ?_⟩, ⟨by decide, labelled_array h⟩,
      List.forall_mem_nil _⟩
    · exact (keeps_string _).labelled
    · exact (keeps_number _).labelled
    · exact (keeps_number _).labelled

/-- A label within a container. -/
theorem labelled_childLabel {id : String} {y : Int} {text : Json} {font color : String}
    (htext : Bare text)
    (h : ∀ entries, (∀ t, ("text", t) ∈ entries → t = text) → d.Labels entries (.string font)) :
    Json.Labelled d (childLabel id y text font color) := by
  refine labelled_of (by decide) (NamesFont.labelled ?_ (h _ fun t ht => ?_))
  · simp [htext]
  · simpa using ht

end Node

/-- A label with a text font that is in use. -/
theorem Drawing.labels_text {f : Font} (hf : f ∈ d.fonts) (entries : Node.Entries) :
    d.Labels entries (.string f.id) := Or.inl ⟨f, hf, rfl⟩

open Node Binding

/-! ## Captions and readings -/

theorem Caption.labelled_retained (hfont : font v ∈ d.fonts) : (Caption.retained v s).Labelled d := by
  have hback : BareEntries (if (s.color (v.text "bg_color")).isTransparent then []
      else [("bg_color", .string (s.retained (v.text "bg_color"))), ("bg_opa", .string "COVER")]) := by
    split
    · exact keepsEntries_nil
    · simp
  refine labelled_branch (by decide) (NamesFont.labelled ?_ (Drawing.labels_text hfont _))
  simp [hback.namesFont]

namespace Readout

theorem labelled_retained (hfont : valueFont v ∈ d.fonts) : (retained v s).Labelled d := by
  refine labelled_branch (by decide) (NamesFont.labelled ?_ (Drawing.labels_text hfont _))
  simp [keeps_treeText]

end Readout

theorem Clock.labelled_retained (htime : timeFont v ∈ d.fonts) (hdate : dateFont v ∈ d.fonts) :
    (Clock.retained v s).Labelled d := by
  have hlabel : ∀ (format : String) {f : Font}, f ∈ d.fonts →
      (Node.branch "label" (geometry v ++
        [("text", Node.lambda ("return id(" ++ Ledger.timeSource ++ ").now().strftime(\"" ++ format ++ "\");")),
          ("text_font", .string f.id), ("text_color", .string (s.retained (v.text "color"))),
          ("text_align", .string (v.align "text_align").retained)]) (fonts v)).Labelled d := by
    intro format f hf
    refine labelled_branch (by decide) (NamesFont.labelled ?_ (Drawing.labels_text hf _))
    simp
  unfold Clock.retained
  cases face v with
  | timeAndDate => exact hlabel _ htime
  | time => exact hlabel _ htime
  | date => exact hlabel _ hdate

theorem Calendar.labelled_retained (hdate : dateFont v ∈ d.fonts) (hday : dayFont v ∈ d.fonts)
    (hgrid : gridFont v ∈ d.fonts) : (Calendar.retained v s).Labelled d := by
  have hchild : ∀ {id : String} {y : Int} {code color : String} {f : Font}, f ∈ d.fonts →
      Json.Labelled d (childLabel id y (Node.lambda code) f.id color) := fun hf =>
    labelled_childLabel (keeps_lambda _) fun entries _ => Drawing.labels_text hf entries
  rintro node ⟨⟩
  refine labelled_container v ?_
  simp only [List.forall_mem_cons]
  exact ⟨hchild hdate, hchild hday, hchild hgrid, hchild hgrid, List.forall_mem_nil _⟩

/-! ## Symbols and gauges -/

/-- A text whose glyphs are in use. -/
def Drawing.ShowsText (d : Drawing) (size : Nat) (t : String) : Prop :=
  ∀ e ∈ Node.shownGlyphs t, ∃ n, e = some n ∧ d.ShowsAt size n

/-- Code of lines that name only glyphs in use. -/
theorem Drawing.showsText_lambda {size : Nat} {rows : List String} (hne : rows ≠ [])
    (honeLine : ∀ row ∈ rows, OneLine row)
    (h : ∀ row ∈ rows, Fragment (Shows (d.ShowsAt size)) row) :
    d.ShowsText size (Yaml.lambdaTag ++ Text.join "\n" rows) := by
  have hcode : Yaml.code? (Yaml.lambdaTag ++ Text.join "\n" rows) = some (Text.join "\n" rows) := by
    have hafter : Line.after? Yaml.lambdaTag (Yaml.lambdaTag ++ Text.join "\n" rows).toList
        = some (Text.join "\n" rows).toList := Line.after?_eq_some_iff.2 String.toList_append
    have hsome := congrArg (Option.map String.ofList) hafter
    rwa [Option.map_some, String.ofList_toList] at hsome
  intro e he
  rw [Node.shownGlyphs, hcode] at he
  dsimp only at he
  rw [splitOn_join hne honeLine, List.flatMap_map] at he
  obtain ⟨row, hrow, he⟩ := List.mem_flatMap.1 he
  exact (h row hrow).lineGlyphs e he

namespace Symbol

/-- The character of a codepoint. -/
theorem showsText_glyph {size : Nat} {code : String} (hmem : ⟨code, size⟩ ∈ d.glyphs)
    (hnormal : Icon.normalize? code = some code) : d.ShowsText size (Icon.glyph code) := by
  obtain ⟨n, hn⟩ := Icon.exists_readHex?_of_normalize? hnormal
  intro e he
  rw [Node.shownGlyphs, code?_glyph, Icon.glyph, hn] at he
  dsimp only at he
  split at he
  · next hvalid =>
    rw [String.toList_singleton, List.map_singleton, List.mem_singleton] at he
    refine ⟨n, ?_, code, hmem, hnormal, hn⟩
    rw [he, Char.ofNat, dif_pos hvalid]
    rfl
  · exact absurd he List.not_mem_nil

/-- A label with the icon font. -/
theorem labels_icon {size : Nat} {entries : Entries} {t : String} (hsize : 0 < size)
    (hused : ∃ n, d.ShowsAt size n) (hshows : d.ShowsText size t)
    (htext : ∀ text, ("text", text) ∈ entries → text = .string t) :
    d.Labels entries (.string (Icon.fontId size)) :=
  Or.inr ⟨size, rfl, hsize, hused, fun text hmem => ⟨t, htext text hmem, hshows⟩⟩

theorem labelled_label (hused : ∃ n, d.ShowsAt (Symbol.size v) n) {t : String}
    (hshows : d.ShowsText (Symbol.size v) t) : (label v s (.string t)).Labelled d := by
  refine labelled_branch (by decide) (@NamesFont.labelled d (Icon.fontId (size v)) _ ?_ ?_)
  · simp
  · refine labels_icon (v.size_pos _) hused hshows fun text hmem => ?_
    simpa [geometry] using hmem

theorem labelled_retained (hglyph : ⟨code v, Symbol.size v⟩ ∈ d.glyphs) :
    (behaviour.retained v s).Labelled d := by
  have hnormal := normalize?_code v
  exact labelled_label v s (Drawing.exists_showsAt hglyph hnormal) (showsText_glyph hglyph hnormal)

end Symbol

theorem WeatherSymbol.labelled_retained (hused : Tier.weather.InUse d (Symbol.size v)) :
    (behaviour.retained v s).Labelled d := by
  have hchain := TierTable.fragment_returnChain Tier.legible_weather hused
    (by decide : IsWordText "weather_state")
  refine Symbol.labelled_label v s (TierTable.exists_showsAt Tier.legible_weather hused)
    (Drawing.showsText_lambda (List.cons_ne_nil _ _) ?_ ?_)
  · rw [List.forall_mem_cons]
    exact ⟨(quiet_readState v).oneLine, fun row hrow => (plain_tiers.quiet_returnChain row hrow).oneLine⟩
  · rw [List.forall_mem_cons]
    exact ⟨fragment_readState v, hchain⟩

theorem Gauge.labelled_retained {g : Setup} (hplain : g.Plain) (h : g.Clear)
    (hused : g.meter.tiers.InUse d (Symbol.size v)) (hfont : g.showsValue v = true → font v ∈ d.fonts) :
    (Gauge.retained g v s).Labelled d := by
  have hchain := TierTable.fragment_returnChain h.legible hused h.name
  have hshows : d.ShowsText (Symbol.size v) (Yaml.lambdaTag
      ++ Text.join "\n" (readValue g v :: g.meter.tiers.returnChain g.meter.variableName)) := by
    refine Drawing.showsText_lambda (List.cons_ne_nil _ _) ?_ ?_
    · rw [List.forall_mem_cons]
      exact ⟨(quiet_readValue hplain v).oneLine, fun row hrow =>
        (hplain.tiers.quiet_returnChain row hrow).oneLine⟩
    · rw [List.forall_mem_cons]
      exact ⟨fragment_readValue h v, hchain⟩
  rintro node ⟨⟩
  refine labelled_container v ?_
  rw [List.forall_mem_cons]
  constructor
  · refine labelled_childLabel (keeps_lambda _) fun entries hentries => ?_
    exact Symbol.labels_icon (v.size_pos _) (TierTable.exists_showsAt h.legible hused) hshows hentries
  · split
    · next hvalue =>
      rw [List.forall_mem_singleton]
      exact labelled_childLabel (keeps_lambda _) fun entries _ => Drawing.labels_text (hfont hvalue) entries
    · exact List.forall_mem_nil _

/-- What a gauge requires is all that its node shows. -/
theorem Gauge.labelled_requirements {g : Setup} (hplain : g.Plain) (h : g.Clear) {uses : Drawing} :
    (Gauge.retained g v s).Labelled (requirements g v ++ uses) := by
  refine labelled_retained v s hplain h (fun code hcode => ?_) fun hvalue => ?_
  · exact List.mem_append_left _ (List.mem_append_left _ (List.mem_map_of_mem hcode))
  · refine List.mem_append_left _ (List.mem_append_right _ ?_)
    rw [hvalue]
    exact List.mem_singleton_self _

/-! ## Controls -/

namespace Control

theorem labelled_buttonNode (hfont : buttonFont ∈ d.fonts) : (buttonNode v s).Labelled d := by
  have hlabel : Json.Labelled d (Node.of "label" [("align", .string "CENTER"),
      ("text", .string (v.text "text")), ("text_font", .string buttonFont.id),
      ("text_color", Node.color v s "color")]) := by
    refine labelled_of (by decide) (NamesFont.labelled ?_ (Drawing.labels_text hfont _))
    simp
  have hclick : BareEntries (action v "on_click" fun e => service (pressService e) e []) :=
    keepsEntries_action (allows_bare v) (by decide) fun _ =>
      keeps_service (allows_bare v) keepsEntries_nil
  refine labelled_branch (by decide) (labelled_object ?_)
  simp only [List.forall_mem_append, List.forall_mem_cons]
  refine ⟨⟨fun e he => ?_, ⟨by decide, ?_⟩, ⟨by decide, ?_⟩, ⟨by decide, ?_⟩, ⟨by decide, ?_⟩,
    ⟨by decide, labelled_array (List.forall_mem_singleton.2 hlabel)⟩, List.forall_mem_nil _⟩,
    fun e he => ⟨(hclick e he).1, (hclick e he).2.labelled⟩⟩
  · have hbare := bareEntries_geometry v e he
    exact ⟨hbare.1, hbare.2.labelled⟩
  · exact (keeps_color v s _).labelled
  · exact (keeps_atLeast v _ _).labelled
  · exact (keeps_color v s _).labelled
  · exact (keeps_atLeast v _ _).labelled

theorem labelled_labelNode (hfont : labelFont v ∈ d.fonts) : (labelNode v s).Labelled d := by
  refine labelled_branch (by decide) (NamesFont.labelled ?_ (Drawing.labels_text hfont _))
  simp [keeps_labelText]

end Control

theorem ProgressBar.labelled_retained (hfont : hasRow v = true → font v ∈ d.fonts) :
    (ProgressBar.retained v s).Labelled d := by
  rintro node ⟨⟩
  refine labelled_container v (List.forall_mem_append.2 ⟨?_, List.forall_mem_singleton.2 ?_⟩)
  · split
    · next hshown =>
      rw [List.forall_mem_singleton]
      refine labelled_of (by decide) (NamesFont.labelled ?_ (Drawing.labels_text (hfont hshown) _))
      simp [keeps_rowText]
    · exact List.forall_mem_nil _
  · refine Keeps.labelled (keeps_of.2 ⟨by decide, ?_⟩)
    cases sensor? v <;> simp

end Nodes

/-! ## All types -/

/-- **The node of a widget is supplied:** it names only fonts and glyphs that the widget asks for. -/
theorem Kind.labels_retained [Qr.Encoder] (k : Kind) (v : View) (s : Surface) :
    (k.behaviour.retained v s).Labelled
      (k.behaviour.requirements v ++ (k.behaviour.retained v s).uses) := by
  have hfonts : ∀ {x y : Drawing} {f : Font}, f ∈ x.fonts → f ∈ (x ++ y).fonts := fun h =>
    List.mem_append_left _ h
  have hused : ∀ {x y : Drawing} {f : Font}, f ∈ y.fonts → f ∈ (x ++ y).fonts := fun h =>
    List.mem_append_right _ h
  have hglyphs : ∀ {x y : Drawing} {g : Glyph}, g ∈ x.glyphs → g ∈ (x ++ y).glyphs := fun h =>
    List.mem_append_left _ h
  have hbare : ∀ {b : Branch} {d : Drawing}, b.Keeps (fun key _ => key ≠ "text_font") → b.Labelled d :=
    fun h node hnode => (h node hnode).labelled
  have hallows := Node.allows_bare v
  have hnone : ∀ {d : Drawing}, Branch.Labelled d {} := by
    rintro d node ⟨⟩
  cases k with
  | text => exact Caption.labelled_retained v s (hfonts (List.mem_singleton_self _))
  | sensorText =>
    exact Readout.labelled_retained v s (hfonts (List.mem_cons_of_mem _ (List.mem_singleton_self _)))
  | datetime =>
    exact Clock.labelled_retained v s (hfonts List.mem_cons_self)
      (hfonts (List.mem_cons_of_mem _ (List.mem_singleton_self _)))
  | icon => exact Symbol.labelled_retained v s (hglyphs (List.mem_singleton_self _))
  | weatherIcon =>
    exact WeatherSymbol.labelled_retained v s fun code hcode => hglyphs (List.mem_map_of_mem hcode)
  | batteryIcon =>
    exact Gauge.labelled_requirements v s BatteryGauge.plain_setup BatteryGauge.clear_setup
  | wifiSignal =>
    exact Gauge.labelled_requirements v s SignalGauge.plain_setup SignalGauge.clear_setup
  | progressBar =>
    refine ProgressBar.labelled_retained v s fun hrow => hused ?_
    show ProgressBar.font v ∈ (Drawing.when (ProgressBar.hasRow v) (.font (ProgressBar.font v))).fonts
    rw [hrow]
    exact List.mem_singleton_self _
  | qrCode => exact hbare (QrCode.keeps_retained s hallows)
  | shapeRect => exact hbare (Shape.keeps_treeBox s hallows _ _)
  | roundedRect => exact hbare (Shape.keeps_treeBox s hallows _ _)
  | shapeCircle => exact hbare (Shape.keeps_treeBox s hallows _ _)
  | line => exact hbare (StraightLine.keeps_retained s hallows)
  | image =>
    dsimp only [Kind.behaviour, Image.fileBehaviour]
    exact hbare (Image.Store.keeps_retained s hallows)
  | onlineImage =>
    dsimp only [Kind.behaviour, Image.onlineBehaviour]
    exact hbare (Image.Store.keeps_retained s hallows)
  | touchArea => exact hnone
  | calendar =>
    refine Calendar.labelled_retained v s (hfonts List.mem_cons_self) ?_ ?_
    · exact hfonts (List.mem_cons_of_mem _ List.mem_cons_self)
    · exact hfonts (List.mem_cons_of_mem _ (List.mem_cons_of_mem _ List.mem_cons_self))
  | graph => exact hnone
  | button => exact Control.labelled_buttonNode v s (hfonts (List.mem_singleton_self _))
  | label => exact Control.labelled_labelNode v s (hfonts (List.mem_singleton_self _))
  | arc => exact hbare (Control.keeps_arcNode s hallows)
  | bar => exact hbare (Control.keeps_barNode s hallows)
  | slider => exact hbare (Control.keeps_sliderNode s hallows)
  | switch => exact hbare (Control.keeps_switchNode s hallows)
  | checkbox => exact hbare (Control.keeps_checkboxNode s hallows)
  | led => exact hbare (Control.keeps_ledNode s hallows)
  | meter => exact hbare (Instrument.keeps_meterNode s hallows)
  | chart => exact hbare (Instrument.keeps_chartNode s hallows)
  | dropdown => exact hbare (Entry.keeps_dropdownNode s hallows)
  | roller => exact hbare (Entry.keeps_rollerNode s hallows)
  | textarea => exact hbare (Entry.keeps_textareaNode s hallows)
  | qrSymbol => exact hbare (Picture.keeps_symbolNode s hallows)
  | picture => exact hbare (Picture.keeps_imageNode s hallows)
  | polyline => exact hbare (Picture.keeps_lineNode s hallows)
  | box => exact hbare (Panel.keeps_boxNode s hallows)
  | buttonMatrix => exact hbare (Entry.keeps_matrixNode s hallows)
  | keyboard => exact hbare (Entry.keeps_keyboardNode s hallows)
  | spinbox => exact hbare (Entry.keeps_spinboxNode s hallows)
  | tabview => exact hbare (Panel.keeps_tabNode s hallows)
  | tileview => exact hbare (Panel.keeps_tileNode s hallows)
  | _ => exact hnone

/-- The node of a widget in a document, a placeholder if it shows none. -/
theorem Kind.labelled_nodeOf [Qr.Encoder] (k : Kind) (s : Surface) (w : Widget) :
    Json.Labelled (k.behaviour.requirements (w.view k.behaviour)
      ++ (k.behaviour.retained (w.view k.behaviour) s).uses) (PageTree.nodeOf k.behaviour s w) := by
  rw [PageTree.nodeOf]
  cases hnode : (k.behaviour.retained (w.view k.behaviour) s).node with
  | some node => exact k.labels_retained _ s node hnode
  | none =>
    rw [Option.getD_none]
    exact (Node.allows_bare (w.view k.behaviour)).keeps_placeholder.labelled

end DisplayLayout
