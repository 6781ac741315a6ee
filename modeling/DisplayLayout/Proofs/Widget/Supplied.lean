import DisplayLayout.Catalogue
import DisplayLayout.Proofs.Lambda.Call
import DisplayLayout.Proofs.Tier

/-!
# Drawn widgets are supplied

Whatever its texts are, a widget draws a passage that ends at the depth at which
it begins, and what it draws with is in use: the fonts of its text calls, and
every glyph that its statements can choose (`Kind.covers_direct`). Each widget
draws glyphs at one size at most.
-/

namespace DisplayLayout

open Text Lambda

variable {d : Drawing} {size a : Nat}

/-! ## Glyphs in use -/

theorem View.size_pos (v : View) (key : String) : 0 < v.size key 1 := by
  have hmax : (0 : Nat) < Numeric.maxWord32 := by decide
  unfold View.size
  omega

theorem Drawing.exists_showsAt {code : String} (hmem : ⟨code, size⟩ ∈ d.glyphs)
    (hcode : Icon.normalize? code = some code) : ∃ n, d.ShowsAt size n := by
  obtain ⟨n, hn⟩ := Icon.exists_readHex?_of_normalize? hcode
  exact ⟨n, code, hmem, hcode, hn⟩

/-! ## Texts -/

namespace Caption

theorem covers_background (v : View) (s : Surface) (hused : (background v s).helpers ⊆ d.helpers) :
    d.Covers size a a (background v s).lines := by
  unfold background at hused ⊢
  dsimp only at hused ⊢
  split
  · exact Passage.nil
  · next hshown =>
    rw [if_neg hshown] at hused
    rcases s.paint_cases (v.text "bg_color") with h | h <;> rw [h] at hused ⊢
    · exact DitherShape.covers_statements (.rect v.box) (hused List.mem_cons_self)
    · exact Passage.ofFragment (.shape (by decide) _ (s.isColor_direct _))

theorem covers_direct (v : View) (s : Surface) (hfont : font v ∈ d.fonts)
    (hused : (direct v s).helpers ⊆ d.helpers) : d.Covers size a a (direct v s).lines := by
  have hback : (background v s).helpers ⊆ d.helpers := fun h hh =>
    hused (List.mem_append_left _ (List.mem_append_left _ hh))
  unfold direct
  dsimp only
  refine ((covers_background v s hback).append Passage.nil).append (Passage.ofLines fun row hrow => ?_)
  obtain ⟨⟨text, y⟩, -, rfl⟩ := List.mem_map.1 hrow
  exact covers_print (.of hfont (s.isColor_direct _)) _

end Caption

namespace Readout

theorem isWordText_sensorId {v : View} {sensor : Sensor} (h : sensor? v = some sensor) :
    IsWordText sensor.id := by
  obtain ⟨entity, -, rfl⟩ := Option.map_eq_some_iff.1 h
  exact Sensor.isWordText_id_of _ _

/-- The conversion of a reading stands in a format, and its argument in a call. -/
theorem content_conversion (sensor : Sensor) (places : Int) :
    Content (conversion sensor places).1.toList := by
  have hdigits : Content (toString places).toList := Content.chars fun c hc => by
    rcases Numeric.mem_toString_int hc with hdigit | rfl
    · constructor <;> rintro rfl <;> cases hdigit
    · decide
  unfold conversion
  dsimp only
  split
  · have hmark : s!"%.{places}f".toList = "%.".toList ++ (toString places).toList ++ "f".toList := by
      simp
      rfl
    rw [hmark]
    exact ((Content.known (by decide)).append hdigits).append (Content.known (by decide))
  all_goals
    show Content "%s".toList
    exact Content.known (by decide)

theorem fragment_conversion {sensor : Sensor} (h : IsWordText sensor.id) (places : Int)
    {G : Nat → Prop} : Fragment (Shows G) (conversion sensor places).2 := by
  unfold conversion
  dsimp only
  split
  · exact .state h
  · exact .append (.state h) (.bare (by decide))
  · exact .append (.state h) (.mute (by decide))

theorem covers_valueCall (v : View) {style : TextStyle} (hstyle : style.Supplied d) (label : String) :
    d.Covers size a a [valueCall v style label] := by
  unfold valueCall
  split
  · next sensor hsensor =>
    have hid := isWordText_sensorId hsensor
    refine covers_printf hstyle ?_ (fragment_conversion hid (places v))
    simp only [String.toList_append]
    exact (((content_escapeFormat _).append (content_escapeFormat _)).append
      (content_conversion sensor (places v))).append (content_escapeFormat _)
  · exact covers_print hstyle _

theorem covers_direct (v : View) (s : Surface) (hlabel : labelFont v ∈ d.fonts)
    (hvalue : valueFont v ∈ d.fonts) :
    d.Covers size a a (direct v s).lines := by
  have hcolor := s.isColor_direct (v.text "color")
  unfold direct
  dsimp only
  refine Passage.append Passage.nil ?_
  split
  · exact covers_valueCall v (.of hvalue hcolor) _
  · exact covers_valueCall v (.of hvalue hcolor) _
  · exact (covers_print (.of hlabel hcolor) _).append (covers_valueCall v (.of hvalue hcolor) _)

end Readout

namespace Clock

theorem covers_direct (v : View) (s : Surface) (htime : timeFont v ∈ d.fonts)
    (hdate : dateFont v ∈ d.fonts) :
    d.Covers size 0 0 (direct v s).lines := by
  have hcolor := s.isColor_direct (v.text "color")
  have hopen : d.Covers size 0 1 ["\x7b", "  auto now = id(" ++ Ledger.timeSource ++ ").now();"] :=
    .cons 1 (by decide) (.ofFragment (.insert (.bare (by decide)) (.word (by decide)) (.bare (by decide))))
  have hclose : d.Covers size 1 0 ["\x7d"] := .known (by decide)
  unfold direct
  dsimp only
  refine Passage.append Passage.nil ((hopen.append ?_).append hclose)
  refine Passage.indent ?_
  split
  · exact (covers_strftime (.of htime hcolor) (.known (by decide))).append
      (covers_strftime (.of hdate hcolor) (.known (by decide)))
  · exact covers_strftime (.of htime hcolor) (.known (by decide))
  · exact covers_strftime (.of hdate hcolor) (.known (by decide))

end Clock

/-! ## Symbols -/

namespace Symbol

theorem isColor_style (v : View) (s : Surface) (y : Int) : IsColor (style v s y).color := by
  unfold style
  dsimp only
  exact s.isColor_direct _

/-- The call of a symbol. -/
theorem covers_styledCall (v : View) (s : Surface) (y : Int)
    (hused : ∃ n, d.ShowsAt (Symbol.size v) n) {glyph : String}
    (hglyph : Fragment (IsGlyph (d.ShowsAt (Symbol.size v))) glyph) :
    d.Covers (Symbol.size v) a a
      [glyphCall (style v s y) glyph] :=
  covers_glyphCall rfl (v.size_pos _) (isColor_style v s y) hused hglyph

theorem normalize?_code (v : View) : Icon.normalize? (code v) = some (code v) := by
  unfold code
  cases h : Icon.normalize? (v.text "code") with
  | none => exact (by decide : Icon.normalize? defaultCode = some defaultCode)
  | some code => exact Icon.normalize?_idem h

theorem covers_direct (v : View) (s : Surface) (hglyph : ⟨code v, Symbol.size v⟩ ∈ d.glyphs) :
    d.Covers (Symbol.size v) a a
      (behaviour.direct v s).lines := by
  have hcode := normalize?_code v
  refine covers_styledCall v s _ (Drawing.exists_showsAt hglyph hcode) ?_
  exact Fragment.glyph hcode fun n hn => ⟨code v, hglyph, hcode, hn⟩

end Symbol

/-! ## Tiers -/

namespace TierTable

/-- The glyphs of a table are in use at a size. -/
def InUse (t : TierTable) (d : Drawing) (size : Nat) : Prop := ∀ code ∈ t.codes, ⟨code, size⟩ ∈ d.glyphs

variable {t : TierTable} (hlegible : t.Legible) (hused : t.InUse d size)

include hlegible hused

theorem exists_showsAt : ∃ n, d.ShowsAt size n :=
  Drawing.exists_showsAt (hused _ (mem_codes fallback_mem_all)) (hlegible.codes _ fallback_mem_all)

theorem fragment_literal {tier : Tier} (hmem : tier ∈ t.all) :
    Fragment (Shows (d.ShowsAt size)) (literal tier) := by
  have hcode := hlegible.codes tier hmem
  exact (Fragment.glyph hcode fun n hn => ⟨_, hused _ (mem_codes hmem), hcode, hn⟩).mono fun _ h => h.shows

omit hused in
/-- A test stands in a condition, if it is of a table that can be read. -/
theorem fragment_cppTest {G : Nat → Prop} {p : TierTest × Tier} (hp : p ∈ t.tiers) {subject : String}
    (hsubject : IsWordText subject) : Fragment (Shows G) (cppTest subject p.1) := by
  have htest := hlegible.tests p hp
  unfold cppTest
  split
  · exact .append (.append (.word hsubject) (.bare (by decide))) (.int _)
  · next s heq =>
    rw [heq] at htest
    have hquoted : subject ++ " == \"" ++ s ++ "\"" = subject ++ " == " ++ ("\"" ++ s ++ "\"") := by
      rw [← String.toList_inj]
      simp
    have hcontent : Content s.toList := Content.chars fun c hc => by
      have hname := List.all_eq_true.1 htest c hc
      constructor <;> rintro rfl <;> cases hname
    rw [hquoted]
    exact .append (.append (.word hsubject) (.bare (by decide)))
      (.literal hcontent.continues hcontent.shows)

/-- **The statements that choose a glyph** name only glyphs that are in use. -/
theorem fragment_assignChain {subject target : String} (hsubject : IsWordText subject)
    (htarget : IsWordText target) :
    ∀ line ∈ t.assignChain subject target, Fragment (Shows (d.ShowsAt size)) line := by
  refine List.forall_mem_append.2 ⟨fun line hline => ?_, List.forall_mem_singleton.2 ?_⟩
  · obtain ⟨⟨lead, test, tier⟩, hmem, rfl⟩ := List.mem_map.1 hline
    obtain ⟨hlead, hp⟩ := mem_leads hmem
    have hopen : Fragment (Shows (d.ShowsAt size)) (lead ++ " (") := by
      rcases hlead with rfl | rfl <;> exact .bare (by decide)
    have htest := fragment_cppTest (G := d.ShowsAt size) hlegible hp hsubject
    have hglyph := fragment_literal hlegible hused (mem_all_of_mem_tiers hp)
    exact .insert (.insert (.insert hopen htest (.bare (by decide))) (.word htarget)
      (.bare (by decide))) hglyph (.bare (by decide))
  · have hglyph := fragment_literal hlegible hused fallback_mem_all
    exact .insert (.insert (.bare (by decide)) (.word htarget) (.bare (by decide))) hglyph
      (.bare (by decide))

/-- The statements that return a glyph. -/
theorem fragment_returnChain {subject : String} (hsubject : IsWordText subject) :
    ∀ line ∈ t.returnChain subject, Fragment (Shows (d.ShowsAt size)) line := by
  refine List.forall_mem_append.2 ⟨fun line hline => ?_, List.forall_mem_singleton.2 ?_⟩
  · obtain ⟨⟨test, tier⟩, hp, rfl⟩ := List.mem_map.1 hline
    have htest := fragment_cppTest (G := d.ShowsAt size) hlegible hp hsubject
    have hglyph := fragment_literal hlegible hused (mem_all_of_mem_tiers hp)
    exact .insert (.insert (.bare (by decide)) htest (.bare (by decide))) hglyph (.bare (by decide))
  · have hglyph := fragment_literal hlegible hused fallback_mem_all
    exact .insert (.bare (by decide)) hglyph (.bare (by decide))

end TierTable

namespace WeatherSymbol

theorem fragment_readState (v : View) {G : Nat → Prop} : Fragment (Shows G) (readState v) :=
  .insert (.bare (by decide)) (.state (Sensor.isWordText_id_of _ _)) (.bare (by decide))

theorem covers_direct (v : View) (s : Surface) (hused : Tier.weather.InUse d (Symbol.size v)) :
    d.Covers (Symbol.size v) 0 0 (direct v s).lines := by
  have hchain := TierTable.fragment_assignChain Tier.legible_weather hused
    (by decide : IsWordText "weather_state") (by decide : IsWordText "weather_glyph")
  have hcall := @Symbol.covers_styledCall d 1 v s (Symbol.top v (Symbol.size v))
    (TierTable.exists_showsAt Tier.legible_weather hused) "weather_glyph" (.bare (by decide))
  have hopen : d.Covers (Symbol.size v) 0 1 ["\x7b"] := .known (by decide)
  have hdeclare : d.Covers (Symbol.size v) 1 1 ["  const char *weather_glyph;"] := .known (by decide)
  have hclose : d.Covers (Symbol.size v) 1 0 ["\x7d"] := .known (by decide)
  have hhead := hopen.append ((Passage.ofFragment (fragment_readState v)).indent.append hdeclare)
  exact (hhead.append (Passage.ofFragments hchain).indent).append (hcall.indent.append hclose)

end WeatherSymbol

/-! ## Gauges -/

namespace Gauge

/-- A gauge whose tiers can be read, and whose names and format disturb nothing. -/
structure Setup.Clear (g : Setup) : Prop where
  legible : g.meter.tiers.Legible
  name : IsWordText g.meter.variableName
  format : Content g.meter.format.toList
  sourceId : ∀ v, IsWordText (g.source v).id

theorem fragment_readValue {g : Setup} (h : g.Clear) (v : View) {T : List Char → Prop} :
    Fragment T (readValue g v) :=
  .insert (.insert (.bare (by decide)) (.word h.name) (.bare (by decide))) (.state (h.sourceId v))
    (.bare (by decide))

theorem covers_direct {g : Setup} (h : g.Clear) (v : View) (s : Surface)
    (hused : g.meter.tiers.InUse d (Symbol.size v)) (hfont : g.showsValue v = true → font v ∈ d.fonts) :
    d.Covers (Symbol.size v) 0 0 (direct g v s).lines := by
  have hglyph : IsWordText (g.meter.variableName ++ "_glyph") := isWordText_append.2 ⟨h.name, by decide⟩
  have hchain := TierTable.fragment_assignChain h.legible hused h.name hglyph
  have hopen : d.Covers (Symbol.size v) 0 1 ["\x7b"] := .known (by decide)
  have hdeclare : d.Covers (Symbol.size v) 1 1
      ["  const char *" ++ (g.meter.variableName ++ "_glyph") ++ ";"] :=
    .ofFragment (.insert (.bare (by decide)) (.word hglyph) (.bare (by decide)))
  have hcall := @Symbol.covers_styledCall d 1 v s (v.widget.y + (stackOffsets g v).1)
    (TierTable.exists_showsAt h.legible hused) _ (.word hglyph)
  have hclose : d.Covers (Symbol.size v) 1 0 ["\x7d"] := .known (by decide)
  have hhead := hopen.append ((Passage.ofFragment (fragment_readValue h v)).indent.append hdeclare)
  have hfront := (hhead.append (Passage.ofFragments hchain).indent).append hcall.indent
  unfold direct
  dsimp only
  refine Passage.append ?events ((hfront.append ?value).append hclose)
  case events => cases g.showsValue v <;> exact Passage.nil
  case value =>
    by_cases hvalue : g.showsValue v = true
    · rw [if_pos hvalue]
      have hstyle := Symbol.isColor_style v s (v.widget.y + (stackOffsets g v).1)
      exact (covers_printf (.of (hfont hvalue) hstyle) h.format (.word h.name)).indent
    · rw [if_neg hvalue]
      exact Passage.nil

end Gauge

/-- What a gauge requires is all that it draws with. -/
theorem Gauge.covers_requirements {g : Setup} (h : g.Clear) (v : View) (s : Surface) :
    ∃ size, (requirements g v ++ direct g v s).Covers size 0 0 (direct g v s).lines := by
  refine ⟨_, covers_direct h v s (fun code hcode => ?_) fun hvalue => ?_⟩
  · exact List.mem_append_left _ (List.mem_append_left _ (List.mem_map_of_mem hcode))
  · refine List.mem_append_left _ (List.mem_append_right _ ?_)
    rw [hvalue]
    exact List.mem_singleton_self _

theorem BatteryGauge.clear_setup : setup.Clear where
  legible := Tier.legible_battery
  name := by decide
  format := .known (by decide)
  sourceId v := by
    show IsWordText (source v).id
    unfold source
    dsimp only
    split
    · exact (by decide : IsWordText localId)
    · exact Sensor.isWordText_id_of _ _

theorem SignalGauge.clear_setup : setup.Clear where
  legible := Tier.legible_wifi
  name := by decide
  format := .known (by decide)
  sourceId v := by
    show IsWordText (source v).id
    unfold source
    split
    · split
      · exact (by decide : IsWordText localId)
      · exact Sensor.isWordText_id_of _ _
    · exact (by decide : IsWordText localId)

/-! ## Progress bars -/

namespace ProgressBar

theorem covers_borderDrawing (v : View) (s : Surface)
    (hused : (borderDrawing v s).helpers ⊆ d.helpers) :
    d.Covers size a a (borderDrawing v s).lines := by
  unfold borderDrawing at hused ⊢
  rcases s.paint_cases (v.text "color") with h | h <;> rw [h] at hused ⊢
  · dsimp only at hused ⊢
    split
    · next hpos =>
      rw [if_pos hpos] at hused
      refine Passage.append Passage.nil (Passage.indent ?_)
      exact DitherShape.covers_statements _ (hused List.mem_cons_self)
    · exact Passage.nil
  · exact (Passage.ofFragments (.outlineBorder _ _ (s.isColor_direct _))).indent

theorem covers_fillDrawing (v : View) (s : Surface) (hused : (fillDrawing v s).helpers ⊆ d.helpers) :
    d.Covers size a a (fillDrawing v s).lines := by
  have hcolor := s.isColor_direct (v.text "color")
  have hlead : Fragment (Shows (d.ShowsAt size)) "  if (progress_fill > 0) " := .bare (by decide)
  unfold fillDrawing at hused ⊢
  dsimp only at hused ⊢
  rcases s.paint_cases (v.text "color") with h | h <;> rw [h] at hused ⊢
  · refine Passage.append Passage.nil (CallsHelper.covers_behind hlead ?_ (hused List.mem_cons_self))
    refine .insert (.insert (.insert (.name _) (.int _) ?_) (.int _) ?_) (.int _) ?_
    all_goals exact .bare (by decide)
  · refine Passage.ofFragment (.append hlead ?_)
    refine .insert (.insert (.insert (.insert ?_ (.int _) ?_) (.int _) ?_) (.int _) ?_) hcolor.fragment ?_
    all_goals exact .bare (by decide)

theorem covers_rowCalls (v : View) (s : Surface) (hfont : font v ∈ d.fonts) :
    d.Covers size a a (rowCalls v s) := by
  have hcolor := s.isColor_direct (v.text "color")
  unfold rowCalls
  dsimp only
  refine @Passage.append _ _ a a a _ _ ?label ?percentage
  case label =>
    split
    · exact covers_print (.of hfont hcolor) _
    · exact Passage.nil
  case percentage =>
    split
    · exact covers_printf (.of hfont hcolor) (.known (by decide)) (.bare (by decide))
    · exact Passage.nil

/-- The statement that reads the progress. -/
theorem fragment_source (v : View) {T : List Char → Prop} :
    Fragment T ("  float progress_value = " ++ (match sensor? v with
      | some sensor => Lambda.state sensor.id
      | none => "0") ++ ";") := by
  refine .insert (.bare (by decide)) ?_ (.bare (by decide))
  split
  · next sensor hsensor =>
    obtain ⟨entity, -, rfl⟩ := Option.map_eq_some_iff.1 hsensor
    exact .state (Sensor.isWordText_id_of _ _)
  · exact .bare (by decide)

theorem covers_direct (v : View) (s : Surface) (hfont : font v ∈ d.fonts)
    (hused : (direct v s).helpers ⊆ d.helpers) : d.Covers size 0 0 (direct v s).lines := by
  have hborder : (borderDrawing v s).helpers ⊆ d.helpers := fun h hh =>
    hused (List.mem_append_left _ (List.mem_append_left _ (List.mem_append_right _ hh)))
  have hbar : (fillDrawing v s).helpers ⊆ d.helpers := fun h hh =>
    hused (List.mem_append_left _ (List.mem_append_right _ hh))
  have hopen : d.Covers size 0 1 ["\x7b"] := .known (by decide)
  have hclamp : d.Covers size 1 1
      ["  if (isnan(progress_value) || progress_value < 0) progress_value = 0;",
        "  if (progress_value > 100) progress_value = 100;"] := .cons 1 (by decide) (.known (by decide))
  have hfill : ∀ width : Int, d.Covers size 1 1
      [s!"  int progress_fill = (int) ({width} * progress_value / 100.0f);"] := fun width =>
    .ofFragment (.insert (.bare (by decide)) (.int width) (.bare (by decide)))
  have hclose : d.Covers size 1 0 ["\x7d"] := .known (by decide)
  have hhead := hopen.append ((Passage.ofFragment (fragment_source v)).append
    (hclamp.append (hfill (max 0 ((barBox v).inset (border v)).w))))
  have hrows := hhead.append (covers_rowCalls v s hfont).indent
  unfold direct
  dsimp only
  exact (((Passage.nil.append hrows).append (covers_borderDrawing v s hborder)).append
    (covers_fillDrawing v s hbar)).append hclose

end ProgressBar

/-! ## Codes and images -/

theorem QrCode.covers_direct [Qr.Encoder] (v : View) (s : Surface) :
    d.Covers size a a (direct v s).lines := by
  have hcolor := s.isColor_direct (v.text "color")
  have hid : IsWordText (componentId v) := isWordText_append.2 ⟨by decide, v.isWordText_ident⟩
  unfold direct
  refine Passage.ofFragment (.append (.append (.insert (.insert (.insert ?_ (.int _) ?_) (.int _) ?_)
    (.word hid) ?_) hcolor.fragment) (.insert ?_ (.int _) ?_))
  all_goals exact .bare (by decide)

theorem Graph.covers_direct (v : View) (s : Surface) : d.Covers size a a (direct v s).lines := by
  have hcolor := s.isColor_direct (v.text "line_color")
  have hid : IsWordText (componentId v) := isWordText_append.2 ⟨by decide, v.isWordText_ident⟩
  unfold direct
  dsimp only
  split
  · refine Passage.append Passage.nil ?_
    cases v.flag "border" with
    | true => exact Passage.ofFragment (.shape (by decide) _ hcolor)
    | false => exact Passage.nil
  · refine Passage.ofFragment (.insert (.insert (.insert (.insert ?_ (.int _) ?_) (.int _) ?_)
      (.word hid) ?_) hcolor.fragment ?_)
    all_goals exact .bare (by decide)

theorem TouchArea.covers_direct (v : View) (s : Surface)
    (hused : ∀ code, icon? v = some code → ⟨code, iconSize v⟩ ∈ d.glyphs) :
    d.Covers (iconSize v) a a (direct v s).lines := by
  have hcolor := s.isColor_direct (v.text "color")
  unfold direct
  split
  · exact Passage.nil
  · next code hcode =>
    have hnormal := Icon.normalize?_idem hcode
    have hmem := hused code hcode
    have hglyph : Fragment (IsGlyph (d.ShowsAt (iconSize v))) ("\"" ++ Icon.escape code ++ "\"") :=
      .glyph hnormal fun n hn => ⟨code, hmem, hnormal, hn⟩
    have hcall : ∀ (x y : Int) {color : String}, IsColor color → d.Covers (iconSize v) a a
        [Symbol.glyphCall ⟨x, y, Icon.fontId (iconSize v), color, .centered⟩
          ("\"" ++ Icon.escape code ++ "\"")] := fun x y color hcolor =>
      Symbol.covers_glyphCall rfl (v.size_pos _) hcolor (Drawing.exists_showsAt hmem hnormal) hglyph
    exact hcall _ _ hcolor

namespace Image

/-- The identifier of an asset, whose size may be negative. -/
theorem fragment_assetId {family : String} (h : IsWordText family) (location : String) (v : View)
    {T : List Char → Prop} : Fragment T (assetId family location v) := by
  have hstem := isWordText_stem location
  unfold assetId
  refine .append (.append (.append (.word h) ?_) (.word hstem)) (.append (.insert ?_ (.int _) ?_) (.int _))
  all_goals exact .bare (by decide)

theorem covers_drawAsset (v : View) (s : Surface) {id : String}
    (hid : Fragment (Shows (d.ShowsAt size)) id) : d.Covers size a a (drawAsset v s id).lines := by
  have hwhite := (s.isColor_direct "white").fragment (T := Shows (d.ShowsAt size))
  have hblack := (s.isColor_direct "black").fragment (T := Shows (d.ShowsAt size))
  have hplace : Fragment (Shows (d.ShowsAt size)) s!"it.image({v.widget.x}, {v.widget.y}, id({id})" := by
    refine .insert (.insert (.insert ?_ (.int _) ?_) (.int _) ?_) hid ?_
    all_goals exact .bare (by decide)
  have htwo : ∀ {on off : String}, Fragment (Shows (d.ShowsAt size)) on →
      Fragment (Shows (d.ShowsAt size)) off → d.Covers size a a
        [s!"it.image({v.widget.x}, {v.widget.y}, id({id})" ++ ", " ++ on ++ ", " ++ off ++ ");"] :=
    fun hon hoff => .ofFragment (.insert (.insert (.append hplace (.bare (by decide))) hon
      (.bare (by decide))) hoff (.bare (by decide)))
  unfold drawAsset
  dsimp only
  split
  · exact Passage.ofFragment (.append hplace (.bare (by decide)))
  · cases v.flag "invert" with
    | true => exact htwo hwhite hblack
    | false => exact htwo hblack hwhite

theorem Store.covers_direct {k : Store} (h : IsWordText k.family) (table : PropertyTable)
    (declare : View → Surroundings → String → List Component) (v : View) (s : Surface) :
    d.Covers size a a ((k.behaviour table declare).direct v s).lines := by
  unfold Store.behaviour
  dsimp only
  split
  · exact covers_drawAsset v s (fragment_assetId h _ v)
  · exact Passage.nil

end Image

/-! ## Shapes -/

namespace Shape

variable {v : View} {s : Surface}

theorem covers_painted {key : String} {mask : DitherShape} {solid : String → Drawing}
    (hused : (painted v s key mask solid).helpers ⊆ d.helpers)
    (h : ∀ color, IsColor color → (solid color).helpers ⊆ d.helpers →
      d.Covers size a a (solid color).lines) :
    d.Covers size a a (painted v s key mask solid).lines := by
  unfold painted at hused ⊢
  rcases s.paint_cases (v.text key) with hp | hp <;> rw [hp] at hused ⊢
  · exact mask.covers_statements (hused List.mem_cons_self)
  · exact h _ (s.isColor_direct _) hused

theorem covers_fillThenBorder {border : Int} {inside edge : Drawing}
    (hused : (fillThenBorder v border inside edge).helpers ⊆ d.helpers)
    (hinside : inside.helpers ⊆ d.helpers → d.Covers size a a inside.lines)
    (hedge : edge.helpers ⊆ d.helpers → d.Covers size a a edge.lines) :
    d.Covers size a a (fillThenBorder v border inside edge).lines := by
  unfold fillThenBorder at hused ⊢
  obtain ⟨hfill, hborder⟩ := List.append_subset.1 hused
  refine @Passage.append _ _ a a a _ _ ?fill ?edge
  case fill =>
    cases hfilled : isFilled v with
    | true =>
      rw [hfilled] at hfill
      exact hinside hfill
    | false => exact Passage.nil
  case edge =>
    cases hdrawn : border != 0 with
    | true =>
      rw [hdrawn] at hborder
      exact hedge hborder
    | false => exact Passage.nil

end Shape

open Shape

section

variable {v : View} {s : Surface}

theorem PlainRect.covers_direct (hused : (direct v s).helpers ⊆ d.helpers) :
    d.Covers size a a (direct v s).lines := by
  unfold direct at hused ⊢
  dsimp only at hused ⊢
  refine covers_fillThenBorder hused (fun hinside => ?_) fun hedge => ?_
  · exact covers_painted hinside fun color hcolor _ => .ofFragment (.shape (by decide) _ hcolor)
  · exact covers_painted hedge fun color hcolor _ => .ofFragments (.outlineBorder _ _ hcolor)

theorem RoundedRect.covers_direct (hused : (direct v s).helpers ⊆ d.helpers) :
    d.Covers size a a (direct v s).lines := by
  unfold direct at hused ⊢
  dsimp only at hused ⊢
  refine covers_fillThenBorder hused (fun hinside => ?_) fun hedge => ?_
  · refine covers_painted hinside fun color hcolor hcall => Passage.append Passage.nil ?_
    refine CallsHelper.covers ?_ (hcall List.mem_cons_self)
    refine .insert (.insert (.insert (.insert (.insert (.insert (.name _) (.int _) ?_) (.int _) ?_)
      (.int _) ?_) (.int _) ?_) (.int _) ?_) hcolor.fragment ?_
    all_goals exact .bare (by decide)
  · refine covers_painted hedge fun color hcolor hcall => Passage.append Passage.nil ?_
    refine CallsHelper.covers ?_ (hcall List.mem_cons_self)
    refine .insert (.insert (.insert (.insert (.insert (.insert (.insert (.name _) (.int _) ?_) (.int _) ?_)
      (.int _) ?_) (.int _) ?_) (.int _) ?_) (.int _) ?_) hcolor.fragment ?_
    all_goals exact .bare (by decide)

theorem Circle.covers_direct (hused : (direct v s).helpers ⊆ d.helpers) :
    d.Covers size a a (direct v s).lines := by
  unfold direct at hused ⊢
  dsimp only at hused ⊢
  refine covers_fillThenBorder hused (fun hinside => ?_) fun hedge => ?_
  · exact covers_painted hinside fun color hcolor _ => .ofFragment (.shape (by decide) _ hcolor)
  · refine covers_painted hedge fun color hcolor _ => .ofFragments fun row hrow => ?_
    obtain ⟨i, -, rfl⟩ := List.mem_map.1 hrow
    exact .shape (by decide) _ hcolor

theorem StraightLine.covers_direct (hused : (direct v s).helpers ⊆ d.helpers) :
    d.Covers size a a (direct v s).lines := by
  unfold direct at hused ⊢
  dsimp only at hused ⊢
  refine covers_painted hused fun color hcolor _ => ?_
  split
  · exact Passage.ofFragment (.shape (by decide) _ hcolor)
  · exact Passage.ofFragment (.shape (by decide) _ hcolor)

end

/-! ## Calendars -/

namespace Calendar

/-- Four blanks are two indentations. -/
theorem covers_inset {line : String} (h : d.Covers size a a [line]) :
    d.Covers size a a ["    " ++ line] := by
  have htwice : "    " ++ line = Lambda.indent (Lambda.indent line) := by
    rw [Lambda.indent, Lambda.indent, ← String.append_assoc]
    rfl
  rw [htwice]
  exact h.indent.indent

theorem covers_daysInMonth : d.Covers size a a (daysInMonth.map ("    " ++ ·)) := by
  have hrows : ∀ row ∈ daysInMonth, d.Covers size 0 0 [row] := by
    rw [daysInMonth, List.forall_mem_cons, List.forall_mem_cons, List.forall_mem_singleton]
    refine ⟨.known ?_, .known ?_, .known ?_⟩ <;> decide +kernel
  refine Passage.ofLines fun line hline => ?_
  obtain ⟨row, hrow, rfl⟩ := List.mem_map.1 hline
  have hinset := (covers_inset (hrows row hrow)).lift a
  rwa [Nat.zero_add] at hinset

/-- The names of the days of the week. -/
theorem covers_weekdays {f : Font} (hf : f ∈ d.fonts) {color : String} (hcolor : IsColor color)
    (x cell half y : Int) : d.Covers size a a
      [s!"      it.print({x} + c * {cell} + {half}, {y}, id({f.id}), {color}, {
        Align.topCenter.direct}, weekdays[c]);"] := by
  have hplace : ∀ c ∈ (toString x ++ " + c * " ++ toString cell ++ " + " ++ toString half).toList,
      isArgumentChar c = true := by
    simp only [String.toList_append, List.forall_mem_append]
    have hint : ∀ n : Int, ∀ c ∈ (toString n).toList, isArgumentChar c = true := fun n c hc =>
      isArgumentChar_of_mem_int hc
    exact ⟨⟨⟨⟨hint x, List.all_eq_true.1 (by decide)⟩, hint cell⟩, List.all_eq_true.1 (by decide)⟩,
      hint half⟩
  have htail : Fragment (Shows (d.ShowsAt size))
      (color ++ (", " ++ Align.topCenter.direct ++ ", weekdays[c]);")) :=
    hcolor.fragment.append (.bare (by decide))
  have hline : s!"      it.print({x} + c * {cell} + {half}, {y}, id({f.id}), {color}, {
        Align.topCenter.direct}, weekdays[c]);"
      = Lambda.indent (Lambda.indent (Lambda.indent ("it.print" ++ "("
        ++ ((toString x ++ " + c * " ++ toString cell ++ " + " ++ toString half)
        ++ (", " ++ (toString y ++ (", id(" ++ (f.id ++ ("), "
        ++ (color ++ (", " ++ Align.topCenter.direct ++ ", weekdays[c]);"))))))))))) := by
    have hself : ∀ s : String, toString s = s := fun _ => rfl
    rw [← String.toList_inj]
    simp [Lambda.indent, hself]
  rw [hline]
  exact (Passage.textCall (by decide) hplace (fun _ hc => isArgumentChar_of_mem_int hc)
    f.isWordText_id htail (fun _ h => h) fun _ _ => Or.inl ⟨f, hf, rfl⟩).indent.indent.indent

/-- The number of a day. -/
theorem covers_cellCall {f : Font} (hf : f ∈ d.fonts) {color : String} (hcolor : IsColor color) :
    d.Covers size a a
      [s!"        it.printf(cx, cy, id({f.id}), {color}, {Align.topCenter.direct}, \"%d\", d);"] := by
  have htail : Fragment (Shows (d.ShowsAt size))
      (color ++ (", " ++ Align.topCenter.direct ++ ", \"%d\", d);")) :=
    hcolor.fragment.append (.mute (by decide))
  have hline : s!"        it.printf(cx, cy, id({f.id}), {color}, {Align.topCenter.direct}, \"%d\", d);"
      = "    " ++ ("    " ++ ("it.printf" ++ "(" ++ ("cx" ++ (", " ++ ("cy" ++ (", id(" ++ (f.id
        ++ ("), " ++ (color ++ (", " ++ Align.topCenter.direct ++ ", \"%d\", d);")))))))))) := by
    have hself : ∀ s : String, toString s = s := fun _ => rfl
    rw [← String.toList_inj]
    simp [hself]
  rw [hline]
  exact covers_inset (covers_inset (Passage.textCall (by decide)
    (List.all_eq_true.1 (by decide)) (List.all_eq_true.1 (by decide)) f.isWordText_id htail
    (fun _ h => h) fun _ _ => Or.inl ⟨f, hf, rfl⟩))

/-- The days of the month, with the day of today inverted. -/
theorem covers_grid {f : Font} (hf : f ∈ d.fonts) {color background : String}
    (hcolor : IsColor color) (hback : IsColor background) (x y cell half height : Int) :
    d.Covers size 2 1
      ["    " ++ firstColumn,
        "    const char *weekdays[] = \x7b\"Mo\", \"Tu\", \"We\", \"Th\", \"Fr\", \"Sa\", \"Su\"\x7d;",
        "    for (int c = 0; c < 7; c++) \x7b",
        s!"      it.print({x} + c * {cell} + {half}, {y}, id({f.id}), {color}, {
          Align.topCenter.direct}, weekdays[c]);",
        "    \x7d",
        "    for (int d = 1; d <= days; d++) \x7b",
        "      int slot = first + d - 1;",
        s!"      int cx = {x} + (slot % 7) * {cell} + {half};",
        s!"      int cy = {y} + (slot / 7 + 1) * {height};",
        "      if (d == now.day_of_month) \x7b",
        s!"        it.filled_rectangle(cx - {half - 1}, cy - 1, {max (cell - 2) 1}, {height}, {color});",
        s!"        it.printf(cx, cy, id({f.id}), {background}, {Align.topCenter.direct}, \"%d\", d);",
        "      \x7d else \x7b",
        s!"        it.printf(cx, cy, id({f.id}), {color}, {Align.topCenter.direct}, \"%d\", d);",
        "      \x7d",
        "    \x7d",
        "  \x7d"] := by
  have hfirst : d.Covers size 2 2 ["    " ++ firstColumn] := covers_inset (.known (by decide))
  have hnames : d.Covers size 2 3 [
      "    const char *weekdays[] = \x7b\"Mo\", \"Tu\", \"We\", \"Th\", \"Fr\", \"Sa\", \"Su\"\x7d;",
      "    for (int c = 0; c < 7; c++) \x7b"] := .cons 2 (by decide) (.known (by decide))
  have hdays : d.Covers size 3 3 ["    \x7d", "    for (int d = 1; d <= days; d++) \x7b",
      "      int slot = first + d - 1;"] :=
    .cons 2 (by decide) (.cons 3 (by decide) (.known (by decide)))
  have hcolumn : d.Covers size 3 3 [s!"      int cx = {x} + (slot % 7) * {cell} + {half};"] :=
    .ofFragment (.insert (.insert (.insert (.bare (by decide)) (.int _) (.bare (by decide))) (.int _)
      (.bare (by decide))) (.int _) (.bare (by decide)))
  have hrow : d.Covers size 3 3 [s!"      int cy = {y} + (slot / 7 + 1) * {height};"] :=
    .ofFragment (.insert (.insert (.bare (by decide)) (.int _) (.bare (by decide))) (.int _)
      (.bare (by decide)))
  have htoday : d.Covers size 3 4 ["      if (d == now.day_of_month) \x7b"] := .known (by decide)
  have hfill : d.Covers size 4 4 [s!"        it.filled_rectangle(cx - {half - 1}, cy - 1, {
      max (cell - 2) 1}, {height}, {color});"] :=
    .ofFragment (.insert (.insert (.insert (.insert (.bare (by decide)) (.int _) (.bare (by decide)))
      (.int _) (.bare (by decide))) (.int _) (.bare (by decide))) hcolor.fragment (.bare (by decide)))
  have helse : d.Covers size 4 4 ["      \x7d else \x7b"] := .known (by decide)
  have hclose : d.Covers size 4 1 ["      \x7d", "    \x7d", "  \x7d"] :=
    .cons 3 (by decide) (.cons 2 (by decide) (.known (by decide)))
  have hinside := hcolumn.append (hrow.append (htoday.append (hfill.append
    ((covers_cellCall hf hback).append (helse.append ((covers_cellCall hf hcolor).append hclose))))))
  exact (hfirst.append hnames).append ((covers_weekdays hf hcolor x cell half y).append (hdays.append hinside))

theorem covers_direct (v : View) (s : Surface) (hdate : dateFont v ∈ d.fonts)
    (hday : dayFont v ∈ d.fonts) (hgrid : gridFont v ∈ d.fonts) :
    d.Covers size 0 0 (direct v s).lines := by
  have hcolor := s.isColor_direct (v.text "color")
  have hread : d.Covers size 1 1 [readTime] :=
    .ofFragment (.insert (.bare (by decide)) (.word (by decide)) (.bare (by decide)))
  have hopen : d.Covers size 0 2 ["\x7b", Lambda.indent readTime, "  if (now.is_valid()) \x7b"] :=
    .cons 1 (by decide) (hread.indent.append (.known (by decide)))
  have hclose : d.Covers size 1 0 ["\x7d"] := .known (by decide)
  have hheading : ∀ (y : Int) {f : Font}, f ∈ d.fonts → ∀ format : String, Content format.toList →
      d.Covers size 2 2 ["    " ++ Lambda.strftime
        ⟨v.box.centerX, y, f.id, s.direct (v.text "color"), .topCenter⟩ format] :=
    fun y f hf format hformat => covers_inset (covers_strftime (.of hf hcolor) hformat)
  have hentries : d.Covers size 1 1 (match entries? v with
      | some sensor =>
        [Lambda.indent (Lambda.printf ⟨v.widget.x, v.widget.y + v.widget.height
          - v.int32 "grid_font_size" - 2, (gridFont v).id, s.direct (v.text "color"), .topLeft⟩ "%s"
          (Lambda.state sensor.id ++ ".c_str()"))]
      | none => []) := by
    split
    · next sensor hsensor =>
      obtain ⟨entity, -, rfl⟩ := Option.map_eq_some_iff.1 hsensor
      have hid := Sensor.isWordText_id_withAttribute (Sensor.of .text entity) "entries"
      exact (covers_printf (.of hgrid hcolor) (.known (by decide))
        (.append (.state hid) (.bare (by decide)))).indent
    · exact Passage.nil
  have hback : IsColor s.background := s.isColor_direct s.backgroundToken
  have hheadings := (hheading v.widget.y hdate "%d" (.known (by decide))).append
    ((hheading (v.widget.y + (rows v).day) hday "%A" (.known (by decide))).append
      (hheading (v.widget.y + (rows v).month) hgrid "%B %Y" (.known (by decide))))
  have hcells := @covers_grid d size _ hgrid _ _ hcolor hback v.widget.x
    (v.widget.y + (rows v).grid) (max 1 (Int.tdiv v.widget.width 7))
    (Int.tdiv (max 1 (Int.tdiv v.widget.width 7)) 2) (v.int32 "grid_font_size" + 4)
  unfold direct
  dsimp only
  refine Passage.append Passage.nil ?_
  exact ((((hopen.append hheadings).append covers_daysInMonth).append hcells).append hentries).append hclose

end Calendar

/-! ## All types -/

/-- **A drawn widget is supplied:** its statements take only fonts and glyphs that it asks for. -/
theorem Kind.covers_direct [Qr.Encoder] (k : Kind) (v : View) (s : Surface) :
    ∃ size, (k.behaviour.requirements v ++ k.behaviour.direct v s).Covers size 0 0
      (k.behaviour.direct v s).lines := by
  have hdrawn : ∀ (b : Behaviour) (direct : View → Surface → Drawing), b.direct = direct →
      (∃ size, (b.requirements v ++ direct v s).Covers size 0 0 (direct v s).lines) →
      ∃ size, (b.requirements v ++ b.direct v s).Covers size 0 0 (b.direct v s).lines := by
    intro b direct hb h
    rw [hb]
    exact h
  have hsilent : ∀ b : Behaviour, b.direct = (fun _ _ => {}) →
      ∃ size, (b.requirements v ++ b.direct v s).Covers size 0 0 (b.direct v s).lines := fun b hb =>
    hdrawn b _ hb ⟨1, Passage.nil⟩
  have hfonts : ∀ {x y : Drawing} {f : Font}, f ∈ x.fonts → f ∈ (x ++ y).fonts := fun h =>
    List.mem_append_left _ h
  have hdrawnFonts : ∀ {x y : Drawing} {f : Font}, f ∈ y.fonts → f ∈ (x ++ y).fonts := fun h =>
    List.mem_append_right _ h
  have hglyphs : ∀ {x y : Drawing} {g : Glyph}, g ∈ x.glyphs → g ∈ (x ++ y).glyphs := fun h =>
    List.mem_append_left _ h
  have hhelpers : ∀ {x y : Drawing}, y.helpers ⊆ (x ++ y).helpers := fun h => List.mem_append_right _ h
  cases k with
  | text =>
    exact hdrawn _ Caption.direct rfl
      ⟨1, Caption.covers_direct v s (hfonts (List.mem_singleton_self _)) hhelpers⟩
  | sensorText =>
    exact hdrawn _ Readout.direct rfl
      ⟨1, Readout.covers_direct v s (hfonts List.mem_cons_self)
        (hfonts (List.mem_cons_of_mem _ (List.mem_singleton_self _)))⟩
  | datetime =>
    exact hdrawn _ Clock.direct rfl
      ⟨1, Clock.covers_direct v s (hfonts List.mem_cons_self)
        (hfonts (List.mem_cons_of_mem _ (List.mem_singleton_self _)))⟩
  | icon =>
    exact hdrawn _ Symbol.behaviour.direct rfl
      ⟨_, Symbol.covers_direct v s (hglyphs (List.mem_singleton_self _))⟩
  | weatherIcon =>
    refine hdrawn _ WeatherSymbol.direct rfl ⟨_, WeatherSymbol.covers_direct v s fun code hcode => ?_⟩
    exact hglyphs (List.mem_map_of_mem hcode)
  | batteryIcon => exact hdrawn _ (Gauge.direct _) rfl (Gauge.covers_requirements BatteryGauge.clear_setup v s)
  | wifiSignal => exact hdrawn _ (Gauge.direct _) rfl (Gauge.covers_requirements SignalGauge.clear_setup v s)
  | progressBar =>
    refine hdrawn _ ProgressBar.direct rfl
      ⟨1, ProgressBar.covers_direct v s (hdrawnFonts ?_) hhelpers⟩
    unfold ProgressBar.direct
    dsimp only
    exact List.mem_append_left _ (List.mem_append_left _ (List.mem_append_left _ List.mem_cons_self))
  | qrCode => exact hdrawn _ QrCode.direct rfl ⟨1, QrCode.covers_direct v s⟩
  | shapeRect => exact hdrawn _ PlainRect.direct rfl ⟨1, PlainRect.covers_direct hhelpers⟩
  | roundedRect => exact hdrawn _ RoundedRect.direct rfl ⟨1, RoundedRect.covers_direct hhelpers⟩
  | shapeCircle => exact hdrawn _ Circle.direct rfl ⟨1, Circle.covers_direct hhelpers⟩
  | line => exact hdrawn _ StraightLine.direct rfl ⟨1, StraightLine.covers_direct hhelpers⟩
  | image =>
    have hb : Kind.image.behaviour = Image.file.behaviour Image.fileTable Image.declareFile := rfl
    rw [hb]
    exact ⟨1, Image.Store.covers_direct (by decide) _ _ v s⟩
  | onlineImage =>
    have hb : Kind.onlineImage.behaviour
        = Image.online.behaviour Image.onlineTable Image.declareOnline := rfl
    rw [hb]
    exact ⟨1, Image.Store.covers_direct (by decide) _ _ v s⟩
  | touchArea =>
    dsimp only [Kind.behaviour, TouchArea.behaviour]
    refine ⟨_, TouchArea.covers_direct v s fun code hcode => hglyphs ?_⟩
    rw [hcode]
    exact List.mem_singleton_self _
  | calendar =>
    refine hdrawn _ Calendar.direct rfl ⟨1, Calendar.covers_direct v s ?_ ?_ ?_⟩
    · exact hfonts List.mem_cons_self
    · exact hfonts (List.mem_cons_of_mem _ List.mem_cons_self)
    · exact hfonts (List.mem_cons_of_mem _ (List.mem_cons_of_mem _ List.mem_cons_self))
  | graph => exact hdrawn _ Graph.direct rfl ⟨1, Graph.covers_direct v s⟩
  | _ => exact hsilent _ rfl

end DisplayLayout
