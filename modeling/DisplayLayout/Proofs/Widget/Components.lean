import DisplayLayout.Proofs.Artifact.Rows
import DisplayLayout.Proofs.Widget.Drawn

/-!
# How widgets write components

A widget writes the blocks of its components from four kinds of parts: fixed
texts, values on one line, texts that it copies as they are, and identifiers
(`Kind.isBlock_components`). What the rows of all blocks have in common is
therefore known from what is copied and named (`Kind.Writes`): where they stand,
what they declare, and that they say nothing.
-/

namespace DisplayLayout

open Text

/-! ## Values on one line -/

theorem Json.newline_notMem_escapeChar (c : Char) : '\n' ∉ Json.escapeChar c := by
  unfold Json.escapeChar
  split
  · decide
  split
  · decide
  split
  · decide
  split
  · decide
  split
  · decide
  split
  · decide
  split
  · decide
  split
  · rw [List.mem_cons, List.mem_cons, not_or, not_or]
    refine ⟨by decide, by decide, fun h => ?_⟩
    exact absurd (isWordChar_of_mem_hexDigits h) (by decide)
  · next hfeed _ _ _ _ _ => exact fun h => hfeed (List.mem_singleton.1 h).symm

theorem Json.oneLine_quoted (s : String) : OneLine (Json.quoted s) := by
  rw [Json.quoted, oneLine_ofList, List.mem_append, List.mem_cons, List.mem_flatMap,
    List.mem_singleton]
  rintro ((h | ⟨c, -, hc⟩) | h)
  · exact absurd h (by decide)
  · exact Json.newline_notMem_escapeChar c hc
  · exact absurd h (by decide)

theorem Qr.Level.oneLine_name (level : Qr.Level) : OneLine level.name := by
  cases level <;> decide

theorem DisplayType.oneLine_imageType (t : DisplayType) : OneLine t.imageType := by
  cases t <;> decide

theorem Image.oneLine_resizeText (v : View) : OneLine (resizeText v) := by
  unfold resizeText
  simp +decide only [oneLine_append, Numeric.oneLine_toString_int]

theorem Image.oneLine_formatOf (url : String) : OneLine (formatOf url) := by
  unfold formatOf
  dsimp only
  split
  · decide
  · split <;> decide

/-! ## Blocks of components -/

namespace Component

/-- The sections that components have blocks in. -/
def sectionNames : List String :=
  ["sensor", "binary_sensor", "http_request", "image", "online_image", "graph", "qr_code", "interval"]

/-- A block that is not empty, in one of these sections. -/
structure IsPlaced (c : Component) : Prop where
  sectionName : c.sectionName ∈ sectionNames
  lines : c.lines ≠ []

/-- Such a block, of rows that say nothing. -/
structure IsBlock (Raw Named : String → Prop) (c : Component) : Prop extends IsPlaced c where
  rows : ∀ row ∈ c.lines, Section.IsSilentRow Raw Named row

theorem isBlock_mk {Raw Named : String → Prop} {sectionName key : String} {lines : List String}
    (hname : sectionName ∈ sectionNames) (hne : lines ≠ [])
    (hrows : ∀ row ∈ lines, Section.IsSilentRow Raw Named row) :
    IsBlock Raw Named ⟨sectionName, key, lines⟩ := ⟨⟨hname, hne⟩, hrows⟩

/-- The leads of identifiers that are made of the identifier of a widget. -/
def leads : List (Kind × String) :=
  [(.qrCode, "qr_"), (.graph, "graph_"), (.touchArea, "touch_")]

/-- What the keys of the blocks of each type begin with. -/
def keyLeads : List (Kind × String) :=
  leads ++ [(.wifiSignal, "wifi_"), (.image, "img_"), (.onlineImage, "http_"),
    (.onlineImage, "online_img_"), (.onlineImage, "interval_")]

end Component

/-- What a widget of a type writes into its blocks: the texts that it copies make rows that are
`Raw`, and the identifiers that it declares are `Named`. -/
structure Kind.Writes (k : Kind) (v : View) (around : Surroundings) (Raw Named : String → Prop) : Prop where
  display : ∀ lead, Section.isSilentLead lead = true → Raw (lead ++ around.device.displayId)
  toggle : k = .touchArea → ∀ e, v.entity? = some e → Raw ("                  entity_id: " ++ e)
  duration : k = .graph → Raw ("    duration: " ++ trim (v.text "duration"))
  signal : Named SignalGauge.localId
  own : ∀ lead, (k, lead) ∈ Component.leads → Named (lead ++ v.ident)
  file : k = .image → ∀ path, Image.file.location? v = some path → Named (Image.file.id v path)
  online : k = .onlineImage → ∀ url, Image.online.location? v = some url → Named (Image.online.id v url)

/-- Any text will do where nothing is asked of it. -/
theorem Kind.writes_true (k : Kind) (v : View) (around : Surroundings) :
    k.Writes v around (fun _ => True) fun _ => True :=
  ⟨fun _ _ => trivial, fun _ _ _ => trivial, fun _ => trivial, trivial, fun _ _ => trivial,
    fun _ _ _ => trivial, fun _ _ _ => trivial⟩

section Blocks

open Section

variable {Raw Named : String → Prop} {v : View} {around : Surroundings} {c : Component}

theorem SignalGauge.isBlock_components (hid : Named localId) (h : c ∈ components v around) :
    c.IsBlock Raw Named := by
  unfold components at h
  split at h
  · exact absurd h List.not_mem_nil
  · rw [List.mem_singleton.1 h]
    refine Component.isBlock_mk (by decide) (List.cons_ne_nil _ _) ?_
    simp only [List.forall_mem_cons]
    exact ⟨isSilentRow_fixed (by decide), isSilentRow_ownId (by decide) hid,
      isSilentRow_fixed (by decide), List.forall_mem_nil _⟩

theorem QrCode.isBlock_components (hid : Named (componentId v)) (h : c ∈ components v around) :
    c.IsBlock Raw Named := by
  have hrow : Line.Silent ("  - id: " ++ componentId v) :=
    Line.silent_idRow_of_lead (by decide) v.oneLine_ident
  unfold components at h
  split at h
  · rw [List.mem_singleton.1 h]
    refine Component.isBlock_mk (by decide) (List.cons_ne_nil _ _) ?_
    simp only [List.forall_mem_cons]
    exact ⟨isSilentRow_id (by decide) hrow hid, isSilentRow_append (by decide) (Json.oneLine_quoted _),
      isSilentRow_append (by decide) (Qr.Level.oneLine_name _), List.forall_mem_nil _⟩
  · exact absurd h List.not_mem_nil

theorem Graph.isSilentRow_boundLine (key : String) (hkey : key = "min_value" ∨ key = "max_value") :
    ∀ row ∈ boundLine v key, IsSilentRow Raw Named row := by
  have hlead : isSilentLead ("    " ++ key ++ ": ") = true := by
    rcases hkey with rfl | rfl <;> decide
  intro row hrow
  unfold boundLine at hrow
  split at hrow
  · split at hrow
    · rw [List.mem_singleton.1 hrow]
      exact isSilentRow_append hlead (Numeric.oneLine_plainText _)
    · exact absurd hrow List.not_mem_nil
  · exact absurd hrow List.not_mem_nil

theorem Graph.isBlock_components (hid : Named (componentId v))
    (hduration : Raw ("    duration: " ++ trim (v.text "duration"))) (h : c ∈ components v around) :
    c.IsBlock Raw Named := by
  have hrow : Line.Silent ("  - id: " ++ componentId v) :=
    Line.silent_idRow_of_lead (by decide) v.oneLine_ident
  have hflag : ∀ b, OneLine (flagText b) := by decide
  unfold components at h
  split at h
  · exact absurd h List.not_mem_nil
  · next sensor hsensor =>
    obtain ⟨e, -, rfl⟩ := Option.map_eq_some_iff.1 hsensor
    rw [List.mem_singleton.1 h]
    refine Component.isBlock_mk (by decide) (List.cons_ne_nil _ _) ?_
    simp only [List.forall_mem_append, List.forall_mem_cons]
    refine ⟨⟨⟨?_, ?_, ?_, ?_, ?_, ?_, List.forall_mem_nil _⟩, isSilentRow_boundLine _ (Or.inl rfl)⟩,
      isSilentRow_boundLine _ (Or.inr rfl)⟩
    · exact isSilentRow_id (by decide) hrow hid
    · exact isSilentRow_append (by decide) (Sensor.oneLine_id_of .numeric e)
    · exact isSilentRow_raw (by decide) hduration
    · exact isSilentRow_append (by decide) (Numeric.oneLine_toString_int _)
    · exact isSilentRow_append (by decide) (Numeric.oneLine_toString_int _)
    · exact isSilentRow_append (by decide) (hflag _)

theorem TouchArea.isSilentRow_steps
    (htoggle : ∀ e, v.entity? = some e → Raw ("                  entity_id: " ++ e))
    (hdisplay : ∀ lead, isSilentLead lead = true → Raw (lead ++ around.device.displayId)) :
    ∀ row ∈ steps v around, IsSilentRow Raw Named row := by
  have hupdate : IsSilentRow Raw Named ("            - component.update: " ++ around.device.displayId) :=
    isSilentRow_raw (by decide) (hdisplay _ (by decide))
  unfold steps
  dsimp only
  split
  · exact List.forall_mem_nil _
  · simp only [List.forall_mem_cons]
    exact ⟨isSilentRow_fixed (by decide), hupdate, List.forall_mem_nil _⟩
  · simp only [List.forall_mem_cons]
    exact ⟨isSilentRow_fixed (by decide), hupdate, List.forall_mem_nil _⟩
  · exact List.forall_mem_singleton.2 hupdate
  · split
    · next e he =>
      simp only [List.forall_mem_cons]
      exact ⟨isSilentRow_fixed (by decide), isSilentRow_fixed (by decide), isSilentRow_fixed (by decide),
        isSilentRow_raw (by decide) (htoggle e he), List.forall_mem_nil _⟩
    · exact List.forall_mem_nil _

theorem TouchArea.isBlock_components (hid : Named (sensorId v))
    (htoggle : ∀ e, v.entity? = some e → Raw ("                  entity_id: " ++ e))
    (hdisplay : ∀ lead, isSilentLead lead = true → Raw (lead ++ around.device.displayId))
    (h : c ∈ components v around) : c.IsBlock Raw Named := by
  have hone : OneLine (sensorId v) := oneLine_append.2 ⟨by decide, v.oneLine_ident⟩
  have hbound : ∀ {lead : String} (n : Int), isSilentLead lead = true →
      IsSilentRow Raw Named (toString lead ++ toString n) :=
    fun n hlead => isSilentRow_append hlead (Numeric.oneLine_toString_int n)
  unfold components at h
  split at h
  · rw [List.mem_singleton.1 h]
    refine Component.isBlock_mk (by decide) (by simp) ?_
    simp only [List.forall_mem_append, List.forall_mem_cons]
    refine ⟨⟨?_, ?_, ?_, ?_, ?_, ?_, ?_, List.forall_mem_nil _⟩, ?_⟩
    · exact isSilentRow_fixed (by decide)
    · exact isSilentRow_ownId hone hid
    · exact isSilentRow_fixed (by decide)
    · exact hbound _ (by decide)
    · exact hbound _ (by decide)
    · exact hbound _ (by decide)
    · exact hbound _ (by decide)
    · split
      · exact List.forall_mem_nil _
      simp only [List.forall_mem_append, List.forall_mem_cons, String.append_assoc]
      refine ⟨⟨?_, ?_, ?_, ?_, ?_, List.forall_mem_nil _⟩, isSilentRow_steps htoggle hdisplay⟩
      · exact isSilentRow_fixed (by decide)
      · exact isSilentRow_fixed (by decide)
      · exact isSilentRow_fixed (by decide)
      · refine isSilentRow_append (by decide) ?_
        simp +decide only [oneLine_append, Numeric.oneLine_toString_nat]
      · exact isSilentRow_fixed (by decide)
  · exact absurd h List.not_mem_nil

namespace Image

theorem isBlock_declareFile {path : String} (hid : Named (file.id v path))
    (h : c ∈ declareFile v around path) : c.IsBlock Raw Named := by
  have hone := oneLine_assetId (by decide : OneLine file.family) path v
  rw [List.mem_singleton.1 h]
  refine Component.isBlock_mk (by decide) (List.cons_ne_nil _ _) ?_
  simp only [List.forall_mem_append, List.forall_mem_cons]
  refine ⟨⟨?_, ?_, ?_, ?_, List.forall_mem_nil _⟩, ?_⟩
  · exact isSilentRow_append (by decide) (Json.oneLine_quoted _)
  · exact isSilentRow_ownId hone hid
  · exact isSilentRow_append (by decide) (DisplayType.oneLine_imageType _)
  · exact isSilentRow_append (by decide) (oneLine_resizeText v)
  · split
    · exact List.forall_mem_singleton.2 (isSilentRow_fixed (by decide))
    · exact List.forall_mem_nil _

/-- The parts of an identifier. -/
theorem id_eq (k : Store) (v : View) (location : String) : k.id v location
    = (k.family ++ "_") ++ (stem location ++ ("_" ++ resizeText v)) := by
  rw [Store.id, assetId, resizeText]
  simp only [← String.toList_inj, String.toList_append, List.append_assoc]
  rfl

/-- The name of the store keeps the identifier from being read as that of a page. -/
theorem silent_onlineId (v : View) (url : String) : Line.Silent ("  - id: " ++ online.id v url) := by
  have hone : OneLine (online.id v url) := oneLine_assetId (by decide : OneLine online.family) url v
  rw [id_eq] at hone ⊢
  exact Line.silent_idRow_of_lead (by decide) (oneLine_append.1 hone).2

theorem isBlock_declareOnline {url : String} (hid : Named (online.id v url))
    (hdisplay : ∀ lead, isSilentLead lead = true → Raw (lead ++ around.device.displayId))
    (h : c ∈ declareOnline v around url) : c.IsBlock Raw Named := by
  have hone := oneLine_assetId (by decide : OneLine online.family) url v
  unfold declareOnline at h
  simp only [List.mem_cons, List.not_mem_nil, or_false] at h
  rcases h with rfl | rfl | rfl
  · refine Component.isBlock_mk (by decide) (List.cons_ne_nil _ _) ?_
    simp only [List.forall_mem_cons]
    exact ⟨isSilentRow_fixed (by decide), isSilentRow_fixed (by decide), List.forall_mem_nil _⟩
  · refine Component.isBlock_mk (by decide) (List.cons_ne_nil _ _) ?_
    simp only [List.forall_mem_cons]
    refine ⟨?_, ?_, ?_, ?_, ?_, isSilentRow_fixed (by decide), isSilentRow_fixed (by decide),
      isSilentRow_fixed (by decide), ?_, List.forall_mem_nil _⟩
    · exact isSilentRow_id (by decide) (silent_onlineId v url) hid
    · exact isSilentRow_append (by decide) (Json.oneLine_quoted _)
    · exact isSilentRow_append (by decide) (oneLine_formatOf _)
    · exact isSilentRow_append (by decide) (DisplayType.oneLine_imageType _)
    · exact isSilentRow_append (by decide) (oneLine_resizeText v)
    · split
      · exact isSilentRow_append (by decide) v.oneLine_ident
      · exact isSilentRow_raw (by decide) (hdisplay _ (by decide))
  · refine Component.isBlock_mk (by decide) (List.cons_ne_nil _ _) ?_
    simp only [List.forall_mem_cons]
    refine ⟨?_, isSilentRow_fixed (by decide), isSilentRow_append (by decide) hone, List.forall_mem_nil _⟩
    simp only [String.append_assoc]
    refine isSilentRow_append (by decide) ?_
    simp +decide only [oneLine_append, Numeric.oneLine_toString_int]

/-- The components of an image are those for the location that it has. -/
theorem Store.mem_components {k : Store} {table : PropertyTable}
    {declare : View → Surroundings → String → List Component}
    (h : c ∈ (k.behaviour table declare).components v around) :
    ∃ location, k.location? v = some location ∧ c ∈ declare v around location := by
  unfold Store.behaviour at h
  dsimp only at h
  split at h
  · next location hlocation =>
    split at h
    · exact absurd h List.not_mem_nil
    · exact ⟨location, hlocation, h⟩
  · exact absurd h List.not_mem_nil

end Image

/-- **The components that a widget asks for are blocks of silent rows,** which copy and declare
nothing but what the widget writes. -/
theorem Kind.isBlock_components [Qr.Encoder] {k : Kind} (hk : k.Writes v around Raw Named)
    (h : c ∈ k.behaviour.components v around) : c.IsBlock Raw Named := by
  cases k with
  | wifiSignal => exact SignalGauge.isBlock_components hk.signal h
  | qrCode => exact QrCode.isBlock_components (hk.own "qr_" (by decide)) h
  | graph =>
    have h : c ∈ Graph.components v around := h
    exact Graph.isBlock_components (hk.own "graph_" (by decide)) (hk.duration rfl) h
  | touchArea =>
    exact TouchArea.isBlock_components (hk.own "touch_" (by decide)) (hk.toggle rfl) hk.display h
  | image =>
    have h : c ∈ (Image.file.behaviour Image.fileTable Image.declareFile).components v around := h
    obtain ⟨path, hpath, hdeclare⟩ := Image.Store.mem_components h
    exact Image.isBlock_declareFile (hk.file rfl path hpath) hdeclare
  | onlineImage =>
    have h : c ∈ (Image.online.behaviour Image.onlineTable Image.declareOnline).components v around := h
    obtain ⟨url, hurl, hdeclare⟩ := Image.Store.mem_components h
    exact Image.isBlock_declareOnline (hk.online rfl url hurl) hk.display hdeclare
  | _ => exact absurd h List.not_mem_nil

/-- The key of a component begins with a lead of the type that asks for it. -/
theorem Kind.exists_key_eq [Qr.Encoder] {k : Kind} (h : c ∈ k.behaviour.components v around) :
    ∃ lead rest, (k, lead) ∈ Component.keyLeads ∧ c.key = lead ++ rest := by
  cases k with
  | wifiSignal =>
    have h : c ∈ SignalGauge.components v around := h
    unfold SignalGauge.components at h
    split at h
    · exact absurd h List.not_mem_nil
    · rw [List.mem_singleton.1 h]
      exact ⟨"wifi_", "signal_dbm", by decide, by decide⟩
  | qrCode =>
    have h : c ∈ QrCode.components v around := h
    unfold QrCode.components at h
    split at h
    · rw [List.mem_singleton.1 h]
      exact ⟨"qr_", v.ident, by decide, rfl⟩
    · exact absurd h List.not_mem_nil
  | graph =>
    have h : c ∈ Graph.components v around := h
    unfold Graph.components at h
    split at h
    · exact absurd h List.not_mem_nil
    · rw [List.mem_singleton.1 h]
      exact ⟨"graph_", v.ident, by decide, rfl⟩
  | touchArea =>
    have h : c ∈ TouchArea.components v around := h
    unfold TouchArea.components at h
    split at h
    · rw [List.mem_singleton.1 h]
      exact ⟨"touch_", v.ident, by decide, rfl⟩
    · exact absurd h List.not_mem_nil
  | image =>
    have h : c ∈ (Image.file.behaviour Image.fileTable Image.declareFile).components v around := h
    obtain ⟨path, -, hdeclare⟩ := Image.Store.mem_components h
    rw [List.mem_singleton.1 hdeclare]
    exact ⟨"img_", _, by decide, Image.id_eq Image.file v path⟩
  | onlineImage =>
    have h : c ∈ (Image.online.behaviour Image.onlineTable Image.declareOnline).components v around := h
    obtain ⟨url, -, hdeclare⟩ := Image.Store.mem_components h
    unfold Image.declareOnline at hdeclare
    simp only [List.mem_cons, List.not_mem_nil, or_false] at hdeclare
    rcases hdeclare with rfl | rfl | rfl
    · exact ⟨"http_", "request", by decide, by decide⟩
    · exact ⟨"online_img_", _, by decide, Image.id_eq Image.online v url⟩
    · exact ⟨"interval_", Image.online.id v url, by decide, rfl⟩
  | _ => exact absurd h List.not_mem_nil

end Blocks

end DisplayLayout
