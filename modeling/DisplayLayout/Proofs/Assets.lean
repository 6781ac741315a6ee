import DisplayLayout.Proofs.Json.Quoted
import DisplayLayout.Proofs.Refresh
import DisplayLayout.Proofs.Visibility
import DisplayLayout.Proofs.Widget.Agree
import DisplayLayout.Qr.Symbol

/-!
# Assets of images

An image is declared as an asset, and its widget draws the identifier of the
asset. The identifier keeps the size and the name of the file, but neither the
directories nor the extension, and the first to claim it gets it. So what is
declared under it has the size of the widget and a file of that name, if it is
an asset at all (`Project.asset_of_component`), and it is the file of the widget
itself unless another one or a sensor came first (`Project.declares_asset`).
-/

namespace DisplayLayout

open Text

/-- Texts with leads that clash differ, whatever stands behind the leads. -/
theorem append_ne_of_clash {lead lead' : String}
    (h : Line.clash lead.toList lead'.toList = true) (rest rest' : String) :
    lead ++ rest ≠ lead' ++ rest' := by
  intro heq
  refine Line.not_prefix_append_of_clash h rest'.toList ⟨rest.toList, ?_⟩
  rw [← String.toList_append, ← String.toList_append, heq]

theorem append_left_inj {lead s t : String} (h : lead ++ s = lead ++ t) : s = t := by
  rw [← String.toList_inj, String.toList_append, String.toList_append] at h
  exact String.toList_inj.1 (List.append_cancel_left h)

theorem not_prefix_of_clash {lead lead' : String}
    (h : Line.clash lead.toList lead'.toList = true) (rest : String) :
    ¬lead.toList <+: (lead' ++ rest).toList := by
  rw [String.toList_append]
  exact Line.not_prefix_append_of_clash h _

/-- Of rows of which one has a lead, that one alone says what stands behind the lead. -/
theorem mem_rows_iff {lead t u : String} {front back : List String}
    (hfront : ∀ row ∈ front, ¬lead.toList <+: row.toList)
    (hback : ∀ row ∈ back, ¬lead.toList <+: row.toList) :
    lead ++ t ∈ front ++ (lead ++ u) :: back ↔ t = u := by
  have hlead : lead.toList <+: (lead ++ t).toList := ⟨t.toList, String.toList_append.symm⟩
  rw [List.mem_append, List.mem_cons]
  constructor
  · rintro (h | h | h)
    · exact absurd hlead (hfront _ h)
    · exact append_left_inj h
    · exact absurd hlead (hback _ h)
  · rintro rfl
    exact Or.inr (Or.inl rfl)

namespace Image

/-! ## Sources of images -/

/-- Where an image comes from. -/
inductive Source where
  | file
  | online
deriving DecidableEq

namespace Source

/-- The type of the widgets that show images from a source. -/
def kind : Source → Kind
  | file => .image
  | online => .onlineImage

/-- The property with the location, and the family of the identifiers. -/
def store : Source → Store
  | file => Image.file
  | online => Image.online

/-- The section that assets are declared in. -/
def sectionName : Source → String
  | file => "image"
  | online => "online_image"

def table : Source → PropertyTable
  | file => fileTable
  | online => onlineTable

/-- The blocks for the image of a widget. -/
def declare : Source → View → Surroundings → String → List Component
  | file => declareFile
  | online => declareOnline

variable [Qr.Encoder]

theorem behaviour_kind (s : Source) : s.kind.behaviour = s.store.behaviour s.table s.declare := by
  cases s <;> rfl

/-- The row of a declaration that tells where the image is. -/
def locationRow : Source → String → String
  | file, location => "  - file: " ++ Json.quoted location
  | online, location => "    url: " ++ Json.quoted location

/-- A widget through the table of its source. -/
def view (s : Source) (w : Widget) : View := w.view s.kind.behaviour

/-- A widget that shows the image at a location. -/
def Shows (s : Source) (w : Widget) (location : String) : Prop :=
  w.type = s.kind.tag ∧ s.store.location? (s.view w) = some location

/-- The identifier of the asset of a widget. -/
def assetId (s : Source) (w : Widget) (location : String) : String :=
  s.store.id (s.view w) location

end Source

/-- The row of a declaration that tells the size of an image. -/
def resizeRow (size : String) : String := "    resize: " ++ size

/-- A block that declares the image at a location in the size of a widget, and no other. -/
structure Source.Declares [Qr.Encoder] (s : Source) (c : Component) (w : Widget) (location : String) :
    Prop where
  sectionName : c.sectionName = s.sectionName
  key : c.key = s.assetId w location
  location : ∀ l, s.locationRow l ∈ c.lines ↔ l = location
  size : ∀ t, resizeRow t ∈ c.lines ↔ t = resizeText (s.view w)

/-! ## Identifiers of assets -/

theorem toList_resizeText (v : View) : (resizeText v).toList
    = (toString v.widget.width).toList ++ 'x' :: (toString v.widget.height).toList := by
  rw [resizeText, String.toList_append, String.toList_append, List.append_assoc]
  rfl

/-- A size tells the width and the height. -/
theorem resizeText_inj {v v' : View} (h : resizeText v = resizeText v') :
    v.widget.width = v'.widget.width ∧ v.widget.height = v'.widget.height := by
  have hsep := Numeric.notMem_toString_int (c := 'x') (by decide) (by decide)
  rw [← String.toList_inj, toList_resizeText, toList_resizeText] at h
  obtain ⟨hwidth, hheight⟩ := append_sep_inj (hsep _) (hsep _) h
  exact ⟨toString_int_inj (String.toList_inj.1 hwidth),
    toString_int_inj (String.toList_inj.1 hheight)⟩

namespace Source

variable [Qr.Encoder] {s : Source} {w w' : Widget} {location location' : String}

/-- The parts of an identifier. -/
theorem assetId_eq (s : Source) (w : Widget) (location : String) : s.assetId w location
    = (s.store.family ++ "_") ++ (stem location ++ ("_" ++ resizeText (s.view w))) :=
  id_eq s.store (s.view w) location

/-- **An identifier keeps the name of the file and the size of the widget.** -/
theorem assetId_inj (h : s.assetId w location = s.assetId w' location') :
    stem location = stem location' ∧ resizeText (s.view w) = resizeText (s.view w') := by
  have hsize : ∀ w, '_' ∉ (resizeText (s.view w)).toList := by
    intro w hmem
    have hsep := Numeric.notMem_toString_int (c := '_') (by decide) (by decide)
    rw [toList_resizeText, List.mem_append, List.mem_cons] at hmem
    rcases hmem with hmem | hmem | hmem
    · exact hsep _ hmem
    · exact absurd hmem (by decide)
    · exact hsep _ hmem
  rw [assetId_eq, assetId_eq] at h
  have hrest := congrArg String.toList (append_left_inj h)
  rw [String.toList_append, String.toList_append, String.toList_append, String.toList_append] at hrest
  obtain ⟨hstem, hresize⟩ := append_sep_inj (hsize w) (hsize w') hrest
  exact ⟨String.toList_inj.1 hstem, String.toList_inj.1 hresize⟩

theorem Shows.behaviourIn? (h : s.Shows w location) (mode : Mode) :
    w.behaviourIn? mode = some s.kind.behaviour := by
  have hmodes : s.kind.behaviour.modes.contains mode = true := by
    cases s <;> cases mode <;> rfl
  rw [Widget.behaviourIn?, Widget.behaviour?_of_type h.1, Option.filter_some, if_pos hmodes]

/-! ## Blocks that declare assets -/

theorem declares_file {around : Surroundings} {c : Component}
    (h : c ∈ declareFile (file.view w) around location) : file.Declares c w location := by
  have hdither : ∀ {lead : String}, Line.clash lead.toList "    dither: FLOYDSTEINBERG".toList = true →
      ∀ row ∈ if around.device.displayType = .binary then ["    dither: FLOYDSTEINBERG"] else [],
        ¬lead.toList <+: row.toList := by
    intro lead hclash
    split
    · refine List.forall_mem_singleton.2 ?_
      simpa using Line.not_prefix_append_of_clash hclash []
    · exact List.forall_mem_nil _
  let id := file.assetId w location
  let type := around.device.displayType.imageType
  let dither := if around.device.displayType = .binary then ["    dither: FLOYDSTEINBERG"] else []
  let size := resizeText (file.view w)
  rw [List.mem_singleton.1 h]
  refine ⟨rfl, rfl, fun l => ?_, fun t => ?_⟩
  · show "  - file: " ++ Json.quoted l ∈ [] ++ ("  - file: " ++ Json.quoted location)
      :: (["    id: " ++ id, "    type: " ++ type, "    resize: " ++ size] ++ dither) ↔ _
    refine (mem_rows_iff (List.forall_mem_nil _) ?_).trans ⟨Json.quoted_inj, congrArg _⟩
    simp only [List.forall_mem_append, List.forall_mem_cons]
    exact ⟨⟨not_prefix_of_clash (by decide) _, not_prefix_of_clash (by decide) _,
      not_prefix_of_clash (by decide) _, List.forall_mem_nil _⟩, hdither (by decide)⟩
  · show "    resize: " ++ t ∈ ["  - file: " ++ Json.quoted location, "    id: " ++ id,
      "    type: " ++ type] ++ ("    resize: " ++ size) :: dither ↔ _
    refine mem_rows_iff ?_ (hdither (by decide))
    simp only [List.forall_mem_cons]
    exact ⟨not_prefix_of_clash (by decide) _, not_prefix_of_clash (by decide) _,
      not_prefix_of_clash (by decide) _, List.forall_mem_nil _⟩

/-- Of the blocks for a downloaded image, the one with its identifier declares it. -/
theorem declares_online {around : Surroundings} {c : Component}
    (h : c ∈ declareOnline (online.view w) around location) (hkey : c.key = online.assetId w' location') :
    online.Declares c w location := by
  let id := online.assetId w location
  let type := around.device.displayType.imageType
  let size := resizeText (online.view w)
  let action := if around.mode = .retained then "        - lvgl.widget.refresh: " ++ (online.view w).ident
    else "        - component.update: " ++ around.device.displayId
  have hid : ∀ lead rest : String, Line.clash lead.toList "online_img_".toList = true →
      lead ++ rest ≠ online.assetId w' location' := by
    intro lead rest hclash
    rw [assetId_eq]
    exact append_ne_of_clash hclash _ _
  have haction : ∀ lead : String, Line.clash lead.toList "        - lvgl.".toList = true →
      Line.clash lead.toList "        - component.".toList = true → ¬lead.toList <+: action.toList := by
    intro lead hrefresh hupdate
    have hrow : action = "        - lvgl." ++ ("widget.refresh: " ++ (online.view w).ident)
        ∨ action = "        - component." ++ ("update: " ++ around.device.displayId) := by
      simp only [action, ← String.append_assoc]
      split
      · exact Or.inl rfl
      · exact Or.inr rfl
    rcases hrow with hrow | hrow
    · exact hrow ▸ not_prefix_of_clash hrefresh _
    · exact hrow ▸ not_prefix_of_clash hupdate _
  unfold declareOnline at h
  simp only [List.mem_cons, List.not_mem_nil, or_false] at h
  rcases h with rfl | rfl | rfl
  · have hname : "http_" ++ "request" = "http_request" := by decide
    exact absurd (hname.trans hkey) (hid _ _ (by decide))
  · refine ⟨rfl, rfl, fun l => ?_, fun t => ?_⟩
    · show "    url: " ++ Json.quoted l ∈ ["  - id: " ++ id] ++ ("    url: " ++ Json.quoted location)
        :: ["    format: " ++ formatOf location, "    type: " ++ type, "    resize: " ++ size,
          "    update_interval: never", "    on_download_finished:", "      then:", action] ↔ _
      refine (mem_rows_iff ?_ ?_).trans ⟨Json.quoted_inj, congrArg _⟩
      · exact List.forall_mem_singleton.2 (not_prefix_of_clash (by decide) _)
      · simp only [List.forall_mem_cons]
        exact ⟨not_prefix_of_clash (by decide) _, not_prefix_of_clash (by decide) _,
          not_prefix_of_clash (by decide) _, by decide, by decide, by decide, haction _ (by decide) (by decide),
          List.forall_mem_nil _⟩
    · show "    resize: " ++ t ∈ ["  - id: " ++ id, "    url: " ++ Json.quoted location,
        "    format: " ++ formatOf location, "    type: " ++ type] ++ ("    resize: " ++ size)
        :: ["    update_interval: never", "    on_download_finished:", "      then:", action] ↔ _
      refine mem_rows_iff ?_ ?_
      · simp only [List.forall_mem_cons]
        exact ⟨not_prefix_of_clash (by decide) _, not_prefix_of_clash (by decide) _,
          not_prefix_of_clash (by decide) _, not_prefix_of_clash (by decide) _, List.forall_mem_nil _⟩
      · simp only [List.forall_mem_cons]
        exact ⟨by decide, by decide, by decide, haction _ (by decide) (by decide), List.forall_mem_nil _⟩
  · exact absurd hkey (hid _ _ (by decide))

/-! ## What claims the identifier of an asset -/

theorem declares_of_declare {around : Surroundings} {c : Component}
    (h : c ∈ s.declare (s.view w) around location) (hkey : c.key = s.assetId w' location') :
    s.Declares c w location := by
  cases s with
  | file => exact declares_file h
  | online => exact declares_online h hkey

theorem exists_declare (s : Source) (w : Widget) (around : Surroundings) (location : String) :
    ∃ c ∈ s.declare (s.view w) around location, c.key = s.assetId w location := by
  cases s with
  | file => exact ⟨_, List.mem_cons_self, rfl⟩
  | online => exact ⟨_, List.mem_cons_of_mem _ List.mem_cons_self, rfl⟩

theorem components_of_shows {around : Surroundings} (h : s.Shows w location)
    (hmode : around.mode.isProtocol = false) :
    s.kind.behaviour.components (s.view w) around = s.declare (s.view w) around location := by
  rw [behaviour_kind]
  simp only [Store.behaviour, h.2, hmode]
  rfl

theorem mem_components {around : Surroundings} {c : Component}
    (h : c ∈ s.kind.behaviour.components (s.view w) around) :
    ∃ location, s.store.location? (s.view w) = some location
      ∧ c ∈ s.declare (s.view w) around location := by
  rw [behaviour_kind] at h
  exact Store.mem_components h

/-- **Only an image of the source is a component with the identifier of an asset.** -/
theorem asset_of_components {k : Kind} {around : Surroundings} {c : Component}
    (hc : c ∈ k.behaviour.components (w.view k.behaviour) around)
    (hkey : c.key = s.assetId w' location') :
    k = s.kind ∧ ∃ location, s.store.location? (s.view w) = some location ∧ s.Declares c w location := by
  by_cases hkind : k = s.kind
  · subst hkind
    obtain ⟨location, hlocation, hc⟩ := mem_components hc
    exact ⟨rfl, location, hlocation, declares_of_declare hc hkey⟩
  · -- The leads of other types clash with that of the source.
    have hclash : ∀ q ∈ Component.keyLeads, q.1 ≠ s.kind →
        Line.clash q.2.toList (s.store.family ++ "_").toList = true := by
      cases s <;> decide
    obtain ⟨lead, rest, hlead, hrest⟩ := Kind.exists_key_eq hc
    rw [hrest, assetId_eq] at hkey
    exact absurd hkey (append_ne_of_clash (hclash _ hlead hkind) _ _)

/-- The only global variable that a widget asks for counts the pages. -/
theorem id_of_globals {k : Kind} {v : View} {around : Surroundings} {g : Global}
    (h : g ∈ k.behaviour.globals v around) : g.id = TouchArea.pageCountId := by
  cases k with
  | touchArea =>
    have h : g ∈ TouchArea.globals v around := h
    unfold TouchArea.globals at h
    dsimp only at h
    split at h
    · split at h
      · rw [List.mem_singleton.1 h]
      · rw [List.mem_singleton.1 h]
      · exact absurd h List.not_mem_nil
    · exact absurd h List.not_mem_nil
  | _ => exact absurd h List.not_mem_nil

/-- Nothing claims the identifier of an asset but sensors and images of the source. -/
theorem asset_of_requests {around : Surroundings} {r : Request} (hr : r ∈ w.requests around)
    (hid : r.id = s.assetId w' location') :
    (∃ t, r = .sensor t)
      ∨ ∃ location c, r = .component c ∧ s.Shows w location ∧ s.Declares c w location := by
  obtain ⟨k, htype, -, hasks⟩ := Widget.asks_of_mem_requests hr
  cases hasks with
  | sensor hs => exact Or.inl ⟨_, rfl⟩
  | condition hmode hc => exact Or.inl ⟨_, rfl⟩
  | component hc =>
    obtain ⟨rfl, location, hlocation, hdeclares⟩ := asset_of_components hc hid
    exact Or.inr ⟨location, _, rfl, ⟨htype, hlocation⟩, hdeclares⟩
  | globalVariable hg =>
    have hlead : TouchArea.pageCountId = "display_" ++ "page_count" := by decide
    rw [Request.id, id_of_globals hg, hlead, assetId_eq] at hid
    exact absurd hid (append_ne_of_clash (by cases s <;> decide) _ _)

end Source

end Image

open Image

section Declared

variable [Qr.Encoder] {p : Project} {mode : Mode} {device : Device} {s : Source} {w : Widget}
  {location : String}

/-- **What claims the identifier of an asset** in a project is a sensor or an image of the source. -/
theorem Project.asset_of_claims {r : Request} (hr : r ∈ p.claims mode device)
    (hid : r.id = s.assetId w location) :
    (∃ t, r = .sensor t) ∨ ∃ w' ∈ p.widgets, ∃ location' c,
      r = .component c ∧ s.Shows w' location' ∧ s.Declares c w' location' := by
  rcases List.mem_append.1 hr with hfixed | hrequest
  · have hids : ∀ r ∈ fixedGlobals.map Request.globalVariable,
        r.id = "display_" ++ "page" ∨ r.id = "page_" ++ "refresh_default_s" := by decide
    have hlead := hids r hfixed
    rw [hid, Source.assetId_eq] at hlead
    rcases hlead with hlead | hlead
    · exact absurd hlead.symm (append_ne_of_clash (by cases s <;> decide) _ _)
    · exact absurd hlead.symm (append_ne_of_clash (by cases s <;> decide) _ _)
  · obtain ⟨⟨around, w'⟩, hw', hr⟩ := List.mem_flatMap.1 hrequest
    obtain ⟨-, -, hmem⟩ := mem_situated hw'
    refine (Source.asset_of_requests hr hid).imp_right ?_
    rintro ⟨location', c, hc, hshows, hdeclares⟩
    exact ⟨w', hmem, location', c, hc, hshows, hdeclares⟩

/-- The block that an image asks for. -/
theorem Image.Source.exists_request (hw : s.Shows w location) {around : Surroundings}
    (hmode : around.mode.isProtocol = false) :
    ∃ c, .component c ∈ w.requests around ∧ s.Declares c w location := by
  have hb := hw.behaviourIn? around.mode
  have hrequest : ∀ c ∈ s.kind.behaviour.components (s.view w) around,
      .component c ∈ w.requests around := by
    intro c hc
    simp only [Widget.requests, hb]
    exact List.mem_append_left _ (List.mem_append_right _ (List.mem_map_of_mem hc))
  obtain ⟨c, hc, hkey⟩ := s.exists_declare w around location
  have hmem : c ∈ s.kind.behaviour.components (s.view w) around := by
    rw [Source.components_of_shows hw hmode]
    exact hc
  exact ⟨c, hrequest c hmem, Source.declares_of_declare hc hkey⟩

end Declared

/-! ## What a widget draws -/

/-- The call that draws an asset at the place of a widget, without its colors. -/
def Image.placeCall (v : View) (id : String) : String :=
  s!"it.image({v.widget.x}, {v.widget.y}, id({id})"

theorem Image.exists_lines_drawAsset (v : View) (s : Surface) (id : String) :
    ∃ rest, (drawAsset v s id).lines = [placeCall v id ++ rest] := by
  unfold drawAsset
  dsimp only
  split
  · exact ⟨_, rfl⟩
  · generalize (if v.flag "invert" then (s.direct "white", s.direct "black")
      else (s.direct "black", s.direct "white")) = colors
    refine ⟨", " ++ colors.1 ++ ", " ++ colors.2 ++ ");", ?_⟩
    simp only [placeCall, Drawing.line, String.append_assoc]

/-- The node that shows an asset. -/
def Image.assetNode (v : View) (id : String) : Json :=
  Node.of "image"
    [("id", .string v.ident), ("x", .int v.widget.x), ("y", .int v.widget.y), ("src", .string id)]

/-- A widget draws an asset: in a display lambda by a call, and in a page tree by a node. -/
def Project.DrawsAsset [Qr.Encoder] (p : Project) (config : Config) (v : View) (id : String) :
    Prop :=
  let pages := p.visit DisplayLambda.form config
  (config.mode = .direct → ∃ front rest,
      front ++ placeCall v id ++ rest ∈ DisplayLambda.lines (registries config pages) pages)
    ∧ (config.mode = .retained →
      assetNode v id ∈ PageTree.nodes (p.compile config).artifact.document)

/-- The first claim on the identifier of an asset is that of a sensor, or that of an image at
another location. -/
def Project.GivesAway [Qr.Encoder] (p : Project) (mode : Mode) (device : Device) (s : Source)
    (w : Widget) (location : String) : Prop :=
  ∃ r, Request.first? (p.claims mode device) (s.assetId w location) = some r
    ∧ ((∃ t, r = .sensor t) ∨ ∃ w' ∈ p.widgets, ∃ location' c,
      r = .component c ∧ s.Shows w' location' ∧ s.Declares c w' location' ∧ location' ≠ location)

section Asset

variable [Qr.Encoder] {p : Project} {config : Config} {s : Source} {w : Widget} {location : String}

theorem Image.Source.direct_of_shows (h : s.Shows w location) (surface : Surface) :
    s.kind.behaviour.direct (s.view w) surface
      = drawAsset (s.view w) surface (s.assetId w location) := by
  rw [Source.behaviour_kind]
  simp only [Store.behaviour, h.2]
  rfl

theorem Image.Source.retained_of_shows (h : s.Shows w location) (surface : Surface) :
    (s.kind.behaviour.retained (s.view w) surface).node
      = some (assetNode (s.view w) (s.assetId w location)) := by
  rw [Source.behaviour_kind]
  simp only [Store.behaviour, h.2]
  rfl

omit [Qr.Encoder] in
/-- A statement stands behind a condition as it is, but for the blanks in front of it. -/
theorem DisplayLambda.exists_mem_guarded (w : Widget) {row : String} {body : List String}
    (h : row ∈ body) : ∃ front, front ++ row ∈ guarded w body := by
  rw [guarded]
  split
  · refine ⟨"  ", List.mem_append_left _ (List.mem_cons_of_mem _ ?_)⟩
    exact List.mem_map_of_mem h
  · exact ⟨"", String.empty_append ▸ h⟩

/-- **An image draws its asset.** -/
theorem Project.drawsAsset {page : Page} (hpage : page ∈ p.pages) (hw : w ∈ page.widgets)
    (hshows : s.Shows w location) : p.DrawsAsset config (s.view w) (s.assetId w location) := by
  have hb := hshows.behaviourIn?
  constructor
  · intro hmode
    let surface := (VisitedPage.ofPage DisplayLambda.form config p.dark page).surface
    obtain ⟨rest, hlines⟩ := exists_lines_drawAsset (s.view w) surface (s.assetId w location)
    obtain ⟨front, hrow⟩ : ∃ front, front ++ placeCall (s.view w) (s.assetId w location) ++ rest
        ∈ (DisplayLambda.form.emission surface s.kind.behaviour w).content := by
      have hcontent : (DisplayLambda.form.emission surface s.kind.behaviour w).content
          = DisplayLambda.block (s.view w) (s.kind.behaviour.direct (s.view w) surface).lines := rfl
      rw [hcontent, Source.direct_of_shows hshows, hlines]
      obtain ⟨front, hmem⟩ := DisplayLambda.exists_mem_guarded w (List.mem_singleton_self _)
      rw [← String.append_assoc] at hmem
      exact ⟨front, List.mem_cons_of_mem _ hmem⟩
    refine ⟨"  " ++ front, rest, ?_⟩
    have hline := DisplayLambda.content_mem_lines hpage hw (hb config.mode) hrow
      (registries config (p.visit DisplayLambda.form config))
    rw [Lambda.indent] at hline
    simpa only [String.append_assoc] using hline
  · intro hmode
    refine (PageTree.mem_nodes_compile hmode).2 ⟨page, hpage, w, hw, _, hb .retained, ?_⟩
    show _ = Option.getD (s.kind.behaviour.retained (s.view w) _).node _
    rw [Source.retained_of_shows hshows, Option.getD_some]

/-- What is declared under the identifier of an asset is an asset of a file with its name. -/
theorem Project.asset_of_component {c : Component}
    (hc : c ∈ (p.declare config.mode config.device).components) (hkey : c.key = s.assetId w location) :
    ∃ w' ∈ p.widgets, ∃ location', s.Shows w' location' ∧ s.Declares c w' location'
      ∧ stem location' = stem location ∧ w'.width = w.width ∧ w'.height = w.height := by
  obtain ⟨-, hfirst⟩ := (mem_components_declare _ _ _).1 hc
  obtain ⟨t, ht⟩ | ⟨w', hw', location', c', hcomponent, hshows', hdeclares⟩ :=
    asset_of_claims (Request.mem_of_first? hfirst).1 hkey
  · cases ht
  · cases hcomponent
    obtain ⟨hstem, hsize⟩ := Source.assetId_inj (hdeclares.key.symm.trans hkey)
    exact ⟨w', hw', location', hshows', hdeclares, hstem, resizeText_inj hsize⟩

/-- An image claims the identifier of its asset. -/
theorem Project.exists_first_asset (hmode : config.mode = .direct ∨ config.mode = .retained)
    {page : Page} (hpage : page ∈ p.pages) (hw : w ∈ page.widgets) (hshows : s.Shows w location) :
    ∃ r, Request.first? (p.claims config.mode config.device) (s.assetId w location) = some r := by
  obtain ⟨i, hi, rfl⟩ := List.getElem_of_mem hpage
  let around : Surroundings := ⟨config.mode, p.pages.length, i, config.device⟩
  have hsituated : (around, w) ∈ p.situated config.mode config.device :=
    (mem_situated_iff p _ _).2 ⟨i, p.pages[i], List.getElem?_eq_getElem hi, hw, rfl⟩
  have hprotocol : around.mode.isProtocol = false := by
    show config.mode.isProtocol = false
    rcases hmode with hmode | hmode <;> rw [hmode] <;> rfl
  obtain ⟨own, hown, hdeclares⟩ := Source.exists_request hshows hprotocol
  obtain ⟨r, hr⟩ := Request.exists_first? (mem_claims p _ _ hsituated hown)
  have hkey : (Request.component own).id = s.assetId w location := hdeclares.key
  exact ⟨r, hkey ▸ hr⟩

/-- An asset that is declared for an image has not been given away. -/
theorem Project.not_givesAway_of_declares {c : Component}
    (hc : c ∈ (p.declare config.mode config.device).components) (hdeclares : s.Declares c w location) :
    ¬p.GivesAway config.mode config.device s w location := by
  rintro ⟨r, hr, hother⟩
  obtain ⟨-, hfirst⟩ := (mem_components_declare _ _ _).1 hc
  rw [hdeclares.key] at hfirst
  cases hfirst.symm.trans hr
  rcases hother with ⟨t, ht⟩ | ⟨w', -, location', c', hcomponent, -, hdeclares', hne⟩
  · cases ht
  · cases hcomponent
    exact hne ((hdeclares.location location').1 ((hdeclares'.location location').2 rfl))

theorem Image.Source.assetId_ne_timeSource (s : Source) (w : Widget) (location : String) :
    s.assetId w location ≠ Ledger.timeSource := by
  have hlead : Ledger.timeSource = "ha_" ++ "time" := by decide
  rw [assetId_eq, hlead]
  exact append_ne_of_clash (by cases s <;> decide) _ _

/-- An asset whose identifier has been claimed, and not given away, is declared. -/
theorem Project.declares_of_not_givesAway {r : Request}
    (hr : Request.first? (p.claims config.mode config.device) (s.assetId w location) = some r)
    (hkept : ¬p.GivesAway config.mode config.device s w location) :
    ∃ c ∈ (p.declare config.mode config.device).components, s.Declares c w location := by
  obtain ⟨hclaim, hid⟩ := Request.mem_of_first? hr
  obtain ⟨t, ht⟩ | ⟨w', hw', location', c, rfl, hshows', hdeclares⟩ := asset_of_claims hclaim hid
  · exact absurd ⟨r, hr, Or.inl ⟨t, ht⟩⟩ hkept
  · have hsame : location' = location := by
      -- at another location it would be a reason to give the identifier away
      by_contra hne
      exact hkept ⟨_, hr, Or.inr ⟨w', hw', location', c, rfl, hshows', hdeclares, hne⟩⟩
    subst hsame
    have hkey : c.key = s.assetId w location' := hid
    have hsize := (Source.assetId_inj (hdeclares.key.symm.trans hkey)).2
    have htime : c.key ≠ Ledger.timeSource := hkey ▸ s.assetId_ne_timeSource w location'
    refine ⟨c, (mem_components_declare _ _ _).2 ⟨htime, hkey ▸ hr⟩, hdeclares.sectionName, hkey,
      hdeclares.location, fun t => ?_⟩
    rw [hdeclares.size, hsize]

/-- **An image draws an asset of its size and of a file with its name,** and it is its own file but
for two reasons: a sensor or an image at another location claims the identifier first. Whatever is
declared under the identifier is an image of the source, of the size of the widget, and nothing is
declared under it twice. -/
theorem Project.declares_asset (hmode : config.mode = .direct ∨ config.mode = .retained)
    {page : Page} (hpage : page ∈ p.pages) (hw : w ∈ page.widgets) (hshows : s.Shows w location) :
    let d := p.declare config.mode config.device
    let id := s.assetId w location
    p.DrawsAsset config (s.view w) id
      ∧ ((∃ c ∈ d.components, s.Declares c w location)
          ↔ ¬p.GivesAway config.mode config.device s w location)
      ∧ (∀ c ∈ d.components, c.key = id → ∃ w' ∈ p.widgets, ∃ location',
          s.Shows w' location' ∧ s.Declares c w' location'
            ∧ stem location' = stem location ∧ w'.width = w.width ∧ w'.height = w.height)
      ∧ (d.sensors.map Sensor.id ++ d.components.map Component.key
          ++ d.globals.map Global.id).count id ≤ 1 := by
  intro d id
  refine ⟨drawsAsset hpage hw hshows, ⟨?_, ?_⟩, fun c => asset_of_component, ?_⟩
  · rintro ⟨c, hc, hdeclares⟩
    exact not_givesAway_of_declares hc hdeclares
  · intro hkept
    obtain ⟨r, hr⟩ := exists_first_asset hmode hpage hw hshows
    exact declares_of_not_givesAway hr hkept
  · have hdistinct := (followsLedger_declare p config.mode config.device).distinct
    exact List.nodup_iff_count_le_one.1 (List.nodup_cons.1 hdistinct).2 id

end Asset

/-- A widget that shows a file. -/
def imageAt (id path : String) : Widget :=
  { id, type := "image", width := 100, height := 20, props := [("path", .string path)] }

/-- A page with two images of one size. -/
def imagesAt (path path' : String) : Project :=
  { pages := [{ widgets := [imageAt "a" path, imageAt "b" path'] }] }

/-- Files with names of their own are declared for their widgets. -/
theorem declares_asset_moon :
    let p := imagesAt "/day/sun.png" "/night/moon.png"
    let w := imageAt "b" "/night/moon.png"
    p.DrawsAsset {} (Source.file.view w) "img_moon_100x20"
      ∧ ∃ c ∈ (p.declare .direct {}).components, Source.file.Declares c w "/night/moon.png" := by
  intro p w
  have hshows : Source.file.Shows w "/night/moon.png" := ⟨by decide, by decide⟩
  have hid : Source.file.assetId w "/night/moon.png" = "img_moon_100x20" := by decide
  have hmode : ({} : Config).mode = .direct ∨ ({} : Config).mode = .retained := Or.inl rfl
  have hpage : { widgets := [imageAt "a" "/day/sun.png", w] } ∈ p.pages := List.mem_cons_self
  obtain ⟨hdraws, hdeclares, -, -⟩ := Project.declares_asset hmode hpage
    (List.mem_cons_of_mem _ List.mem_cons_self) hshows
  rw [hid] at hdraws
  refine ⟨hdraws, hdeclares.2 ?_⟩
  rintro ⟨r, hr, hother⟩
  let moon : Component := ⟨"image", "img_moon_100x20", ["  - file: \"/night/moon.png\"",
    "    id: img_moon_100x20", "    type: BINARY", "    resize: 100x20", "    dither: FLOYDSTEINBERG"]⟩
  have hfirst : Request.first? (p.claims .direct {}) "img_moon_100x20" = some (.component moon) := by
    decide +kernel
  rw [hid] at hr
  cases hfirst.symm.trans hr
  rcases hother with ⟨t, ht⟩ | ⟨w', -, location', c, hcomponent, -, hmoon, hne⟩
  · cases ht
  · cases hcomponent
    have hrow : Source.file.locationRow "/night/moon.png" ∈ moon.lines := by decide
    exact hne ((hmoon.location _).1 hrow).symm

/-- **An image may draw the asset of another file.** Files of one name in two directories have one
identifier if their widgets have one size, and the second file is not declared at all. -/
theorem exists_foreign_asset :
    let p := imagesAt "/day/logo.png" "/night/logo.png"
    let w := imageAt "b" "/night/logo.png"
    (p.widgets.map Widget.id).Nodup ∧ Source.file.Shows w "/night/logo.png"
      ∧ Source.file.assetId w "/night/logo.png" = "img_logo_100x20"
      ∧ ∀ mode ∈ [Mode.direct, Mode.retained],
        (∃ c ∈ (p.declare mode {}).components, c.key = "img_logo_100x20"
            ∧ Source.file.locationRow "/day/logo.png" ∈ c.lines)
          ∧ ∀ c ∈ (p.declare mode {}).components, ¬Source.file.Declares c w "/night/logo.png" := by
  intro p w
  have hrow : ∀ mode ∈ [Mode.direct, Mode.retained], ∀ c ∈ (p.declare mode {}).components,
      Source.file.locationRow "/night/logo.png" ∉ c.lines := by decide +kernel
  refine ⟨by decide, ⟨by decide, by decide⟩, by decide, fun mode hmode => ⟨?_, fun c hc hdeclares => ?_⟩⟩
  · revert mode
    decide +kernel
  · exact hrow mode hmode c hc ((hdeclares.location _).2 rfl)

end DisplayLayout
