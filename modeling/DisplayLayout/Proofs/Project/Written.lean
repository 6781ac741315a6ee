import DisplayLayout.Project.Document
import DisplayLayout.Proofs.Json.Keys
import DisplayLayout.Proofs.Recovery.Sites
import DisplayLayout.Qr.Symbol

/-!
# Projects are written and read back

The document of a project has every field that is set, so reading it gives the
project back as long as its places are 32-bit integers (`Project.decode_toJson`).
The document is one that can be written: no object of it has a key twice. Every
project that is read from a text satisfies both, and it is in normal form, so it
survives being written (`Project.ofJson_toJson`).
-/

namespace DisplayLayout

namespace Project

/-! ## Fields one after the other -/

theorem setFields_append {α : Type} {set : α → String → Json → Read α} {a b c : α}
    {fields more : List (String × Json)} (h : setFields set a fields = .ok b)
    (hmore : setFields set b more = .ok c) : setFields set a (fields ++ more) = .ok c := by
  rw [setFields] at h hmore ⊢
  rw [List.foldlM_append, h]
  exact hmore

/-- A field that is written only if it is set leads to the same as setting it. -/
theorem setFields_optional {α : Type} {set : α → String → Json → Read α} {a b : α} {key : String}
    {value : Option String} (hsome : ∀ s, value = some s → set a key (.string s) = .ok b)
    (hnone : value = none → a = b) : setFields set a (optionalField key value) = .ok b := by
  cases value with
  | none =>
    rw [hnone rfl]
    rfl
  | some s =>
    rw [optionalField, setFields, List.foldlM_cons, hsome s rfl]
    rfl

/-- Items that are read back one by one are read back as a list. -/
theorem mapM_map {α : Type} {read : Json → Read α} {write : α → Json} {as : List α}
    (h : ∀ a ∈ as, read (write a) = .ok a) : (as.map write).mapM read = .ok as := by
  rw [List.mapM_map]
  exact (Text.mapM_eq_pure h).trans (congrArg Except.ok (List.map_id as))

theorem pixel_int {n : Int} (h : Numeric.isInt32 n = true) : pixel (.int n) = n := by
  have hinteger : Json.integer? (.int n) = some n := by
    rw [Json.int, Json.integer?, if_pos (Numeric.isInt64_of_isInt32 h)]
  rw [pixel, hinteger, Option.map_some, Numeric.clampInt32_of_isInt32 h]
  rfl

/-! ## Widgets, pages and projects -/

theorem setFields_widget {w : Widget} (h : w.IsPlaced) : setFields setWidgetField { type := "" }
    [("id", .string w.id), ("type", .string w.type), ("x", .int w.x), ("y", .int w.y),
      ("width", .int w.width), ("height", .int w.height)]
    = .ok { id := w.id, type := w.type, x := w.x, y := w.y, width := w.width, height := w.height } := by
  simp only [setFields, List.foldlM_cons, List.foldlM_nil, setWidgetField, readText, Except.map,
    pixel_int h.x, pixel_int h.y, pixel_int h.width, pixel_int h.height]
  rfl

/-- **A widget is read back from its document.** -/
theorem readWidget_toJson {w : Widget} (h : w.IsPlaced) : readWidget w.toJson = .ok w := by
  have hplaced := setFields_widget h
  obtain ⟨id, type, x, y, width, height, entity, title, condEntity, condOperator, condState, condMin,
    condMax, props⟩ := w
  let placed : Widget := { id, type, x, y, width, height }
  let bound : Widget := { placed with entityId := entity }
  let titled : Widget := { bound with title }
  let shown : Widget := { titled with conditionEntity := condEntity }
  let compared : Widget := { shown with conditionOperator := condOperator }
  let stated : Widget := { compared with conditionState := condState }
  let above : Widget := { stated with conditionMin := condMin }
  let below : Widget := { above with conditionMax := condMax }
  have hentity : setFields setWidgetField placed (optionalField "entity_id" entity) = .ok bound :=
    setFields_optional (by rintro s rfl; rfl) (by rintro rfl; rfl)
  have htitle : setFields setWidgetField bound (optionalField "title" title) = .ok titled :=
    setFields_optional (by rintro s rfl; rfl) (by rintro rfl; rfl)
  have hshown : setFields setWidgetField titled (optionalField "condition_entity" condEntity)
      = .ok shown := setFields_optional (by rintro s rfl; rfl) (by rintro rfl; rfl)
  have hcompared : setFields setWidgetField shown (optionalField "condition_operator" condOperator)
      = .ok compared := setFields_optional (by rintro s rfl; rfl) (by rintro rfl; rfl)
  have hstated : setFields setWidgetField compared (optionalField "condition_state" condState)
      = .ok stated := setFields_optional (by rintro s rfl; rfl) (by rintro rfl; rfl)
  have habove : setFields setWidgetField stated (optionalField "condition_min" condMin)
      = .ok above := setFields_optional (by rintro s rfl; rfl) (by rintro rfl; rfl)
  have hbelow : setFields setWidgetField above (optionalField "condition_max" condMax)
      = .ok below := setFields_optional (by rintro s rfl; rfl) (by rintro rfl; rfl)
  have hprops : setFields setWidgetField below [("props", .object props)]
      = .ok { below with props } := rfl
  have hall := setFields_append (setFields_append (setFields_append (setFields_append (setFields_append
    (setFields_append (setFields_append (setFields_append hplaced hentity) htitle) hshown) hcompared)
    hstated) habove) hbelow) hprops
  rw [Widget.toJson, readWidget, hall]
  rfl

/-- **A page is read back from its document.** -/
theorem readPage_toJson {p : Page} (h : p.IsPlaced) : readPage p.toJson = .ok p := by
  have hwidgets : (p.widgets.map Widget.toJson).mapM readWidget = .ok p.widgets :=
    mapM_map fun w hw => readWidget_toJson (h w hw)
  obtain ⟨id, name, ownTheme, refreshType, refreshTime, widgets⟩ := p
  let named : Page := { id, name, theme := ownTheme }
  let typed : Page := { named with refreshType }
  let timed : Page := { typed with refreshTime }
  have hnamed : setFields setPageField {}
      [("id", .string id), ("name", .string name), ("dark_mode", .string ownTheme.name)] = .ok named := by
    simp only [setFields, List.foldlM_cons, List.foldlM_nil, setPageField, readText, Except.map, theme,
      Theme.ofName_name]
    rfl
  have htyped : setFields setPageField named (optionalField "refresh_type" refreshType) = .ok typed :=
    setFields_optional (by rintro s rfl; rfl) (by rintro rfl; rfl)
  have htimed : setFields setPageField typed (optionalField "refresh_time" refreshTime) = .ok timed :=
    setFields_optional (by rintro s rfl; rfl) (by rintro rfl; rfl)
  have hlast : setFields setPageField timed [("widgets", .array (widgets.map Widget.toJson))]
      = .ok { timed with widgets } := by
    simp only [setFields, List.foldlM_cons, List.foldlM_nil, setPageField, readItems]
    show (((widgets.map Widget.toJson).mapM readWidget >>= fun ws => _) >>= _ : Read Page) = _
    rw [hwidgets]
    rfl
  exact setFields_append (setFields_append (setFields_append hnamed htyped) htimed) hlast

/-- **A project is read back from its document** as it is. -/
theorem decode_toJson {p : Project} (h : p.IsPlaced) : decode p.toJson = .ok p := by
  have hpages : (p.pages.map Page.toJson).mapM readPage = .ok p.pages :=
    mapM_map fun page hpage => readPage_toJson (h page hpage)
  obtain ⟨name, dark, pages⟩ := p
  have hname : setFields setField {} (optionalField "name" name)
      = .ok { project := { name, pages := [] } } :=
    setFields_optional (by rintro s rfl; rfl) (by rintro rfl; rfl)
  have hrest : setFields setField { project := { name, pages := [] } }
      [("dark_mode", .bool dark), ("pages", .array (pages.map Page.toJson))]
      = .ok ⟨⟨name, dark, pages⟩, true⟩ := by
    show (((pages.map Page.toJson).mapM readPage >>= fun ps => _) >>= _ : Read Draft) = _
    rw [hpages]
    rfl
  have hitems : pageItems? (toJson ⟨name, dark, pages⟩) = some (pages.map Page.toJson) := by
    cases name <;> rfl
  unfold decode
  rw [hitems, toJson]
  dsimp only
  rw [setFields_append hname hrest]

theorem IsNormal.isPlaced {p : Project} (h : p.IsNormal) : p.IsPlaced :=
  fun page hpage w hw => ((h page hpage).widgets w hw).toIsPlaced

end Project

/-! ## Keys that differ -/

/-- A widget whose properties, and the objects in them, have no key twice. -/
def Widget.Distinct (w : Widget) : Prop := (Json.object w.props).Distinct

/-- A project whose widgets have no property twice. -/
def Project.Distinct (p : Project) : Prop := ∀ page ∈ p.pages, ∀ w ∈ page.widgets, w.Distinct

theorem Json.distinct_nil : (Json.object []).Distinct :=
  .object List.nodup_nil fun _ hp => absurd hp List.not_mem_nil

namespace Widget

theorem distinct_resolveAlias {w : Widget} (h : w.Distinct) : w.resolveAlias.Distinct := by
  rw [resolveAlias]
  split
  · exact h
  · next a _ =>
    refine List.foldlRecOn (motive := fun props : Props => (Json.object props).Distinct) a.implied _ h
      fun props hprops p _ => ?_
    dsimp only
    split
    · exact hprops
    · exact hprops.put p.1 (.string p.2)

theorem distinct_normalize {w : Widget} (h : w.Distinct) (page index : Nat) :
    (w.normalize page index).Distinct :=
  distinct_resolveAlias h

theorem distinct_fieldJson (d : Default) (raw : String) : (View.fieldJson d raw).Distinct := by
  cases d with
  | text s => exact .string raw
  | int n => exact .number _
  | flag b => exact .bool _
  | sameAs key => exact .string raw

theorem distinct_readProps {m : Marker} {t : PropertyTable} {w : Widget} (h : w.Distinct) :
    (View.readProps m t w).Distinct := by
  induction t generalizing w with
  | nil => exact h
  | cons p t ih =>
    refine ih ?_
    dsimp only
    split
    · next raw _ => exact Json.Distinct.put h p.key (distinct_fieldJson p.fallback raw)
    · exact h

theorem distinct_readMarker {m : Marker} {w : Widget} (h : w.Distinct) :
    (Condition.readMarker m w).Distinct := by
  unfold Condition.readMarker
  split <;> exact h

theorem distinct_ofMarker? [Qr.Encoder] {m : Marker} {w : Widget} (h : ofMarker? m = some w) :
    w.Distinct := by
  unfold ofMarker? at h
  simp only [Option.bind_eq_bind, Option.bind_eq_some_iff, Option.pure_def, Option.some.injEq] at h
  obtain ⟨b, -, rfl⟩ := h
  have hblank : (resolveAlias { type := m.type }).Distinct := distinct_resolveAlias Json.distinct_nil
  exact distinct_readMarker (distinct_readProps hblank)

end Widget

theorem DrawCall.distinct_shape (call : DrawCall) (id : String) : (call.shape id).Distinct := by
  have hone : ∀ (key : String) (j : Json), j.Distinct → (Json.object [(key, j)]).Distinct :=
    fun key j hj => .object (List.nodup_singleton key) (List.forall_mem_singleton.2 hj)
  cases call with
  | rectangle x y w h filled => exact hone "fill" _ (.bool filled)
  | circle cx cy r filled => exact hone "fill" _ (.bool filled)
  | line x1 y1 x2 y2 =>
    have hkeys : ["stroke_width", "orientation"].Nodup := by decide
    exact .object hkeys (List.forall_mem_cons.2 ⟨.number _, List.forall_mem_singleton.2 (.string _)⟩)

/-- A site gives a widget whose keys differ. -/
theorem Recovery.Site.distinct_widget? [Qr.Encoder] {s : Site} {w : Widget}
    (h : s.widget? = some w) :
    w.Distinct := by
  unfold widget? at h
  split at h
  · cases h
    exact DrawCall.distinct_shape _ _
  · cases hline : s.line with
    | marker m =>
      rw [hline] at h
      exact Widget.distinct_ofMarker? h
    | _ =>
      rw [hline] at h
      cases h

namespace Project

theorem distinct_setWidgetField (w : Widget) (key : String) (j : Json) (w' : Widget)
    (hj : j.Distinct) (hw : w.Distinct) (h : setWidgetField w key j = .ok w') : w'.Distinct := by
  unfold setWidgetField at h
  split at h
  case h_1 => obtain ⟨_, -, rfl⟩ := map_ok h; exact hw
  case h_2 => obtain ⟨_, -, rfl⟩ := map_ok h; exact hw
  case h_14 =>
    obtain ⟨props, hprops, rfl⟩ := map_ok h
    unfold readProps at hprops
    split at hprops
    · cases hprops
      exact hj
    · cases hprops
  all_goals
    cases h
    exact hw

theorem distinct_decode {document : Json} {p : Project} (hdocument : document.Distinct)
    (h : decode document = .ok p) : p.Distinct := by
  have hparts : Inherited Json.Distinct := ⟨Json.Distinct.entries, Json.Distinct.items⟩
  have hblank : Widget.Distinct { type := "" } := Json.distinct_nil
  exact forall_decode hparts (forall_readWidget hparts hblank distinct_setWidgetField) hdocument h

theorem distinct_normalize {p : Project} (h : p.Distinct) : p.normalize.Distinct := by
  intro page hpage w hw
  obtain ⟨i, hi, rfl⟩ := List.mem_mapIdx.1 hpage
  obtain ⟨k, hk, rfl⟩ := List.mem_mapIdx.1 hw
  exact Widget.distinct_normalize (h _ (List.getElem_mem hi) _ (List.getElem_mem hk)) i k

/-- **No project that is read from a text has a property twice.** -/
theorem distinct_ofAnyText [Qr.Encoder] {text : String} {l : Loaded} (h : ofAnyText text = .ok l) :
    l.project.Distinct := by
  unfold ofAnyText at h
  split at h
  · unfold ofText readDocument at h
    cases hread : Json.read? text with
    | none =>
      rw [hread] at h
      cases h
    | some document =>
      rw [hread] at h
      cases hdecode : decode document with
      | error e =>
        have h : (decode document).map load = .ok l := h
        rw [hdecode] at h
        cases h
      | ok p =>
        have h : (decode document).map load = .ok l := h
        rw [hdecode] at h
        cases h
        exact distinct_normalize (distinct_decode (Json.distinct_read? hread) hdecode)
  · unfold ofGenerated at h
    dsimp only at h
    split at h
    · cases h
    · cases h
      refine distinct_normalize fun page hpage w hw => ?_
      obtain ⟨s, -, hs⟩ := Recovery.exists_site_of_mem_draft hpage hw
      exact s.distinct_widget? hs

/-! ## The document of a project -/

theorem keys_optionalField_sublist (key : String) (value : Option String) :
    (Keyed.keys (optionalField key value)).Sublist [key] := by
  cases value with
  | none => exact List.nil_sublist _
  | some s => exact List.Sublist.refl _

theorem distinct_of_mem_optionalField {key : String} {value : Option String} :
    ∀ p ∈ optionalField key value, p.2.Distinct := by
  cases value with
  | none => exact fun p hp => absurd hp List.not_mem_nil
  | some s => exact List.forall_mem_singleton.2 (.string s)

end Project

theorem Widget.distinct_toJson {w : Widget} (h : w.Distinct) : w.toJson.Distinct := by
  have hoptional := Project.keys_optionalField_sublist
  refine .object ?_ ?_
  · -- The keys that are written are among all keys, which differ.
    have hall : Project.widgetKeys.Nodup := by decide
    refine List.Nodup.sublist ?_ hall
    simp only [Keyed.keys_append]
    exact (((((((((List.Sublist.refl ["id", "type", "x", "y", "width", "height"]).append
      (hoptional "entity_id" _)).append (hoptional "title" _)).append
      (hoptional "condition_entity" _)).append (hoptional "condition_operator" _)).append
      (hoptional "condition_state" _)).append (hoptional "condition_min" _)).append
      (hoptional "condition_max" _)).append (List.Sublist.refl ["props"]))
  · have hvalue := @Project.distinct_of_mem_optionalField
    simp only [List.forall_mem_append, List.forall_mem_cons]
    exact ⟨⟨⟨⟨⟨⟨⟨⟨⟨.string _, .string _, .number _, .number _, .number _, .number _,
      List.forall_mem_nil _⟩, hvalue⟩, hvalue⟩, hvalue⟩, hvalue⟩, hvalue⟩, hvalue⟩, hvalue⟩,
      h, List.forall_mem_nil _⟩

theorem Page.distinct_toJson {p : Page} (h : ∀ w ∈ p.widgets, w.Distinct) : p.toJson.Distinct := by
  have hoptional := Project.keys_optionalField_sublist
  refine .object ?_ ?_
  · have hall : Project.pageKeys.Nodup := by decide
    refine List.Nodup.sublist ?_ hall
    simp only [Keyed.keys_append]
    exact (((List.Sublist.refl ["id", "name", "dark_mode"]).append (hoptional "refresh_type" _)).append
      (hoptional "refresh_time" _)).append (List.Sublist.refl ["widgets"])
  · have hvalue := @Project.distinct_of_mem_optionalField
    have hwidgets : (Json.array (p.widgets.map Widget.toJson)).Distinct :=
      .array (List.forall_mem_map.2 fun w hw => Widget.distinct_toJson (h w hw))
    simp only [List.forall_mem_append, List.forall_mem_cons]
    exact ⟨⟨⟨⟨.string _, .string _, .string _, List.forall_mem_nil _⟩, hvalue⟩, hvalue⟩, hwidgets,
      List.forall_mem_nil _⟩

/-- **No object of the document of a project has a key twice.** -/
theorem Project.distinct_toJson {p : Project} (h : p.Distinct) : p.toJson.Distinct := by
  refine .object ?_ ?_
  · have hall : ["name", "dark_mode", "pages"].Nodup := by decide
    refine List.Nodup.sublist ?_ hall
    rw [Keyed.keys_append]
    exact (keys_optionalField_sublist "name" _).append (List.Sublist.refl _)
  · have hpages : (Json.array (p.pages.map Page.toJson)).Distinct :=
      .array (List.forall_mem_map.2 fun page hpage => Page.distinct_toJson (h page hpage))
    simp only [List.forall_mem_append, List.forall_mem_cons]
    exact ⟨distinct_of_mem_optionalField, .bool _, hpages, List.forall_mem_nil _⟩

/-- **What is read from a text is in normal form and survives being written:** bringing it into
normal form again changes nothing, no object of its document has a key twice, and reading that
document gives the same project, to the order of all properties and the kinds of all numbers. -/
theorem Project.ofJson_toJson [Qr.Encoder] {text : String} {l : Loaded}
    (h : ofAnyText text = .ok l) :
    l.project.IsNormal ∧ l.project.normalize = l.project ∧ l.project.toJson.Distinct
      ∧ (ofJson l.project.toJson).map Loaded.project = .ok l.project := by
  have hnormal : l.project.IsNormal := isNormal_ofAnyText h
  have hsame : l.project.normalize = l.project := normalize_of_isNormal hnormal
  refine ⟨hnormal, hsame, distinct_toJson (distinct_ofAnyText h), ?_⟩
  rw [ofJson, decode_toJson hnormal.isPlaced]
  exact congrArg Except.ok hsame

/-- A document with another name of a type, a coordinate as text and a size with a fraction. -/
theorem Project.ofJson_toJson_mended :
    let text := "\x7b\"pages\": [\x7b\"widgets\": [\x7b\"type\": \"rectangle\", \"x\": \"7\", "
      ++ "\"width\": 4.5, \"height\": 2, \"props\": \x7b\"fill\": 1, \"radius\": 1.0\x7d\x7d]\x7d]\x7d"
    ∃ l, ofAnyText text = .ok l
      ∧ (l.project.widgets.map fun w => (w.id, w.type, w.x, w.width)) = [("w_0_0", "shape_rect", 7, 4)]
      ∧ l.project.IsNormal ∧ l.project.normalize = l.project ∧ l.project.toJson.Distinct
      ∧ (ofJson l.project.toJson).map Loaded.project = .ok l.project := by
  intro text
  have hwidgets : ((ofAnyText text).toOption.map fun l =>
      l.project.widgets.map fun w => (w.id, w.type, w.x, w.width))
      = some [("w_0_0", "shape_rect", 7, 4)] := by decide +kernel
  obtain ⟨l, hoption, hwidgets⟩ := Option.map_eq_some_iff.1 hwidgets
  have hl : ofAnyText text = .ok l := by
    cases hread : ofAnyText text with
    | error e =>
      rw [hread] at hoption
      cases hoption
    | ok l' =>
      rw [hread] at hoption
      cases hoption
      rfl
  exact ⟨l, hl, hwidgets, ofJson_toJson hl⟩

end DisplayLayout
