import DisplayLayout.Proofs.Artifact.Balanced
import DisplayLayout.Proofs.Ledger
import DisplayLayout.Qr.Symbol

/-!
# The sensors of conditions

The check of a condition stands in the display lambda and reads a sensor, which
the widget of the condition asks for. It is declared, unless numbers are asked of
an entity whose states are words, or its identifier goes to something else
(`Project.declares_condition`). As long as entities have identifiers of their own,
something else is never another sensor with identifiers of the same form.
-/

namespace DisplayLayout

open Text

/-! ## Domains -/

/-- A bare name of an entity has no domain, and its full name has none of those below either. -/
theorem Sensor.hasLead_qualify {domain : String} (hd : domain ∈ binaryDomains ++ textDomains)
    (kind : SensorKind) (entity : String) :
    hasLead domain (qualify kind entity) = hasLead domain (trim entity) := by
  unfold qualify
  dsimp only
  split
  · next h =>
    have hdot : ∀ d ∈ binaryDomains ++ textDomains, '.' ∈ d.toList := by decide
    have hclash : ∀ d ∈ binaryDomains ++ textDomains, Line.clash d.toList "sensor.".toList = true := by
      decide
    have hbare : hasLead domain (trim entity) = false := by
      rw [Bool.eq_false_iff, Ne, hasLead_iff]
      intro hprefix
      have hmem : '.' ∈ (trim entity).toList := hprefix.subset (hdot domain hd)
      simp [hmem] at h
    have hfull : hasLead domain ("sensor." ++ trim entity) = false := by
      rw [Bool.eq_false_iff, Ne, hasLead_iff, String.toList_append]
      exact Line.not_prefix_append_of_clash (hclash domain hd) _
    rw [hbare, hfull]
  · rfl

theorem any_hasLead_qualify {domains : List String}
    (h : ∀ d ∈ domains, d ∈ binaryDomains ++ textDomains) (kind : SensorKind) (entity : String) :
    (domains.any fun d => hasLead d (Sensor.qualify kind entity))
      = domains.any fun d => hasLead d (trim entity) := by
  rw [Bool.eq_iff_iff, List.any_eq_true, List.any_eq_true]
  refine exists_congr fun d => and_congr_right fun hd => ?_
  rw [Sensor.hasLead_qualify (h d hd)]

theorem isBinaryEntity_qualify (kind : SensorKind) (entity : String) :
    isBinaryEntity (Sensor.qualify kind entity) = isBinaryEntity (trim entity) :=
  any_hasLead_qualify (fun _ h => List.mem_append_left _ h) kind entity

theorem domainKind?_qualify (kind : SensorKind) (entity : String) :
    domainKind? (Sensor.qualify kind entity) = domainKind? (trim entity) := by
  rw [domainKind?, domainKind?, isBinaryEntity_qualify,
    any_hasLead_qualify (fun _ h => List.mem_append_right _ h)]

theorem isBinaryEntity_of_domainKind? {entity : String} (h : domainKind? entity = some .binary) :
    isBinaryEntity entity = true := by
  rw [domainKind?] at h
  split at h
  · next hbinary => exact hbinary
  · split at h
    · cases h
    · cases h

/-! ## Sensors of the display lambda -/

/-- A sensor that is on or off is one of an entity that is, and only texts have identifiers that
do not follow from the entity alone. -/
structure Sensor.IsRegular (s : Sensor) : Prop where
  binary : s.kind = .binary → isBinaryEntity s.entityId = true
  ident : s.kind ≠ .text → s.id = Identifier.ofEntity s.entityId ""

namespace Sensor

theorem isRegular_of {kind : SensorKind} {entity : String}
    (h : kind = .binary → isBinaryEntity (trim entity) = true) : (of kind entity).IsRegular where
  binary hkind := (isBinaryEntity_qualify kind entity).trans (h hkind)
  ident hkind := by
    have hsuffix : kind.suffix = "" := by
      cases kind with
      | text => exact absurd rfl hkind
      | numeric => rfl
      | binary => rfl
    show Identifier.ofEntity (qualify kind entity) kind.suffix = _
    rw [hsuffix]
    rfl

theorem isRegular_numeric (entity : String) : (of .numeric entity).IsRegular :=
  isRegular_of fun h => absurd h (by decide)

theorem isRegular_of_text {s : Sensor} (h : s.kind = .text) : s.IsRegular where
  binary hkind := absurd (h.symm.trans hkind) (by decide)
  ident hkind := absurd h hkind

theorem IsRegular.refreshing {s : Sensor} (h : s.IsRegular) (id : String) :
    (s.refreshing id).IsRegular := ⟨h.binary, h.ident⟩

end Sensor

/-- The sensors that widgets ask for in the display lambda. -/
theorem Kind.isRegular_sensors [Qr.Encoder] {k : Kind}
    (hmode : k.behaviour.modes.contains .direct = true) {v : View}
    {around : Surroundings} {s : Sensor} (hs : s ∈ k.behaviour.sensors v around) : s.IsRegular := by
  cases k with
  | sensorText =>
    obtain ⟨t, ht, rfl⟩ := List.mem_map.1 hs
    obtain ⟨entity, hentity, rfl⟩ := Option.map_eq_some_iff.1 (Option.mem_toList.1 ht)
    refine (Sensor.isRegular_of fun hkind => ?_).refreshing _
    obtain ⟨raw, -, hraw⟩ := Option.bind_eq_some_iff.1 hentity
    rw [trim_of_nonBlank? hraw]
    split at hkind
    · cases hkind
    · cases hdomain : domainKind? entity with
      | none => simp [hdomain] at hkind
      | some kind =>
        rw [hdomain, Option.getD_some] at hkind
        exact isBinaryEntity_of_domainKind? (hkind ▸ hdomain)
  | weatherIcon =>
    rw [List.mem_singleton.1 hs]
    exact Sensor.isRegular_of_text rfl
  | batteryIcon =>
    obtain ⟨t, ht, rfl⟩ := List.mem_map.1 hs
    rw [BatteryGauge.sensor_source (Option.mem_toList.1 ht)]
    exact ((Sensor.isRegular_numeric _).refreshing _).refreshing _
  | wifiSignal =>
    obtain ⟨t, ht, rfl⟩ := List.mem_map.1 hs
    obtain ⟨entity, -, rfl⟩ := SignalGauge.sensor_source (Option.mem_toList.1 ht)
    exact ((Sensor.isRegular_numeric _).refreshing _).refreshing _
  | progressBar =>
    obtain ⟨t, ht, rfl⟩ := List.mem_map.1 hs
    obtain ⟨entity, -, rfl⟩ := Option.map_eq_some_iff.1 (Option.mem_toList.1 ht)
    exact ((Sensor.isRegular_numeric _).refreshing _).refreshing _
  | calendar =>
    obtain ⟨entity, -, rfl⟩ := Option.map_eq_some_iff.1 (Option.mem_toList.1 hs)
    exact Sensor.isRegular_of_text rfl
  | graph =>
    obtain ⟨entity, -, rfl⟩ := Option.map_eq_some_iff.1 (Option.mem_toList.1 hs)
    exact Sensor.isRegular_numeric _
  | _ => first | exact absurd hs List.not_mem_nil | exact absurd hmode Bool.false_ne_true

/-! ## Sensors of conditions -/

namespace Condition

variable {w : Widget} {c : Condition}

theorem trim_entityId (hc : ofWidget? w = some c) : trim c.entityId = c.entityId :=
  trim_of_nonBlank? (nonBlank?_entityId hc)

theorem isBinaryEntity_sensor (hc : ofWidget? w = some c) :
    isBinaryEntity c.sensor.entityId = isBinaryEntity c.entityId :=
  (isBinaryEntity_qualify _ _).trans (by rw [trim_entityId hc])

theorem domainKind?_sensor (hc : ofWidget? w = some c) :
    domainKind? c.sensor.entityId = domainKind? c.entityId :=
  (domainKind?_qualify _ _).trans (by rw [trim_entityId hc])

theorem sensorKind_eq_binary_iff : c.sensorKind = .binary ↔ isBinaryEntity c.entityId = true := by
  rw [sensorKind]
  split
  · next h => exact iff_of_true rfl h
  · next h =>
    refine iff_of_false ?_ h
    split <;> decide

theorem isRegular_sensor (hc : ofWidget? w = some c) : c.sensor.IsRegular := by
  refine Sensor.isRegular_of fun hkind => ?_
  rw [trim_entityId hc]
  exact sensorKind_eq_binary_iff.1 hkind

/-- A condition that compares numbers with the states of an entity whose states are words. -/
def MisreadsWords (c : Condition) : Prop :=
  c.sensorKind = .numeric ∧ domainKind? c.entityId = some .text
deriving Decidable

theorem isMismatched_sensor (hc : ofWidget? w = some c) :
    c.sensor.isMismatched = true ↔ c.MisreadsWords := by
  rw [Sensor.isMismatched, domainKind?_sensor hc, Bool.and_eq_true, beq_iff_eq]
  refine and_congr_right fun hkind => ?_
  have hbinary : isBinaryEntity c.entityId = false := by
    rw [Bool.eq_false_iff, Ne, ← sensorKind_eq_binary_iff]
    intro h
    exact absurd (hkind.symm.trans h) (by decide)
  rw [domainKind?, hbinary, if_neg Bool.false_ne_true]
  split <;> decide

end Condition

/-! ## Sensors of a project -/

section

variable [Qr.Encoder]

/-- The sensors that a widget asks for, whether they can be declared or not. -/
def Widget.askedSensors (w : Widget) (around : Surroundings) : List Sensor :=
  match w.behaviourIn? around.mode with
  | none => []
  | some b => w.readSensors b around

/-- The sensors that the widgets of a project ask for. -/
def Project.askedSensors (p : Project) (mode : Mode) (device : Device) : List Sensor :=
  (p.situated mode device).flatMap fun (around, w) => w.askedSensors around

/-- The entities of the sensors of a project have identifiers of their own. -/
def Project.TellsEntitiesApart (p : Project) (mode : Mode) (device : Device) : Prop :=
  ∀ s ∈ p.askedSensors mode device, ∀ t ∈ p.askedSensors mode device,
    Identifier.ofEntity s.entityId "" = Identifier.ofEntity t.entityId "" → s.entityId = t.entityId

instance (p : Project) (mode : Mode) (device : Device) : Decidable (p.TellsEntitiesApart mode device) :=
  inferInstanceAs (Decidable (∀ s ∈ p.askedSensors mode device, ∀ t ∈ p.askedSensors mode device,
    Identifier.ofEntity s.entityId "" = Identifier.ofEntity t.entityId "" → s.entityId = t.entityId))

theorem Widget.mem_askedSensors_of_mem_requests {w : Widget} {around : Surroundings} {s : Sensor}
    (h : .sensor s ∈ w.requests around) : s ∈ w.askedSensors around ∧ s.isMismatched = false := by
  rw [requests] at h
  rw [askedSensors]
  cases hb : w.behaviourIn? around.mode with
  | none => simp [hb] at h
  | some b =>
    simp only [hb, List.mem_append, List.mem_map, reduceCtorEq, and_false, exists_false, or_false,
      Request.sensor.injEq, exists_eq_right, List.mem_filter, Bool.not_eq_true'] at h
    exact h

section Asked

variable {p : Project} {device : Device} {s : Sensor}

/-- A sensor that is claimed is one that is asked for and can be declared. -/
theorem Project.mem_askedSensors_of_mem_claims {mode : Mode} (h : .sensor s ∈ p.claims mode device) :
    s ∈ p.askedSensors mode device ∧ s.isMismatched = false := by
  rcases List.mem_append.1 h with hfixed | hrequest
  · obtain ⟨g, -, hg⟩ := List.mem_map.1 hfixed
    cases hg
  · obtain ⟨⟨around, w⟩, hw, hs⟩ := List.mem_flatMap.1 hrequest
    obtain ⟨hasked, hkept⟩ := Widget.mem_askedSensors_of_mem_requests hs
    exact ⟨List.mem_flatMap.2 ⟨(around, w), hw, hasked⟩, hkept⟩

theorem Project.isRegular_askedSensors (h : s ∈ p.askedSensors .direct device) : s.IsRegular := by
  obtain ⟨⟨around, w⟩, hw, hs⟩ := List.mem_flatMap.1 h
  obtain ⟨i, page, -, -, rfl⟩ := (mem_situated_iff p .direct device).1 hw
  cases hb : w.behaviourIn? .direct with
  | none => simp [Widget.askedSensors, hb] at hs
  | some b =>
    obtain ⟨k, -, rfl, hmode⟩ := Widget.exists_kind_of_behaviourIn? hb
    simp only [Widget.askedSensors, hb, Widget.readSensors, if_pos] at hs
    rcases List.mem_append.1 hs with hs | hs
    · exact Kind.isRegular_sensors hmode hs
    · obtain ⟨c, hc, rfl⟩ := Option.map_eq_some_iff.1 (Option.mem_toList.1 hs)
      exact Condition.isRegular_sensor hc

end Asked

end

namespace Request

/-- The identifier of a sensor goes to the time source, or first to something that is no sensor of
its kind. -/
def ClaimedOtherwise (claims : List Request) (s : Sensor) : Prop :=
  s.id = Ledger.timeSource ∨
    ∃ r, first? claims s.id = some r ∧ ∀ t, r.sensor? = some t → t.kind ≠ s.kind

variable [Qr.Encoder] {p : Project} {mode : Mode} {device : Device} {s t : Sensor}

theorem not_claimedOtherwise_of_declared (ht : t ∈ (p.declare mode device).sensors)
    (hid : t.id = s.id) (hkind : t.kind = s.kind) : ¬ClaimedOtherwise (p.claims mode device) s := by
  obtain ⟨hfree, hfirst⟩ := (Project.mem_sensors_declare p mode device).1 ht
  rw [hid] at hfree hfirst
  rintro (htime | ⟨r, hr, hother⟩)
  · exact hfree htime
  · cases hfirst.symm.trans hr
    exact hother t rfl hkind

/-- What is claimed is declared, or another sensor of its kind. -/
theorem exists_declared (hclaim : .sensor s ∈ p.claims mode device)
    (hfree : ¬ClaimedOtherwise (p.claims mode device) s) :
    ∃ t ∈ (p.declare mode device).sensors, t.id = s.id ∧ t.kind = s.kind := by
  obtain ⟨r, hr⟩ := exists_first? hclaim
  have hsensor : ∃ t, r.sensor? = some t ∧ t.kind = s.kind := by
    by_contra hno
    push Not at hno
    exact hfree (Or.inr ⟨r, hr, hno⟩)
  obtain ⟨t, ht, hkind⟩ := hsensor
  cases r <;> cases ht
  have hid : t.id = s.id := (mem_of_first? hr).2
  refine ⟨t, (Project.mem_sensors_declare p mode device).2 ?_, hid, hkind⟩
  rw [hid]
  exact ⟨fun htime => hfree (Or.inl htime), hr⟩

end Request

/-- Kinds that are neither on nor off are told apart by the ends of their identifiers. -/
theorem SensorKind.eq_of_suffix_eq {a b : SensorKind} (ha : a ≠ .binary) (hb : b ≠ .binary)
    (h : a.suffix = b.suffix) : a = b := by
  revert ha hb h
  cases a <;> cases b <;> decide

theorem SensorKind.eq_text_of_suffix {kind : SensorKind} (h : kind.suffix = SensorKind.text.suffix) :
    kind = .text := by
  revert h
  cases kind <;> decide

/-! ## The declarations of conditions -/

namespace Condition

variable [Qr.Encoder] {p : Project} {device : Device} {w : Widget} {c : Condition}

omit [Qr.Encoder] in
/-- A sensor of the same entity that is declared has the kind that is checked, if both are texts or
none is. -/
theorem kind_eq_sensorKind (hc : ofWidget? w = some c) {t : Sensor} (ht : t.IsRegular)
    (hkept : t.isMismatched = false) (hentity : t.entityId = c.sensor.entityId)
    (hsuffix : t.kind.suffix = c.sensorKind.suffix) : t.kind = c.sensorKind := by
  cases hbinary : isBinaryEntity c.entityId with
  | true =>
    have hkind : c.sensorKind = .binary := sensorKind_eq_binary_iff.2 hbinary
    rw [hkind] at hsuffix ⊢
    cases htkind : t.kind with
    | binary => rfl
    | text => rw [htkind] at hsuffix; exact absurd hsuffix (by decide)
    | numeric =>
      -- Numbers of an entity that is on or off are not asked for.
      have hdomain : domainKind? t.entityId = some .binary := by
        rw [hentity, domainKind?_sensor hc, domainKind?, hbinary, if_pos rfl]
      rw [Sensor.isMismatched, htkind, hdomain] at hkept
      exact absurd hkept (by decide)
  | false =>
    have htkind : t.kind ≠ .binary := by
      intro h
      have hon := ht.binary h
      rw [hentity, isBinaryEntity_sensor hc, hbinary] at hon
      exact absurd hon (by decide)
    have hkind : c.sensorKind ≠ .binary := by
      rw [Ne, sensorKind_eq_binary_iff, hbinary]
      decide
    exact SensorKind.eq_of_suffix_eq htkind hkind hsuffix

section

variable (hapart : p.TellsEntitiesApart .direct device) (hc : ofWidget? w = some c)
  (hasked : c.sensor ∈ p.askedSensors .direct device) {t : Sensor}

include hapart hc hasked

/-- A sensor that is asked for under the identifier of a condition's sensor is one of its entity, if
the identifiers of both follow from their entities alone. -/
theorem entityId_eq_of_asked (ht : t ∈ p.askedSensors .direct device) (hid : t.id = c.sensor.id)
    (htkind : t.kind ≠ .text) (hkind : c.sensorKind ≠ .text) : t.entityId = c.sensor.entityId := by
  refine hapart t ht c.sensor hasked ?_
  rw [← (Project.isRegular_askedSensors ht).ident htkind, ← (isRegular_sensor hc).ident hkind, hid]

/-- A sensor that is claimed under the identifier of a condition's sensor has the kind that is
checked, if both are texts or none is. -/
theorem kind_eq_of_claimed (ht : .sensor t ∈ p.claims .direct device) (hid : t.id = c.sensor.id)
    (hsuffix : t.kind.suffix = c.sensorKind.suffix) : t.kind = c.sensorKind := by
  obtain ⟨htasked, hkept⟩ := Project.mem_askedSensors_of_mem_claims ht
  by_cases htext : t.kind = .text
  · rw [htext] at hsuffix ⊢
    exact (SensorKind.eq_text_of_suffix hsuffix.symm).symm
  · have hkind : c.sensorKind ≠ .text := by
      intro h
      rw [h] at hsuffix
      exact htext (SensorKind.eq_text_of_suffix hsuffix)
    have hentity := entityId_eq_of_asked hapart hc hasked htasked hid htext hkind
    exact kind_eq_sensorKind hc (Project.isRegular_askedSensors htasked) hkept hentity hsuffix

/-- A sensor that is declared is not one of numbers for an entity whose states are words. -/
theorem not_misreadsWords_of_declared (ht : t ∈ (p.declare .direct device).sensors)
    (hid : t.id = c.sensor.id) (hkind : t.kind = c.sensorKind) : ¬c.MisreadsWords := by
  intro hmisreads
  have hfirst := ((Project.mem_sensors_declare p .direct device).1 ht).2
  obtain ⟨htasked, hkept⟩ :=
    Project.mem_askedSensors_of_mem_claims (Request.mem_of_first? hfirst).1
  have hnumeric : c.sensorKind ≠ .text := by
    rw [hmisreads.1]
    decide
  have hentity := entityId_eq_of_asked hapart hc hasked htasked hid (hkind ▸ hnumeric) hnumeric
  have hmismatched : c.sensor.isMismatched = true := (isMismatched_sensor hc).2 hmisreads
  -- Of the same entity and the same kind, it could not be declared either.
  rw [Sensor.isMismatched, hkind, hentity] at hkept
  exact absurd (hmismatched.symm.trans hkept) (by decide)

/-- What an identifier goes to, if not to a sensor of the kind that is checked. -/
theorem cases_of_claimedOtherwise
    (h : Request.ClaimedOtherwise (p.claims .direct device) c.sensor) :
    c.sensor.id = Ledger.timeSource
      ∨ (∃ r ∈ p.claims .direct device, r.id = c.sensor.id ∧ r.sensor? = none)
      ∨ ∃ t ∈ p.askedSensors .direct device,
          t.id = c.sensor.id ∧ t.kind.suffix ≠ c.sensorKind.suffix := by
  rcases h with htime | ⟨r, hr, hother⟩
  · exact Or.inl htime
  obtain ⟨hmem, hid⟩ := Request.mem_of_first? hr
  cases hs : r.sensor? with
  | none => exact Or.inr (Or.inl ⟨r, hmem, hid, hs⟩)
  | some t =>
    cases r <;> cases hs
    have htasked := (Project.mem_askedSensors_of_mem_claims hmem).1
    refine Or.inr (Or.inr ⟨t, htasked, hid, fun hsuffix => ?_⟩)
    exact hother t rfl (kind_eq_of_claimed hapart hc hasked hmem hid hsuffix)

end

/-- A widget of a mode, with what it can know about the project. -/
theorem exists_situated (device : Device) {page : Page} (hpage : page ∈ p.pages)
    (hw : w ∈ page.supported .direct) :
    ∃ around b, (around, w) ∈ p.situated .direct device ∧ around.mode = .direct
      ∧ w.behaviourIn? around.mode = some b := by
  obtain ⟨hmem, hsome⟩ := List.mem_filter.1 hw
  obtain ⟨b, hb⟩ := Option.isSome_iff_exists.1 hsome
  obtain ⟨i, hi, rfl⟩ := List.getElem_of_mem hpage
  exact ⟨⟨.direct, p.pages.length, i, device⟩, b, (Project.mem_situated_iff p .direct device).2
    ⟨i, p.pages[i], List.getElem?_eq_getElem hi, hmem, rfl⟩, rfl, hb⟩

omit [Qr.Encoder] in
theorem sensor_mem_readSensors (hc : ofWidget? w = some c) {around : Surroundings}
    (hdirect : around.mode = .direct) (b : Behaviour) : c.sensor ∈ w.readSensors b around := by
  refine List.mem_append_right _ ?_
  rw [if_pos hdirect, Option.mem_toList]
  exact Option.mem_map_of_mem _ hc

theorem sensor_mem_askedSensors (device : Device) {page : Page} (hpage : page ∈ p.pages)
    (hw : w ∈ page.supported .direct) (hc : ofWidget? w = some c) :
    c.sensor ∈ p.askedSensors .direct device := by
  obtain ⟨around, b, hsituated, hdirect, hb⟩ := exists_situated device hpage hw
  refine List.mem_flatMap.2 ⟨_, hsituated, ?_⟩
  simp only [Widget.askedSensors, hb]
  exact sensor_mem_readSensors hc hdirect b

theorem sensor_mem_claims {page : Page} (hpage : page ∈ p.pages) (hw : w ∈ page.supported .direct)
    (hc : ofWidget? w = some c) (hkept : c.sensor.isMismatched = false) :
    .sensor c.sensor ∈ p.claims .direct device := by
  obtain ⟨around, b, hsituated, hdirect, hb⟩ := exists_situated device hpage hw
  exact Project.mem_claims p .direct device hsituated
    (Widget.mem_requests_of_reads hb (sensor_mem_readSensors hc hdirect b) hkept)

end Condition

/-! ## The guard in the display lambda -/

theorem List.mem_intersperse_of_mem {α : Type} {x : α} {xs : List α} (h : x ∈ xs) (sep : α) :
    x ∈ xs.intersperse sep := by
  fun_induction List.intersperse sep xs with
  | case1 => exact h
  | case2 => exact h
  | case3 y z xs ih =>
    rcases List.mem_cons.1 h with rfl | h
    · exact List.mem_cons_self
    · exact List.mem_cons_of_mem _ (List.mem_cons_of_mem _ (ih h))

namespace DisplayLambda

/-- The row that stands before the statements of a widget with a condition. -/
def guardRow (c : Condition) : String := Lambda.indent ("if (" ++ c.check ++ ") \x7b")

theorem indent_mem_pageLines {page : VisitedPage (List String)} {rows : List String}
    (hrows : rows ∈ page.contents) {row : String} (hrow : row ∈ rows) (index : Nat) :
    Lambda.indent row ∈ pageLines index page := by
  refine List.mem_append_left _ (List.mem_cons_of_mem _ (List.mem_map_of_mem ?_))
  exact List.mem_append_right _ (List.mem_flatten.2 ⟨rows, List.mem_intersperse_of_mem hrows _, hrow⟩)

/-- What becomes of a widget stands in the display lambda. -/
theorem content_mem_lines [Qr.Encoder] {p : Project} {config : Config} {page : Page}
    (hpage : page ∈ p.pages)
    {w : Widget} (hw : w ∈ page.widgets) {b : Behaviour} (hb : w.behaviourIn? config.mode = some b)
    {row : String}
    (hrow : row ∈ (form.emission (VisitedPage.ofPage form config p.dark page).surface b w).content)
    (g : Generation) : Lambda.indent row ∈ lines g (p.visit form config) := by
  let visited := VisitedPage.ofPage form config p.dark page
  have hemitted : form.emission visited.surface b w ∈ visited.emissions := by
    rw [VisitedPage.emissions_ofPage]
    exact List.mem_filterMap.2 ⟨w, hw, by rw [hb]; rfl⟩
  have hvisited : visited ∈ p.visit form config := List.mem_map_of_mem hpage
  obtain ⟨i, hi, hget⟩ := List.getElem_of_mem hvisited
  refine List.mem_append_right _ (List.mem_flatten.2 ⟨_, List.mem_mapIdx.2 ⟨i, hi, rfl⟩, ?_⟩)
  rw [hget]
  exact indent_mem_pageLines (List.mem_map_of_mem hemitted) hrow i

/-- **A condition is checked in the display lambda.** -/
theorem guardRow_mem_lines [Qr.Encoder] {p : Project} {config : Config} {page : Page}
    (hpage : page ∈ p.pages) {w : Widget} (hw : w ∈ page.supported config.mode) {c : Condition}
    (hc : Condition.ofWidget? w = some c) (g : Generation) :
    guardRow c ∈ lines g (p.visit form config) := by
  obtain ⟨hmem, hsome⟩ := List.mem_filter.1 hw
  obtain ⟨b, hb⟩ := Option.isSome_iff_exists.1 hsome
  refine content_mem_lines hpage hmem hb ?_ g
  show _ ∈ block (w.view b) _
  refine List.mem_cons_of_mem _ ?_
  show _ ∈ guarded w _
  rw [guarded, hc]
  exact List.mem_cons_self

end DisplayLambda

/-- **The sensors of conditions are declared.** Every condition of a widget is checked in the
display lambda, and the check reads the state of the condition's sensor. A sensor with that
identifier and of the kind that is checked is declared, but for two reasons: numbers are compared
with the states of an entity whose states are words, or the identifier goes to something else. That
is the time source, a component or a global variable, or a sensor with identifiers of another form,
if entities have identifiers of their own. -/
theorem Project.declares_condition [Qr.Encoder] {p : Project} {config : Config}
    (hmode : config.mode = .direct)
    (hapart : p.TellsEntitiesApart .direct config.device) {page : Page} (hpage : page ∈ p.pages)
    {w : Widget} (hw : w ∈ page.supported .direct) {c : Condition}
    (hc : Condition.ofWidget? w = some c) :
    let pages := p.visit DisplayLambda.form config
    let claims := p.claims .direct config.device
    (DisplayLambda.guardRow c ∈ DisplayLambda.lines (registries config pages) pages
        ∧ Condition.ReadsState c.sensor.id c.check)
      ∧ ((∃ s ∈ (p.declare .direct config.device).sensors,
            s.id = c.sensor.id ∧ s.kind = c.sensorKind)
          ↔ ¬c.MisreadsWords ∧ ¬Request.ClaimedOtherwise claims c.sensor)
      ∧ (Request.ClaimedOtherwise claims c.sensor → c.sensor.id = Ledger.timeSource
          ∨ (∃ r ∈ claims, r.id = c.sensor.id ∧ r.sensor? = none)
          ∨ ∃ t ∈ p.askedSensors .direct config.device,
              t.id = c.sensor.id ∧ t.kind.suffix ≠ c.sensorKind.suffix) := by
  have hasked := Condition.sensor_mem_askedSensors config.device hpage hw hc
  refine ⟨⟨?_, c.readsState_check⟩, ⟨?_, ?_⟩, Condition.cases_of_claimedOtherwise hapart hc hasked⟩
  · exact DisplayLambda.guardRow_mem_lines hpage (hmode ▸ hw) hc _
  · rintro ⟨s, hs, hid, hkind⟩
    exact ⟨Condition.not_misreadsWords_of_declared hapart hc hasked hs hid hkind,
      Request.not_claimedOtherwise_of_declared hs hid hkind⟩
  · rintro ⟨hreads, hfree⟩
    have hkept : c.sensor.isMismatched = false := by
      rw [Bool.eq_false_iff, Ne, Condition.isMismatched_sensor hc]
      exact hreads
    exact Request.exists_declared (Condition.sensor_mem_claims hpage hw hc hkept) hfree

/-- A text that is shown at night. -/
def nightText : Widget :=
  { type := "text", conditionEntity := some "sensor.mode", conditionState := some "night" }

/-- The text beside a reading of the same entity. -/
def nightProject : Project :=
  { pages := [{ widgets := [{ type := "sensor_text", entityId := some "sensor.mode" }, nightText] }] }

/-- The condition has a sensor of its own, as the reading is one of numbers. -/
theorem declares_condition_night :
    nightProject.TellsEntitiesApart .direct {}
      ∧ ∃ s ∈ (nightProject.declare .direct {}).sensors, s.id = "sensor_mode_txt" ∧ s.kind = .text := by
  have hapart : nightProject.TellsEntitiesApart .direct {} := by decide +kernel
  let c : Condition := ⟨"sensor.mode", .eq, some "night", none, none⟩
  have hc : Condition.ofWidget? nightText = some c := by decide
  have hid : c.sensor.id = "sensor_mode_txt" := by decide
  have hkind : c.sensorKind = .text := by decide
  have hfirst : Request.first? (nightProject.claims .direct {}) "sensor_mode_txt"
      = some (.sensor c.sensor) := by decide +kernel
  have hsupported : nightText ∈ Page.supported .direct
      { widgets := [{ type := "sensor_text", entityId := some "sensor.mode" }, nightText] } :=
    List.mem_filter.2 ⟨List.mem_cons_of_mem _ List.mem_cons_self, by decide⟩
  have hfree : ¬Request.ClaimedOtherwise (nightProject.claims .direct {}) c.sensor := by
    rintro (htime | ⟨r, hr, hother⟩)
    · exact absurd (hid.symm.trans htime) (by decide)
    · rw [hid, hfirst] at hr
      cases hr
      exact hother _ rfl rfl
  have hmode : ({} : Config).mode = .direct := rfl
  obtain ⟨-, hdeclared, -⟩ :=
    Project.declares_condition hmode hapart List.mem_cons_self hsupported hc
  rw [hid, hkind] at hdeclared
  exact ⟨hapart, hdeclared.2 ⟨by decide, hfree⟩⟩

/-- A text that is shown while the mode of a house is the one that is called home. -/
def homeText : Widget :=
  { type := "text", conditionEntity := some "input_select.house_mode", conditionState := some "home" }

def homeProject : Project := { pages := [{ widgets := [homeText] }] }

/-- **Not every sensor of a condition is declared.** A word for on is compared as a number, also
with a state that is a word. -/
theorem exists_undeclared_condition :
    homeProject.TellsEntitiesApart .direct {}
      ∧ ∃ c, Condition.ofWidget? homeText = some c
        ∧ c.check = "id(input_select_house_mode).state == 1"
        ∧ ¬∃ s ∈ (homeProject.declare .direct {}).sensors, s.id = "input_select_house_mode" := by
  refine ⟨by decide +kernel, ⟨"input_select.house_mode", .eq, some "home", none, none⟩, by decide,
    by decide, by decide +kernel⟩

end DisplayLayout
