import DisplayLayout.Declared
import DisplayLayout.Qr.Symbol
import Mathlib.Data.List.Nodup

/-!
# One declaration for each identifier

Sensors, components and global variables share one ledger. What is granted of
a list of requests are the first ones with identifiers that were free
(`Request.mem_granted_iff`), in their order (`Request.ordered_granted`), and
the ledger is what had been taken and then their identifiers
(`Request.claimAll_eq`). From this follows what the declarations of a project
are, whichever page and widget asks for them: `Project.followsLedger_declare`.
-/

namespace DisplayLayout

namespace Ledger

theorem mem_claim {l : Ledger} {id x : String} : x ∈ l.claim id ↔ x ∈ l ∨ x = id := by
  unfold claim
  split
  · next h =>
    rw [List.contains_iff_mem] at h
    constructor
    · exact Or.inl
    · rintro (hx | rfl)
      · exact hx
      · exact h
  · rw [List.mem_append, List.mem_singleton]

theorem nodup_claim {l : Ledger} (h : l.Nodup) (id : String) : (l.claim id).Nodup := by
  unfold claim
  split
  · exact h
  · next hid =>
    rw [List.contains_iff_mem] at hid
    refine List.nodup_append.2 ⟨h, List.nodup_singleton id, ?_⟩
    rintro x hx y hy rfl
    exact hid (List.mem_singleton.1 hy ▸ hx)

theorem isFree_iff {l : Ledger} {id : String} : l.isFree id = true ↔ id ∉ l := by
  simp [isFree]

end Ledger

namespace Request

variable {taken : Ledger} {requests : List Request} {r : Request}

/-! ## What is granted -/

theorem granted_cons_of_free (h : r.id ∉ taken) :
    granted taken (r :: requests) = r :: granted (taken ++ [r.id]) requests := by
  rw [granted, if_pos (Ledger.isFree_iff.2 h), Ledger.claim, if_neg (by simpa using h)]

theorem granted_cons_of_taken (h : r.id ∈ taken) :
    granted taken (r :: requests) = granted taken requests := by
  rw [granted, if_neg fun hfree => Ledger.isFree_iff.1 hfree h]

/-- **The ledger grows by what is granted.** -/
theorem claimAll_eq (taken : Ledger) (requests : List Request) :
    claimAll taken requests = taken ++ (granted taken requests).map id := by
  induction requests generalizing taken with
  | nil => rw [granted, List.map_nil, List.append_nil]; rfl
  | cons r rest ih =>
    show claimAll (taken.claim r.id) rest = _
    by_cases h : r.id ∈ taken
    · rw [granted_cons_of_taken h, ← ih taken, Ledger.claim, if_pos (by simpa using h)]
    · rw [granted_cons_of_free h, List.map_cons, ← List.singleton_append, ← List.append_assoc,
        ← ih (taken ++ [r.id]), Ledger.claim, if_neg (by simpa using h)]

theorem granted_append (taken : Ledger) (first rest : List Request) :
    granted taken (first ++ rest) = granted taken first ++ granted (claimAll taken first) rest := by
  induction first generalizing taken with
  | nil => rfl
  | cons r first ih =>
    rw [List.cons_append, granted, granted]
    split
    · rw [ih, List.cons_append]
      rfl
    · next h =>
      have hclaim : taken.claim r.id = taken := by
        rw [Ledger.isFree_iff, not_not] at h
        rw [Ledger.claim, if_pos (by simpa using h)]
      rw [ih, show claimAll taken (r :: first) = claimAll (taken.claim r.id) first from rfl, hclaim]

theorem sublist_granted (taken : Ledger) (requests : List Request) :
    (granted taken requests).Sublist requests := by
  induction requests generalizing taken with
  | nil => exact List.Sublist.slnil
  | cons r rest ih =>
    rw [granted]
    split
    · exact (ih _).cons_cons r
    · exact (ih _).cons r

/-- The first request for an identifier. -/
def first? (requests : List Request) (id : String) : Option Request :=
  requests.find? (·.id == id)

/-- The position of the first request for an identifier. -/
def position (requests : List Request) (id : String) : Nat :=
  requests.findIdx (·.id == id)

theorem position_cons_self (r : Request) (rest : List Request) : position (r :: rest) r.id = 0 := by
  simp [position, List.findIdx_cons]

theorem position_cons_of_ne {id : String} (h : r.id ≠ id) (rest : List Request) :
    position (r :: rest) id = position rest id + 1 := by
  rw [position, List.findIdx_cons, beq_eq_false_iff_ne.2 h]
  rfl

/-- **A request is granted if it is the first one for its identifier and that was free.** -/
theorem mem_granted_iff :
    r ∈ granted taken requests ↔ r.id ∉ taken ∧ first? requests r.id = some r := by
  induction requests generalizing taken with
  | nil => simp [granted, first?]
  | cons s rest ih =>
    by_cases hid : s.id = r.id
    · -- Of the requests for the identifier of `s`, only `s` itself can be granted.
      have hfirst : first? (s :: rest) r.id = some s :=
        List.find?_cons_of_pos (by rw [hid, beq_self_eq_true])
      rw [hfirst, Option.some.injEq]
      by_cases htaken : s.id ∈ taken
      · rw [granted_cons_of_taken htaken, ih]
        constructor
        · rintro ⟨hr, -⟩
          exact absurd (hid ▸ htaken) hr
        · rintro ⟨hr, -⟩
          exact absurd (hid ▸ htaken) hr
      · rw [granted_cons_of_free htaken, List.mem_cons, ih]
        constructor
        · rintro (rfl | ⟨hr, -⟩)
          · exact ⟨htaken, rfl⟩
          · exact absurd (List.mem_append_right taken (hid ▸ List.mem_singleton_self _)) hr
        · rintro ⟨-, rfl⟩
          exact Or.inl rfl
    · have hfirst : first? (s :: rest) r.id = first? rest r.id :=
        List.find?_cons_of_neg (by rw [beq_iff_eq]; exact hid)
      rw [hfirst]
      by_cases htaken : s.id ∈ taken
      · rw [granted_cons_of_taken htaken, ih]
      · rw [granted_cons_of_free htaken, List.mem_cons, ih, List.mem_append, List.mem_singleton,
          not_or]
        constructor
        · rintro (rfl | ⟨⟨hr, -⟩, hfind⟩)
          · exact absurd rfl hid
          · exact ⟨hr, hfind⟩
        · rintro ⟨hr, hfind⟩
          exact Or.inr ⟨⟨hr, Ne.symm hid⟩, hfind⟩

/-- **What is granted stands in the order of the first requests.** -/
theorem ordered_granted (taken : Ledger) (requests : List Request) :
    (granted taken requests).Pairwise
      fun a b => position requests a.id < position requests b.id := by
  induction requests generalizing taken with
  | nil => exact List.Pairwise.nil
  | cons r rest ih =>
    -- Both identifiers of a pair behind `r` differ from that of `r`, so both move by one.
    have behind (taken : Ledger) (hr : r.id ∈ taken) : (granted taken rest).Pairwise
        fun a b => position (r :: rest) a.id < position (r :: rest) b.id := by
      refine (ih taken).imp_of_mem fun {a b} ha hb hlt => ?_
      have hne (c : Request) (hc : c ∈ granted taken rest) : r.id ≠ c.id :=
        fun heq => (mem_granted_iff.1 hc).1 (heq ▸ hr)
      rw [position_cons_of_ne (hne a ha), position_cons_of_ne (hne b hb)]
      exact Nat.succ_lt_succ hlt
    by_cases htaken : r.id ∈ taken
    · rw [granted_cons_of_taken htaken]
      exact behind taken htaken
    · have hr : r.id ∈ taken ++ [r.id] := List.mem_append_right _ (List.mem_singleton_self _)
      rw [granted_cons_of_free htaken, List.pairwise_cons]
      refine ⟨fun b hb => ?_, behind _ hr⟩
      have hne : r.id ≠ b.id := fun heq => (mem_granted_iff.1 hb).1 (heq ▸ hr)
      rw [position_cons_self, position_cons_of_ne hne]
      exact Nat.succ_pos _

theorem nodup_claimAll (h : taken.Nodup) (requests : List Request) :
    (claimAll taken requests).Nodup := by
  induction requests generalizing taken with
  | nil => exact h
  | cons r rest ih => exact ih (Ledger.nodup_claim h r.id)

/-- An identifier is in the ledger if it had been taken or something asked for it. -/
theorem mem_claimAll_iff {x : String} :
    x ∈ claimAll taken requests ↔ x ∈ taken ∨ ∃ r ∈ requests, r.id = x := by
  induction requests generalizing taken with
  | nil => simp [claimAll]
  | cons r rest ih =>
    show x ∈ claimAll (taken.claim r.id) rest ↔ _
    rw [ih, Ledger.mem_claim, List.exists_mem_cons_iff, or_assoc, eq_comm (a := x)]

/-! ## Requests of each kind -/

theorem sensor?_eq_some_iff (r : Request) (s : Sensor) : r.sensor? = some s ↔ r = .sensor s := by
  cases r <;> simp [sensor?]

theorem component?_eq_some_iff (r : Request) (c : Component) :
    r.component? = some c ↔ r = .component c := by
  cases r <;> simp [component?]

theorem global?_eq_some_iff (r : Request) (g : Global) : r.global? = some g ↔ r = .globalVariable g := by
  cases r <;> simp [global?]

section Kinds

variable {α : Type} {make : α → Request} {kind? : Request → Option α}
  (hkind : ∀ r a, kind? r = some a ↔ r = make a)

include hkind

/-- What is asked for with requests of a kind. -/
theorem mem_filterMap_iff {requests : List Request} {a : α} :
    a ∈ requests.filterMap kind? ↔ make a ∈ requests := by
  rw [List.mem_filterMap]
  constructor
  · rintro ⟨r, hr, ha⟩
    rwa [(hkind r a).1 ha] at hr
  · exact fun ha => ⟨make a, ha, (hkind _ _).2 rfl⟩

theorem pairwise_filterMap {R : Request → Request → Prop} {requests : List Request}
    (h : requests.Pairwise R) :
    (requests.filterMap kind?).Pairwise fun a b => R (make a) (make b) := by
  refine h.filterMap _ fun r r' hrr' a ha b hb => ?_
  rwa [(hkind r a).1 ha, (hkind r' b).1 hb] at hrr'

end Kinds

/-- Sensors, components and global variables of a list have the identifiers of its requests. -/
theorem perm_ids (requests : List Request) :
    ((requests.filterMap sensor?).map Sensor.id ++ (requests.filterMap component?).map Component.key
      ++ (requests.filterMap global?).map Global.id).Perm (requests.map id) := by
  induction requests with
  | nil => exact List.Perm.nil
  | cons r rest ih =>
    cases r with
    | sensor s => exact ih.cons s.id
    | component c =>
      refine List.Perm.trans ?_ (ih.cons c.key)
      show (_ ++ (c.key :: _) ++ _).Perm _
      rw [List.append_assoc, List.append_assoc]
      exact List.perm_middle
    | globalVariable g =>
      refine List.Perm.trans ?_ (ih.cons g.id)
      show (_ ++ (g.id :: _)).Perm _
      exact List.perm_middle

end Request

/-! ## The declarations of a project -/

/-- All that is asked for in a project: the fixed global variables, and then what its widgets ask
for, page by page and widget by widget. -/
def Project.claims [Qr.Encoder] (p : Project) (mode : Mode) (device : Device) : List Request :=
  fixedGlobals.map .globalVariable ++ p.requests mode device

section Declare

variable [Qr.Encoder] (p : Project) (mode : Mode) (device : Device)

theorem Project.granted_claims :
    Request.granted Ledger.initial (p.claims mode device)
      = fixedGlobals.map .globalVariable
        ++ Request.granted (Request.claimAll Ledger.initial (fixedGlobals.map .globalVariable))
          (p.requests mode device) := by
  have hfixed : Request.granted Ledger.initial (fixedGlobals.map .globalVariable)
      = fixedGlobals.map .globalVariable := by decide
  rw [claims, Request.granted_append, hfixed]

theorem Project.sensors_declare :
    (p.declare mode device).sensors
      = (Request.granted Ledger.initial (p.claims mode device)).filterMap Request.sensor? := by
  rw [granted_claims, List.filterMap_append]
  rfl

theorem Project.components_declare :
    (p.declare mode device).components
      = (Request.granted Ledger.initial (p.claims mode device)).filterMap Request.component? := by
  rw [granted_claims, List.filterMap_append]
  rfl

theorem Project.globals_declare :
    (p.declare mode device).globals
      = (Request.granted Ledger.initial (p.claims mode device)).filterMap Request.global? := by
  rw [granted_claims, List.filterMap_append]
  rfl

theorem Project.ledger_declare :
    (p.declare mode device).ledger = Request.claimAll Ledger.initial (p.claims mode device) := by
  rw [claims, Request.claimAll, List.foldl_append]
  rfl

/-- A request is granted if it is the first for its identifier. -/
theorem Project.mem_granted_claims {r : Request} :
    r ∈ Request.granted Ledger.initial (p.claims mode device)
      ↔ r.id ≠ Ledger.timeSource ∧ Request.first? (p.claims mode device) r.id = some r := by
  rw [Request.mem_granted_iff, Ledger.initial, List.mem_singleton]

/-- A sensor is declared if the first that asks for its identifier asks for that sensor. -/
theorem Project.mem_sensors_declare {s : Sensor} :
    s ∈ (p.declare mode device).sensors
      ↔ s.id ≠ Ledger.timeSource ∧ Request.first? (p.claims mode device) s.id = some (.sensor s) := by
  rw [sensors_declare, Request.mem_filterMap_iff Request.sensor?_eq_some_iff]
  exact mem_granted_claims p mode device

theorem Project.mem_components_declare {c : Component} :
    c ∈ (p.declare mode device).components
      ↔ c.key ≠ Ledger.timeSource ∧ Request.first? (p.claims mode device) c.key = some (.component c) := by
  rw [components_declare, Request.mem_filterMap_iff Request.component?_eq_some_iff]
  exact mem_granted_claims p mode device

theorem Project.mem_globals_declare {g : Global} :
    g ∈ (p.declare mode device).globals
      ↔ g.id ≠ Ledger.timeSource ∧ Request.first? (p.claims mode device) g.id = some (.globalVariable g) := by
  rw [globals_declare, Request.mem_filterMap_iff Request.global?_eq_some_iff]
  exact mem_granted_claims p mode device

omit [Qr.Encoder] in
/-- A widget of a project, with what it can know about the project. -/
theorem Project.mem_situated_iff {around : Surroundings} {w : Widget} :
    (around, w) ∈ p.situated mode device
      ↔ ∃ i page, p.pages[i]? = some page ∧ w ∈ page.widgets
        ∧ around = ⟨mode, p.pages.length, i, device⟩ := by
  rw [situated, List.mem_flatten]
  constructor
  · rintro ⟨ws, hws, hw⟩
    obtain ⟨i, hi, rfl⟩ := List.mem_mapIdx.1 hws
    obtain ⟨w', hw', heq⟩ := List.mem_map.1 hw
    cases heq
    exact ⟨i, p.pages[i], List.getElem?_eq_getElem hi, hw', rfl⟩
  · rintro ⟨i, page, hpage, hw, rfl⟩
    obtain ⟨hi, rfl⟩ := List.getElem?_eq_some_iff.1 hpage
    exact ⟨_, List.mem_mapIdx.2 ⟨i, hi, rfl⟩, List.mem_map.2 ⟨w, hw, rfl⟩⟩

/-- What a widget of the project asks for is among the claims of the project. -/
theorem Project.mem_claims {around : Surroundings} {w : Widget} {r : Request}
    (hw : (around, w) ∈ p.situated mode device) (hr : r ∈ w.requests around) :
    r ∈ p.claims mode device :=
  List.mem_append_right _ (List.mem_flatMap.2 ⟨(around, w), hw, hr⟩)

end Declare

/-- What is declared follows the requests `claims`, which come one by one. -/
structure Declared.FollowsLedger (d : Declared) (claims : List Request) : Prop where
  /-- Identifiers are declared once, whether for a sensor, a component, a global variable or the
  time source. -/
  distinct : (Ledger.timeSource :: (d.sensors.map Sensor.id ++ d.components.map Component.key
    ++ d.globals.map Global.id)).Nodup
  /-- The ledger holds what is declared and nothing else. -/
  ledger_perm : d.ledger.Perm (Ledger.timeSource :: (d.sensors.map Sensor.id
    ++ d.components.map Component.key ++ d.globals.map Global.id))
  first_sensor : ∀ s ∈ d.sensors, Request.first? claims s.id = some (.sensor s)
  first_component : ∀ c ∈ d.components, Request.first? claims c.key = some (.component c)
  first_global : ∀ g ∈ d.globals, Request.first? claims g.id = some (.globalVariable g)
  sensors_ordered : d.sensors.Pairwise
    fun s t => Request.position claims s.id < Request.position claims t.id
  components_ordered : ∀ name, (d.components.filter (·.sectionName = name)).Pairwise
    fun a b => Request.position claims a.key < Request.position claims b.key
  globals_ordered : d.globals.Pairwise
    fun g h => Request.position claims g.id < Request.position claims h.id

section FollowsLedger

variable [Qr.Encoder] (p : Project) (mode : Mode) (device : Device)

theorem Project.perm_ledger_declare :
    (p.declare mode device).ledger.Perm (Ledger.timeSource ::
      ((p.declare mode device).sensors.map Sensor.id
        ++ (p.declare mode device).components.map Component.key
        ++ (p.declare mode device).globals.map Global.id)) := by
  rw [ledger_declare, Request.claimAll_eq, sensors_declare, components_declare, globals_declare]
  exact (Request.perm_ids _).symm.cons Ledger.timeSource

/-- **The declarations of a project follow its ledger.** -/
theorem Project.followsLedger_declare :
    (p.declare mode device).FollowsLedger (p.claims mode device) := by
  have hordered := Request.ordered_granted Ledger.initial (p.claims mode device)
  constructor
  case distinct =>
    refine (perm_ledger_declare p mode device).nodup_iff.1 ?_
    rw [ledger_declare]
    exact Request.nodup_claimAll (List.nodup_singleton _) _
  case ledger_perm => exact perm_ledger_declare p mode device
  case first_sensor => exact fun s hs => ((mem_sensors_declare p mode device).1 hs).2
  case first_component => exact fun c hc => ((mem_components_declare p mode device).1 hc).2
  case first_global => exact fun g hg => ((mem_globals_declare p mode device).1 hg).2
  case sensors_ordered =>
    rw [sensors_declare]
    exact Request.pairwise_filterMap Request.sensor?_eq_some_iff hordered
  case components_ordered =>
    intro name
    rw [components_declare]
    exact (Request.pairwise_filterMap Request.component?_eq_some_iff hordered).filter _
  case globals_ordered =>
    rw [globals_declare]
    exact Request.pairwise_filterMap Request.global?_eq_some_iff hordered

end FollowsLedger

/-- All that a widget asks for is in a ledger: the sensors that it reads and those of its
condition, except for numbers that their entities do not have, its components, and its global
variables. -/
structure Widget.RecordedIn (w : Widget) (b : Behaviour) (around : Surroundings) (l : Ledger) :
    Prop where
  sensors : ∀ s ∈ b.sensors (w.view b) around, s.isMismatched = false → s.id ∈ l
  condition : around.mode = .direct →
    ∀ c ∈ Condition.ofWidget? w, c.sensor.isMismatched = false → c.sensor.id ∈ l
  components : ∀ c ∈ b.components (w.view b) around, c.key ∈ l
  globals : ∀ g ∈ b.globals (w.view b) around, g.id ∈ l

theorem Widget.mem_requests_of_reads [Qr.Encoder] {w : Widget} {around : Surroundings}
    {b : Behaviour} (hb : w.behaviourIn? around.mode = some b) {s : Sensor}
    (hs : s ∈ w.readSensors b around) (hkept : s.isMismatched = false) :
    .sensor s ∈ w.requests around := by
  simp only [requests, hb]
  refine List.mem_append_left _ (List.mem_append_left _ (List.mem_map_of_mem ?_))
  rw [List.mem_filter, hkept]
  exact ⟨hs, rfl⟩

/-- A widget of a mode is recorded in every ledger that holds what it asks for. -/
theorem Widget.recordedIn [Qr.Encoder] {w : Widget} {around : Surroundings} {b : Behaviour}
    (hb : w.behaviourIn? around.mode = some b) {l : Ledger}
    (hl : ∀ r ∈ w.requests around, r.id ∈ l) : w.RecordedIn b around l where
  sensors s hs hkept :=
    hl (.sensor s) (mem_requests_of_reads hb (List.mem_append_left _ hs) hkept)
  condition hdirect c hc hkept := by
    refine hl (.sensor c.sensor) (mem_requests_of_reads hb (List.mem_append_right _ ?_) hkept)
    rw [if_pos hdirect, Option.mem_toList]
    exact Option.mem_map_of_mem _ hc
  components c hc := by
    refine hl (.component c) ?_
    simp only [requests, hb]
    exact List.mem_append_left _ (List.mem_append_right _ (List.mem_map_of_mem hc))
  globals g hg := by
    refine hl (.globalVariable g) ?_
    simp only [requests, hb]
    exact List.mem_append_right _ (List.mem_map_of_mem hg)

/-- **Ledger discipline.** Every identifier is declared once, for what asks for it first, and in
that order; nothing that a widget asks for is left out of the ledger. -/
theorem Project.ledger_discipline [Qr.Encoder] (p : Project) (mode : Mode) (device : Device) :
    (p.declare mode device).FollowsLedger (p.claims mode device)
      ∧ ∀ (i : Nat) (page : Page), p.pages[i]? = some page →
        ∀ w ∈ page.widgets, ∀ b ∈ w.behaviourIn? mode,
          w.RecordedIn b ⟨mode, p.pages.length, i, device⟩ (p.declare mode device).ledger := by
  refine ⟨followsLedger_declare p mode device, fun i page hpage w hw b hb => ?_⟩
  refine Widget.recordedIn hb fun r hr => ?_
  have hsituated := (mem_situated_iff p mode device).2 ⟨i, page, hpage, hw, rfl⟩
  rw [ledger_declare]
  exact Request.mem_claimAll_iff.2 (Or.inr ⟨r, mem_claims p mode device hsituated hr, rfl⟩)

/-! ## Sensors that widgets read -/

/-- A sensor answers another one if it delivers the same reading under the same identifier.
What they refresh may differ. -/
def Sensor.Answers (t s : Sensor) : Prop :=
  t.id = s.id ∧ t.kind = s.kind ∧ t.entityId = s.entityId ∧ t.attributeName = s.attributeName
deriving Decidable

namespace Request

/-- The identifier of a sensor goes to something that does not answer it: to the time source, or
to the first request that asks for it. -/
def TakenElsewhere (claims : List Request) (s : Sensor) : Prop :=
  s.id = Ledger.timeSource ∨
    ∃ r, first? claims s.id = some r ∧ ∀ t, r.sensor? = some t → ¬t.Answers s

theorem mem_of_first? {claims : List Request} {id : String} {r : Request}
    (h : first? claims id = some r) : r ∈ claims ∧ r.id = id := by
  have hfound := List.find?_some h
  exact ⟨List.mem_of_find?_eq_some h, beq_iff_eq.1 hfound⟩

theorem exists_first? {claims : List Request} {r : Request} (h : r ∈ claims) :
    ∃ f, first? claims r.id = some f :=
  Option.isSome_iff_exists.1 (List.find?_isSome.2 ⟨r, h, beq_self_eq_true _⟩)

end Request

/-- A sensor that a widget of the project reads, besides that of its condition. -/
def Project.Reads [Qr.Encoder] (p : Project) (mode : Mode) (device : Device) (s : Sensor) : Prop :=
  ∃ (i : Nat) (page : Page), p.pages[i]? = some page ∧ ∃ w ∈ page.widgets, ∃ b ∈ w.behaviourIn? mode,
    s ∈ b.sensors (w.view b) ⟨mode, p.pages.length, i, device⟩

/-- **The sensors that widgets read are declared,** but for those of the wrong kind and those
whose identifiers are taken elsewhere. -/
theorem Project.answered_iff [Qr.Encoder] {p : Project} {mode : Mode} {device : Device} {s : Sensor}
    (hs : p.Reads mode device s) (hkept : s.isMismatched = false) :
    (∃ t ∈ (p.declare mode device).sensors, t.Answers s)
      ↔ ¬Request.TakenElsewhere (p.claims mode device) s := by
  obtain ⟨i, page, hpage, w, hw, b, hb, hs⟩ := hs
  have hsituated := (mem_situated_iff p mode device).2 ⟨i, page, hpage, hw, rfl⟩
  have hclaim : Request.sensor s ∈ p.claims mode device :=
    mem_claims p mode device hsituated
      (Widget.mem_requests_of_reads hb (List.mem_append_left _ hs) hkept)
  constructor
  · rintro ⟨t, ht, hanswers⟩ hother
    obtain ⟨hfree, hfirst⟩ := (mem_sensors_declare p mode device).1 ht
    rw [hanswers.1] at hfree hfirst
    rcases hother with htime | ⟨r, hr, hno⟩
    · exact hfree htime
    · rw [hfirst, Option.some.injEq] at hr
      subst hr
      exact hno t rfl hanswers
  · intro hother
    obtain ⟨r, hr⟩ := Request.exists_first? hclaim
    -- The first request for the identifier is a sensor that answers, or it is taken elsewhere.
    have hanswer : ∃ t, r.sensor? = some t ∧ t.Answers s := by
      by_contra hno
      push Not at hno
      exact hother (Or.inr ⟨r, hr, hno⟩)
    obtain ⟨t, ht, hanswers⟩ := hanswer
    cases r <;> cases ht
    refine ⟨t, (mem_sensors_declare p mode device).2 ?_, hanswers⟩
    rw [hanswers.1]
    exact ⟨fun htime => hother (Or.inl htime), hr⟩

/-- Two readings of entities whose names differ in a character that identifiers leave out. -/
def lookalikeReadings : Project :=
  { pages := [{ widgets := [{ type := "sensor_text", entityId := some "sensor.a-b" },
      { type := "sensor_text", entityId := some "sensor.a_b" }] }] }

/-- The first of the readings is declared. -/
theorem answered_first_reading :
    ∃ t ∈ (lookalikeReadings.declare .direct {}).sensors,
      t.Answers ((Sensor.of .numeric "sensor.a-b").refreshing "w_") := by
  have hreads : lookalikeReadings.Reads .direct {}
      ((Sensor.of .numeric "sensor.a-b").refreshing "w_") :=
    ⟨0, _, rfl, _, List.mem_cons_self, Kind.sensorText.behaviour, rfl, by decide⟩
  have hfirst : Request.first? (lookalikeReadings.claims .direct {}) "sensor_a_b"
      = some (.sensor ((Sensor.of .numeric "sensor.a-b").refreshing "w_")) := by decide +kernel
  refine (Project.answered_iff hreads (by decide)).2 ?_
  rintro (htime | ⟨r, hr, hno⟩)
  · exact absurd htime (by decide)
  · cases hfirst.symm.trans hr
    exact hno _ rfl ⟨rfl, rfl, rfl, rfl⟩

/-- A bar over the brightness of a light, whose state is no number. -/
def lightBar : Project :=
  { pages := [{ widgets := [{ type := "progress_bar", entityId := some "light.lamp" }] }] }

/-- **Not every sensor that is read is declared:** not the second of two with one identifier, and
not one that asks for numbers where there are none. -/
theorem exists_unanswered_reading :
    (∃ s, lookalikeReadings.Reads .direct {} s ∧ s.isMismatched = false
      ∧ ¬∃ t ∈ (lookalikeReadings.declare .direct {}).sensors, t.Answers s)
    ∧ ∃ s, lightBar.Reads .direct {} s
      ∧ ¬Request.TakenElsewhere (lightBar.claims .direct {}) s
      ∧ ¬∃ t ∈ (lightBar.declare .direct {}).sensors, t.Answers s := by
  constructor
  · refine ⟨(Sensor.of .numeric "sensor.a_b").refreshing "w_", ?_, by decide, by decide +kernel⟩
    exact ⟨0, _, rfl, _, List.mem_cons_of_mem _ List.mem_cons_self, Kind.sensorText.behaviour, rfl,
      by decide⟩
  · refine ⟨((Sensor.of .numeric "light.lamp").refreshing "w__bar").refreshing "w__label", ?_, ?_,
      by decide +kernel⟩
    · exact ⟨0, _, rfl, _, List.mem_cons_self, Kind.progressBar.behaviour, rfl, by decide⟩
    · have hfirst : Request.first? (lightBar.claims .direct {}) "light_lamp" = none := by
        decide +kernel
      rintro (htime | ⟨r, hr, -⟩)
      · exact absurd htime (by decide)
      · cases hfirst.symm.trans hr

end DisplayLayout
