import DisplayLayout.Declared
import DisplayLayout.Proofs.Identifier
import DisplayLayout.Proofs.Widget.Table

/-!
# How widgets make sensors

A widget makes its sensors from its entity, or from one that stands for it,
adds an attribute, and adds what has to be refreshed (`Kind.made_sensors`).
What holds of the parts therefore holds of all sensors by one induction over
`Sensor.Made`.
-/

namespace DisplayLayout

open Text (IsWordText)

/-- The names of entities and attributes that widgets bring with them. -/
def Sensor.builtIn : List String :=
  [WeatherSymbol.defaultEntity, BatteryGauge.defaultEntity, "entries"]

/-- A sensor that is made from an entity of which `P` holds, and refreshes only what `D` allows. Its
attribute is not a text of the widget. -/
inductive Sensor.Made (P D : String → Prop) : Sensor → Prop
  | of {entity : String} (h : P entity) (kind : SensorKind) : Made P D (Sensor.of kind entity)
  | withAttribute {s : Sensor} (h : Made P D s) {name : String} (hname : name ∈ Sensor.builtIn) :
      Made P D (s.withAttribute name)
  | withRefresh {s : Sensor} (h : Made P D s) {directive : String} (hd : D directive) :
      Made P D (s.withRefresh directive)

/-- What a widget makes sensors from: texts of which `P` holds, and directives that `D` allows. -/
structure View.Supplies (v : View) (P D : String → Prop) : Prop where
  entity : ∀ e ∈ v.entity?, P e
  builtIn : ∀ text ∈ Sensor.builtIn, P text
  widget : ∀ suffix, IsWordText suffix → D (Sensor.refreshDirective (v.identWith suffix))
  needle : D (Instrument.moveNeedle v)

/-- The attribute of a sensor is one that widgets bring with them. -/
theorem Sensor.Made.mem_builtIn {P D : String → Prop} {s : Sensor} (h : s.Made P D) :
    ∀ name ∈ s.attributeName, name ∈ Sensor.builtIn := by
  induction h with
  | of => exact fun _ hname => absurd hname (by simp [Sensor.of])
  | withAttribute _ hname => exact fun _ hsome => Option.some.inj hsome ▸ hname
  | withRefresh _ _ ih => exact ih

/-- The identifier of a sensor ends in what tells its kind. -/
theorem Sensor.Made.exists_sanitize {P D : String → Prop} {s : Sensor} (h : s.Made P D) :
    ∃ raw, s.id = Identifier.sanitize raw s.kind.suffix := by
  induction h with
  | of => exact ⟨_, rfl⟩
  | withAttribute => exact ⟨_, rfl⟩
  | withRefresh _ _ ih => exact ih

/-! ## Gauges -/

theorem BatteryGauge.sensor_source {v : View} {s : Sensor} (h : (source v).sensor = some s) :
    s = Sensor.of .numeric (v.entity?.getD defaultEntity) := by
  unfold source at h
  dsimp only at h
  split at h
  · cases h
  · cases h
    rfl

theorem SignalGauge.sensor_source {v : View} {s : Sensor} (h : (source v).sensor = some s) :
    ∃ e, v.entity? = some e ∧ s = Sensor.of .numeric e := by
  unfold source at h
  split at h
  · next e he =>
    split at h
    · cases h
    · cases h
      exact ⟨e, he, rfl⟩
  · cases h

/-! ## All widgets -/

section Made

variable {v : View} {P D : String → Prop} (hv : v.Supplies P D) {s : Sensor}

include hv

theorem Sensor.Made.refreshing (h : s.Made P D) {suffix : String} (hsuffix : IsWordText suffix) :
    (s.refreshing (v.identWith suffix)).Made P D :=
  h.withRefresh (hv.widget suffix hsuffix)

theorem Sensor.made_getD {fallback : String} (h : fallback ∈ Sensor.builtIn) (kind : SensorKind) :
    (Sensor.of kind (v.entity?.getD fallback)).Made P D := by
  refine Made.of ?_ kind
  cases he : v.entity? with
  | none => exact hv.builtIn fallback h
  | some e => exact hv.entity e he

/-- A sensor for the entity of the widget, if there is one. -/
theorem Sensor.made_of_entity {kind : String → SensorKind}
    (h : v.entity?.map (fun e => Sensor.of (kind e) e) = some s) : s.Made P D := by
  obtain ⟨e, he, rfl⟩ := Option.map_eq_some_iff.1 h
  exact Made.of (hv.entity e he) _

namespace Binding

theorem made_numeric? (h : numeric? v = some s) : s.Made P D := by
  obtain ⟨e, he, rfl⟩ := Option.map_eq_some_iff.1 h
  exact Sensor.Made.of (hv.entity e (Option.filter_eq_some_iff.1 he).1) _

theorem made_refreshed {sensor? : View → Option Sensor}
    (h : ∀ t, sensor? v = some t → t.Made P D) (hs : s ∈ refreshed sensor? v) : s.Made P D := by
  obtain ⟨t, ht, rfl⟩ := Option.map_eq_some_iff.1 (Option.mem_toList.1 hs)
  exact (h t ht).refreshing hv (by decide)

end Binding

theorem Gauge.made_sensors {g : Setup} (hg : ∀ t, (g.source v).sensor = some t → t.Made P D)
    (h : s ∈ Gauge.sensors g v) : s.Made P D := by
  obtain ⟨t, ht, rfl⟩ := List.mem_map.1 h
  exact ((hg t (Option.mem_toList.1 ht)).refreshing hv (by decide)).refreshing hv (by decide)

theorem BatteryGauge.made_source (h : (BatteryGauge.source v).sensor = some s) : s.Made P D := by
  rw [BatteryGauge.sensor_source h]
  exact Sensor.made_getD hv (by decide) _

theorem SignalGauge.made_source (h : (SignalGauge.source v).sensor = some s) : s.Made P D := by
  obtain ⟨e, he, rfl⟩ := SignalGauge.sensor_source h
  exact Sensor.Made.of (hv.entity e he) _

/-- **The sensors that a widget asks for are made from what it supplies.** -/
theorem Kind.made_sensors [Qr.Encoder] (k : Kind) (around : Surroundings)
    (hs : s ∈ k.behaviour.sensors v around) : s.Made P D := by
  cases k with
  | sensorText =>
    obtain ⟨t, ht, rfl⟩ := List.mem_map.1 hs
    exact (Sensor.made_of_entity hv (Option.mem_toList.1 ht)).refreshing hv (by decide)
  | weatherIcon =>
    rw [List.mem_singleton.1 hs]
    exact (Sensor.made_getD hv (by decide) _).refreshing hv (by decide)
  | batteryIcon => exact Gauge.made_sensors hv (fun _ => BatteryGauge.made_source hv) hs
  | wifiSignal => exact Gauge.made_sensors hv (fun _ => SignalGauge.made_source hv) hs
  | progressBar =>
    obtain ⟨t, ht, rfl⟩ := List.mem_map.1 hs
    have hmade := Sensor.made_of_entity hv (Option.mem_toList.1 ht)
    exact (hmade.refreshing hv (by decide)).refreshing hv (by decide)
  | calendar =>
    obtain ⟨e, he, rfl⟩ := Option.map_eq_some_iff.1 (Option.mem_toList.1 hs)
    exact (Sensor.Made.of (hv.entity e he) _).withAttribute (by decide)
  | graph => exact Sensor.made_of_entity hv (Option.mem_toList.1 hs)
  | meter =>
    obtain ⟨t, ht, rfl⟩ := Option.map_eq_some_iff.1 (Option.mem_toList.1 hs)
    exact (Binding.made_numeric? hv ht).withRefresh hv.needle
  | label => exact Binding.made_refreshed hv (fun _ => Sensor.made_of_entity hv) hs
  | switch => exact Binding.made_refreshed hv (fun _ => Sensor.made_of_entity hv) hs
  | checkbox => exact Binding.made_refreshed hv (fun _ => Sensor.made_of_entity hv) hs
  | led => exact Binding.made_refreshed hv (fun _ => Sensor.made_of_entity hv) hs
  | qrSymbol => exact Binding.made_refreshed hv (fun _ => Sensor.made_of_entity hv) hs
  | arc => exact Binding.made_refreshed hv (fun _ => Binding.made_numeric? hv) hs
  | bar => exact Binding.made_refreshed hv (fun _ => Binding.made_numeric? hv) hs
  | slider => exact Binding.made_refreshed hv (fun _ => Binding.made_numeric? hv) hs
  | dropdown => exact Binding.made_refreshed hv (fun _ => Binding.made_numeric? hv) hs
  | roller => exact Binding.made_refreshed hv (fun _ => Binding.made_numeric? hv) hs
  | spinbox => exact Binding.made_refreshed hv (fun _ => Binding.made_numeric? hv) hs
  | _ => exact absurd hs List.not_mem_nil

end Made

theorem Widget.exists_kind_of_behaviourIn? [Qr.Encoder] {w : Widget} {mode : Mode} {b : Behaviour}
    (h : w.behaviourIn? mode = some b) :
    ∃ k : Kind, w.type = k.tag ∧ b = k.behaviour ∧ k.behaviour.modes.contains mode = true := by
  obtain ⟨hb, hmode⟩ := Option.filter_eq_some_iff.1 h
  obtain ⟨k, htype, rfl⟩ := exists_kind_of_behaviour? hb
  exact ⟨k, htype, rfl, hmode⟩

/-- Any text will do where nothing is asked of it. -/
theorem View.supplies_true (v : View) : v.Supplies (fun _ => True) fun _ => True :=
  ⟨fun _ _ => trivial, fun _ _ => trivial, fun _ _ => trivial, trivial⟩

/-- What a widget of a type asks for: its sensors, in the display lambda that of its condition, its
components, and its global variables. -/
inductive Widget.Asks [Qr.Encoder] (w : Widget) (around : Surroundings) (k : Kind) : Request → Prop
  | sensor {s : Sensor} (hs : s ∈ k.behaviour.sensors (w.view k.behaviour) around) :
      Asks w around k (.sensor s)
  | condition (hmode : around.mode = .direct) {c : Condition} (hc : Condition.ofWidget? w = some c) :
      Asks w around k (.sensor c.sensor)
  | component {c : Component} (hc : c ∈ k.behaviour.components (w.view k.behaviour) around) :
      Asks w around k (.component c)
  | globalVariable {g : Global} (hg : g ∈ k.behaviour.globals (w.view k.behaviour) around) :
      Asks w around k (.globalVariable g)

theorem Widget.asks_of_mem_requests [Qr.Encoder] {w : Widget} {around : Surroundings} {r : Request}
    (h : r ∈ w.requests around) :
    ∃ k : Kind, w.type = k.tag ∧ k.behaviour.modes.contains around.mode = true ∧ w.Asks around k r := by
  unfold requests at h
  split at h
  · exact absurd h List.not_mem_nil
  · next b hb =>
    obtain ⟨k, htype, rfl, hsupported⟩ := exists_kind_of_behaviourIn? hb
    refine ⟨k, htype, hsupported, ?_⟩
    simp only [List.mem_append, List.mem_map] at h
    rcases h with (⟨s, hs, rfl⟩ | ⟨c, hc, rfl⟩) | ⟨g, hg, rfl⟩
    · rcases List.mem_append.1 (List.mem_filter.1 hs).1 with hs | hs
      · exact .sensor hs
      · split at hs
        · next hdirect =>
          obtain ⟨c, hc, rfl⟩ := Option.map_eq_some_iff.1 (Option.mem_toList.1 hs)
          exact .condition hdirect hc
        · exact absurd hs List.not_mem_nil
    · exact .component hc
    · exact .globalVariable hg

end DisplayLayout
