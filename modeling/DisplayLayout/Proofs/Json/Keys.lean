import DisplayLayout.Json.Reader
import DisplayLayout.Proofs.Keyed

/-!
# Documents whose keys differ

A reader of documents sets every entry under its key, so no object of a document
that has been read has a key twice (`Json.distinct_read?`). The invariant is that
of the containers that are still open.
-/

namespace DisplayLayout

namespace Keyed

variable {α : Type} {m : Keyed α}

theorem keys_put (m : Keyed α) (k : String) (v : α) :
    keys (put m k v) = if k ∈ keys m then keys m else keys m ++ [k] := by
  by_cases hk : k ∈ keys m
  · rw [if_pos hk]
    induction m with
    | nil => exact absurd hk List.not_mem_nil
    | cons p m ih =>
      obtain ⟨j, w⟩ := p
      rw [put]
      split
      · next hj => rw [keys_cons, keys_cons, hj]
      · next hj =>
        rw [keys_cons, keys_cons, ih ((List.mem_cons.1 hk).resolve_left (Ne.symm hj))]
  · rw [if_neg hk, put_of_notMem hk, keys_append]
    rfl

/-- Setting a key makes no key come twice. -/
theorem nodup_keys_put (h : (keys m).Nodup) (k : String) (v : α) : (keys (put m k v)).Nodup := by
  rw [keys_put]
  split
  · exact h
  · next hk => exact List.nodup_append.2 ⟨h, List.nodup_singleton k, fun j hj i hi heq =>
      hk (List.mem_singleton.1 hi ▸ heq ▸ hj)⟩

end Keyed

namespace Json

/-- A tree in which no object has a key twice. -/
inductive Distinct : Json → Prop
  | null : Distinct .null
  | bool (b : Bool) : Distinct (.bool b)
  | number (n : Number) : Distinct (.number n)
  | string (s : String) : Distinct (.string s)
  | array {items : List Json} (h : ∀ j ∈ items, Distinct j) : Distinct (.array items)
  | object {entries : List (String × Json)} (hkeys : (Keyed.keys entries).Nodup)
      (h : ∀ p ∈ entries, Distinct p.2) : Distinct (.object entries)

theorem Distinct.items {items : List Json} (h : (Json.array items).Distinct) :
    ∀ j ∈ items, j.Distinct := by
  cases h with
  | array h => exact h

theorem Distinct.keys {entries : List (String × Json)} (h : (Json.object entries).Distinct) :
    (Keyed.keys entries).Nodup := by
  cases h with
  | object hkeys _ => exact hkeys

theorem Distinct.entries {entries : List (String × Json)} (h : (Json.object entries).Distinct) :
    ∀ p ∈ entries, p.2.Distinct := by
  cases h with
  | object _ h => exact h

/-- Setting a key keeps the keys of an object apart. -/
theorem Distinct.put {entries : Keyed Json} (h : (Json.object entries).Distinct) (key : String)
    {j : Json} (hj : j.Distinct) : (Json.object (entries.put key j)).Distinct := by
  refine .object (Keyed.nodup_keys_put h.keys key j) fun p hp => ?_
  rcases Keyed.mem_put hp with hp | rfl
  · exact h.entries p hp
  · exact hj

/-! ## Tokens -/

/-- A token whose value, if it has one, has no key twice. -/
def Token.Distinct : Token → Prop
  | scalar j => j.Distinct
  | _ => True

theorem distinct_scanWord? {cs rest : List Char} {j : Json} (h : scanWord? cs = some (j, rest)) :
    j.Distinct := by
  unfold scanWord? at h
  split at h
  · cases h
    exact .bool true
  · cases h
    exact .bool false
  · cases h
    exact .null
  · cases h

theorem distinct_scanToken? {c : Char} {rest more : List Char} {t : Token}
    (h : scanToken? c rest = some (t, more)) : t.Distinct := by
  unfold scanToken? at h
  split at h
  · next hc =>
    cases h
    unfold punctuation? at hc
    split at hc <;> cases hc <;> trivial
  split at h
  · obtain ⟨p, -, he⟩ := Option.map_eq_some_iff.1 h
    cases he
    exact Distinct.string _
  split at h
  · obtain ⟨_, -, h⟩ := Option.bind_eq_some_iff.1 h
    obtain ⟨n, -, h⟩ := Option.bind_eq_some_iff.1 h
    cases h
    exact Distinct.number n
  · obtain ⟨p, hp, he⟩ := Option.map_eq_some_iff.1 h
    cases he
    exact distinct_scanWord? hp

theorem distinct_tokens? {cs : List Char} {ts : List Token} (h : tokens? cs = some ts) :
    ∀ t ∈ ts, t.Distinct := by
  fun_induction tokens? cs generalizing ts with
  | case1 =>
    cases h
    exact fun t ht => absurd ht List.not_mem_nil
  | case2 c rest hspace ih => exact ih h
  | case3 => cases h
  | case4 c rest hspace t more hscan ih =>
    obtain ⟨ts, hts, rfl⟩ := Option.map_eq_some_iff.1 h
    exact List.forall_mem_cons.2 ⟨distinct_scanToken? hscan, ih hts⟩

/-! ## The machine -/

/-- An open container whose contents so far have no key twice. -/
def Frame.Distinct : Frame → Prop
  | array items => (Json.array items).Distinct
  | object entries _ => (Json.object entries).Distinct

theorem Frame.distinct_emptyArray : (Frame.array []).Distinct :=
  Json.Distinct.array fun _ hj => absurd hj List.not_mem_nil

theorem Frame.distinct_emptyObject (key : String) : (Frame.object [] key).Distinct :=
  Json.Distinct.object List.nodup_nil fun _ hp => absurd hp List.not_mem_nil

/-- A machine whose open containers, and whose value at the end, have no key twice. -/
structure Machine.Distinct (m : Machine) : Prop where
  stack : ∀ frame ∈ m.stack, frame.Distinct
  done : ∀ {value}, m.expect = .done value → value.Distinct

namespace Machine

theorem distinct_finish {stack : List Frame} (h : ∀ frame ∈ stack, frame.Distinct) {j : Json}
    (hj : j.Distinct) : (finish stack j).Distinct := by
  unfold finish
  split
  · exact ⟨h, fun heq => Expect.done.inj heq ▸ hj⟩
  · next items rest =>
    obtain ⟨hitems, hrest⟩ := List.forall_mem_cons.1 h
    have hmore : (Json.array (items ++ [j])).Distinct :=
      .array (List.forall_mem_append.2 ⟨hitems.items, List.forall_mem_singleton.2 hj⟩)
    exact ⟨List.forall_mem_cons.2 ⟨hmore, hrest⟩, nofun⟩
  · next entries key rest =>
    obtain ⟨hentries, hrest⟩ := List.forall_mem_cons.1 h
    have hmore : (Json.object (entries.put key j)).Distinct := Json.Distinct.put hentries key hj
    exact ⟨List.forall_mem_cons.2 ⟨hmore, hrest⟩, nofun⟩

theorem distinct_enter? {stack : List Frame} (h : ∀ frame ∈ stack, frame.Distinct) {frame : Frame}
    (hframe : frame.Distinct) {expect : Expect} {m : Machine}
    (henter : enter? stack frame expect = some m) (hexpect : ∀ value, expect ≠ .done value) :
    m.Distinct := by
  unfold enter? at henter
  split at henter
  · cases henter
  · cases henter
    exact ⟨List.forall_mem_cons.2 ⟨hframe, h⟩, fun heq => absurd heq (hexpect _)⟩

theorem distinct_closeArray? {stack : List Frame} (h : ∀ frame ∈ stack, frame.Distinct)
    {m : Machine} (hclose : closeArray? stack = some m) : m.Distinct := by
  unfold closeArray? at hclose
  split at hclose
  · cases hclose
    obtain ⟨hitems, hrest⟩ := List.forall_mem_cons.1 h
    exact distinct_finish hrest hitems
  · cases hclose

theorem distinct_closeObject? {stack : List Frame} (h : ∀ frame ∈ stack, frame.Distinct)
    {m : Machine} (hclose : closeObject? stack = some m) : m.Distinct := by
  unfold closeObject? at hclose
  split at hclose
  · cases hclose
    obtain ⟨hentries, hrest⟩ := List.forall_mem_cons.1 h
    exact distinct_finish hrest hentries
  · cases hclose

/-- **A token keeps the keys of every object apart.** -/
theorem distinct_step? {m m' : Machine} {t : Token} (h : m.Distinct) (ht : t.Distinct)
    (hstep : m.step? t = some m') : m'.Distinct := by
  unfold step? at hstep
  split at hstep
  case h_1 =>
    cases hstep
    exact distinct_finish h.stack ht
  case h_2 => exact distinct_enter? h.stack Frame.distinct_emptyArray hstep nofun
  case h_3 => exact distinct_enter? h.stack (Frame.distinct_emptyObject _) hstep nofun
  case h_4 => exact distinct_closeArray? h.stack hstep
  case h_5 =>
    split at hstep
    · next hstack =>
      cases hstep
      have hall := h.stack
      rw [hstack] at hall
      obtain ⟨hentries, hrest⟩ := List.forall_mem_cons.1 hall
      have hkeyed : Frame.Distinct (.object _ _) := hentries
      exact ⟨List.forall_mem_cons.2 ⟨hkeyed, hrest⟩, nofun⟩
    · cases hstep
  case h_6 => exact distinct_closeObject? h.stack hstep
  case h_7 =>
    cases hstep
    exact ⟨h.stack, nofun⟩
  case h_8 =>
    split at hstep
    · cases hstep
      exact ⟨h.stack, nofun⟩
    · cases hstep
      exact ⟨h.stack, nofun⟩
    · cases hstep
  case h_9 => exact distinct_closeArray? h.stack hstep
  case h_10 => exact distinct_closeObject? h.stack hstep
  case h_11 => cases hstep

theorem distinct_run {ts : List Token} (hts : ∀ t ∈ ts, t.Distinct) {m m' : Machine}
    (h : m.Distinct) (hrun : ts.foldlM step? m = some m') : m'.Distinct := by
  induction ts generalizing m with
  | nil =>
    cases hrun
    exact h
  | cons t ts ih =>
    obtain ⟨ht, hts⟩ := List.forall_mem_cons.1 hts
    rw [List.foldlM_cons] at hrun
    obtain ⟨next, hstep, hrest⟩ := Option.bind_eq_some_iff.1 hrun
    exact ih hts (distinct_step? h ht hstep) hrest

end Machine

/-- **No object of a document that has been read has a key twice.** -/
theorem distinct_read? {text : String} {j : Json} (h : read? text = some j) : j.Distinct := by
  unfold read? at h
  obtain ⟨ts, hts, h⟩ := Option.bind_eq_some_iff.1 h
  obtain ⟨m, hm, h⟩ := Option.bind_eq_some_iff.1 h
  have hfirst : Machine.Distinct ⟨[], .value false⟩ :=
    ⟨fun _ hframe => absurd hframe List.not_mem_nil, nofun⟩
  have hfinal := Machine.distinct_run (distinct_tokens? hts) hfirst hm
  split at h
  · next hdone =>
    cases h
    exact hfinal.done hdone
  · cases h

end Json

end DisplayLayout
