import DisplayLayout.Keyed
import Mathlib.Data.List.Induction
import Mathlib.Data.List.Nodup

/-!
# Keyed sequences whose keys differ

While no key comes twice, setting a new key adds it at the end (`put_of_notMem`),
entering the pairs gives them back in their order (`ofPairsFirst_of_nodup`), and
every pair is the one that is found under its key (`get?_of_mem`). Items that are
put together by keys that differ are all there, each once (`flatMap_filter_perm`).
-/

namespace DisplayLayout.Keyed

/-! ## Keys of any items -/

section

variable {α κ : Type} [DecidableEq κ]

theorem eraseDups_concat (keys : List κ) (k : κ) :
    (keys ++ [k]).eraseDups = if k ∈ keys then keys.eraseDups else keys.eraseDups ++ [k] := by
  rw [List.eraseDups_append]
  split
  · next hmem => simp [List.removeAll, hmem]
  · next hmem => simp [List.removeAll, hmem, List.eraseDups_cons]

theorem nodup_eraseDups (keys : List κ) : keys.eraseDups.Nodup := by
  induction keys using List.reverseRecOn with
  | nil => exact List.nodup_nil
  | append_singleton keys k ih =>
    rw [eraseDups_concat]
    split
    · exact ih
    · next hnew =>
      refine ih.append (List.nodup_singleton k) ?_
      rw [List.disjoint_singleton, List.mem_eraseDups]
      exact hnew

/-- Items put together by their keys. -/
theorem flatMap_filter_perm (key : α → κ) {keys : List κ} (hkeys : keys.Nodup)
    {items : List α} (h : ∀ a ∈ items, key a ∈ keys) :
    (keys.flatMap fun k => items.filter fun a => key a == k).Perm items := by
  induction keys generalizing items with
  | nil =>
    have hnil : items = [] := List.eq_nil_iff_forall_not_mem.2 fun a ha =>
      absurd (h a ha) List.not_mem_nil
    rw [hnil]
    exact List.Perm.refl _
  | cons k keys ih =>
    obtain ⟨hk, hkeys⟩ := List.nodup_cons.1 hkeys
    have hrest : ∀ a ∈ items.filter (fun a => !(key a == k)), key a ∈ keys := by
      intro a ha
      obtain ⟨hmem, hne⟩ := List.mem_filter.1 ha
      exact (List.mem_cons.1 (h a hmem)).resolve_left (by simpa using hne)
    have hsame : (keys.flatMap fun k' => (items.filter fun a => !(key a == k)).filter fun a => key a == k')
        = keys.flatMap fun k' => items.filter fun a => key a == k' := by
      refine List.flatMap_congr fun k' hk' => ?_
      rw [List.filter_filter]
      refine List.filter_congr fun a _ => ?_
      by_cases hkey : key a = k'
      · have hne : key a ≠ k := by
          rintro heq
          exact hk (heq ▸ hkey ▸ hk')
        simp [hkey, hkey ▸ hne]
      · simp [hkey]
    rw [List.flatMap_cons, ← hsame]
    exact ((ih hkeys hrest).append_left _).trans (List.filter_append_perm _ _)

end

/-! ## Keyed sequences -/

variable {α : Type} {m n : Keyed α} {k : String} {v : α}

@[simp] theorem keys_nil : keys ([] : Keyed α) = [] := rfl

@[simp] theorem keys_cons (p : String × α) (m : Keyed α) : keys (p :: m) = p.1 :: keys m := rfl

@[simp] theorem keys_append (m n : Keyed α) : keys (m ++ n) = keys m ++ keys n := List.map_append

theorem get?_eq_none_iff : get? m k = none ↔ k ∉ keys m := by
  induction m with
  | nil => simp [get?]
  | cons p m ih =>
    obtain ⟨j, w⟩ := p
    by_cases h : j = k
    · simp [get?, h]
    · simp [get?, h, ih, Ne.symm h]

theorem get?_of_notMem (h : k ∉ keys m) : get? m k = none := get?_eq_none_iff.2 h

theorem mem_of_get? (h : get? m k = some v) : (k, v) ∈ m := by
  induction m with
  | nil => simp [get?] at h
  | cons p m ih =>
    obtain ⟨j, w⟩ := p
    rw [get?] at h
    split at h
    · next hj =>
      cases h
      rw [hj]
      exact List.mem_cons_self
    · exact List.mem_cons_of_mem _ (ih h)

/-- With keys that differ, every pair is found under its key. -/
theorem get?_of_mem (hm : (keys m).Nodup) (h : (k, v) ∈ m) : get? m k = some v := by
  induction m with
  | nil => exact absurd h List.not_mem_nil
  | cons p m ih =>
    obtain ⟨j, w⟩ := p
    rw [keys_cons, List.nodup_cons] at hm
    rcases List.mem_cons.1 h with heq | h
    · cases heq
      rw [get?, if_pos rfl]
    · have hj : j ≠ k := by
        rintro rfl
        exact hm.1 (List.mem_map.2 ⟨(j, v), h, rfl⟩)
      rw [get?, if_neg hj, ih hm.2 h]

theorem get?_append_of_notMem (h : k ∉ keys m) : get? (m ++ n) k = get? n k := by
  induction m with
  | nil => rfl
  | cons p m ih =>
    obtain ⟨j, w⟩ := p
    rw [keys_cons, List.mem_cons, not_or] at h
    rw [List.cons_append, get?, if_neg (Ne.symm h.1), ih h.2]

theorem get?_append_of_mem (h : k ∈ keys m) : get? (m ++ n) k = get? m k := by
  induction m with
  | nil => exact absurd h List.not_mem_nil
  | cons p m ih =>
    obtain ⟨j, w⟩ := p
    by_cases hj : j = k
    · rw [List.cons_append, get?, get?, if_pos hj, if_pos hj]
    · rw [keys_cons, List.mem_cons] at h
      rw [List.cons_append, get?, get?, if_neg hj, if_neg hj,
        ih (h.resolve_left (Ne.symm hj))]

/-- The first sequence is asked first. -/
theorem get?_append : get? (m ++ n) k = (get? m k).or (get? n k) := by
  by_cases h : k ∈ keys m
  · obtain ⟨v, hv⟩ := Option.ne_none_iff_exists'.1 (mt get?_eq_none_iff.1 (not_not.2 h))
    rw [get?_append_of_mem h, hv, Option.some_or]
  · rw [get?_append_of_notMem h, get?_of_notMem h, Option.none_or]

/-- A pair is there after a key has been set if it was there before or is the new one. -/
theorem mem_put {p : String × α} (h : p ∈ put m k v) : p ∈ m ∨ p = (k, v) := by
  induction m with
  | nil => exact Or.inr (List.mem_singleton.1 h)
  | cons q m ih =>
    obtain ⟨j, w⟩ := q
    rw [put] at h
    split at h
    · rcases List.mem_cons.1 h with h | h
      · exact Or.inr h
      · exact Or.inl (List.mem_cons_of_mem _ h)
    · rcases List.mem_cons.1 h with rfl | h
      · exact Or.inl List.mem_cons_self
      · exact (ih h).imp_left (List.mem_cons_of_mem _)

theorem put_of_notMem (h : k ∉ keys m) (v : α) : put m k v = m ++ [(k, v)] := by
  induction m with
  | nil => rfl
  | cons p m ih =>
    obtain ⟨j, w⟩ := p
    rw [keys_cons, List.mem_cons, not_or] at h
    rw [put, if_neg (Ne.symm h.1), ih h.2, List.cons_append]

theorem putNew_of_notMem (h : k ∉ keys m) (v : α) : putNew m k v = m ++ [(k, v)] := by
  rw [putNew, contains, get?_of_notMem h]
  rfl

/-- Entering new keys that differ, in a way that adds a new key at the end. -/
theorem foldl_of_nodup {add : Keyed α → String → α → Keyed α}
    (hadd : ∀ m k v, k ∉ keys m → add m k v = m ++ [(k, v)]) (hn : (keys n).Nodup)
    (hd : ∀ k ∈ keys n, k ∉ keys m) : n.foldl (fun m p => add m p.1 p.2) m = m ++ n := by
  induction n generalizing m with
  | nil => simp
  | cons p n ih =>
    rw [keys_cons, List.nodup_cons] at hn
    have hp : p.1 ∉ keys m := hd p.1 List.mem_cons_self
    have hrest : ∀ k ∈ keys n, k ∉ keys (m ++ [p]) := by
      intro k hk
      rw [keys_append, List.mem_append, not_or]
      refine ⟨hd k (List.mem_cons_of_mem _ hk), ?_⟩
      rw [keys_cons, keys_nil, List.mem_singleton]
      rintro rfl
      exact hn.1 hk
    rw [List.foldl_cons, hadd m _ _ hp, ih hn.2 hrest, List.append_assoc]
    rfl

/-- New keys that differ are set one behind the other. -/
theorem foldl_put_of_nodup (hn : (keys n).Nodup) (hd : ∀ k ∈ keys n, k ∉ keys m) :
    n.foldl (fun m p => put m p.1 p.2) m = m ++ n :=
  foldl_of_nodup (fun _ _ v h => put_of_notMem h v) hn hd

/-- Pairs whose keys differ are entered as they are. -/
theorem ofPairsFirst_of_nodup (h : (keys m).Nodup) : ofPairsFirst m = m := by
  rw [ofPairsFirst, foldl_of_nodup (fun _ _ v h => putNew_of_notMem h v) h
    (fun _ _ => List.not_mem_nil), List.nil_append]

end DisplayLayout.Keyed
