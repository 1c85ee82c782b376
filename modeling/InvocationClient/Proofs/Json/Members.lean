import Mathlib.Data.List.Induction
import InvocationClient.Association

/-! # Names that are given more than once

Entries are put into an object one by one. What comes of them has each name once, in the place where
it first stands and with the value that it has last, and nothing else is like that.
-/

namespace InvocationClient.Association

variable {α β : Type} [DecidableEq α] {entries merged es fs : List (α × β)} {key : α}

/-- Each name of the entries once, in its first place and with its last value. -/
structure Merges (entries merged : List (α × β)) : Prop where
  names : merged.map Prod.fst = (entries.map Prod.fst).eraseDups
  values : ∀ key, get? key merged = get? key entries.reverse

theorem get?_cons (k key : α) (value : β) (es : List (α × β)) :
    get? k ((key, value) :: es) = if key = k then some value else get? k es := by
  by_cases h : key = k <;> simp [get?, h]

theorem map_fst_put (key : α) (value : β) (es : List (α × β)) :
    (put key value es).map Prod.fst =
      if key ∈ es.map Prod.fst then es.map Prod.fst else es.map Prod.fst ++ [key] := by
  induction es with
  | nil => rfl
  | cons e es ih =>
    rw [put]
    by_cases h : e.1 = key
    · subst h
      simp
    · rw [if_neg h, List.map_cons, ih]
      by_cases hm : key ∈ es.map Prod.fst
      · have hk : key ∈ (e :: es).map Prod.fst := List.mem_cons_of_mem _ hm
        rw [if_pos hm, if_pos hk, List.map_cons]
      · have hn : key ∉ (e :: es).map Prod.fst :=
          fun hk => (List.mem_cons.mp hk).elim (fun he => h he.symm) hm
        rw [if_neg hm, if_neg hn, List.map_cons, List.cons_append]

theorem nodup_put (h : (es.map Prod.fst).Nodup) (key : α) (value : β) :
    ((put key value es).map Prod.fst).Nodup := by
  rw [map_fst_put]
  split
  · exact h
  · next hn =>
    refine List.nodup_append.mpr ⟨h, by simp, fun a ha b hb => ?_⟩
    rintro rfl
    exact hn (List.mem_singleton.mp hb ▸ ha)

theorem mem_put {value : β} {e : α × β} (h : e ∈ put key value es) :
    e = (key, value) ∨ e ∈ es := by
  induction es with
  | nil => exact .inl (List.mem_singleton.mp h)
  | cons e' es ih =>
    rw [put] at h
    split at h
    · exact (List.mem_cons.mp h).imp id (List.mem_cons_of_mem _)
    · rcases List.mem_cons.mp h with rfl | h
      · exact .inr List.mem_cons_self
      · exact (ih h).imp id (List.mem_cons_of_mem _)

theorem eraseDups_concat (keys : List α) (key : α) :
    (keys ++ [key]).eraseDups = if key ∈ keys then keys.eraseDups else keys.eraseDups ++ [key] := by
  rw [List.eraseDups_append]
  by_cases h : key ∈ keys <;> simp [List.removeAll, h, List.eraseDups_cons]

theorem ofPairs_concat (entries : List (α × β)) (e : α × β) :
    ofPairs (entries ++ [e]) = put e.1 e.2 (ofPairs entries) := by
  rw [ofPairs, List.foldl_append]
  rfl

theorem merges_ofPairs (entries : List (α × β)) : Merges entries (ofPairs entries) := by
  induction entries using List.reverseRecOn with
  | nil => exact ⟨rfl, fun _ => rfl⟩
  | append_singleton entries e ih =>
    rw [ofPairs_concat]
    constructor
    · rw [map_fst_put, List.map_append, List.map_singleton, eraseDups_concat, ih.names]
      simp only [List.mem_eraseDups]
    · intro key
      rw [get?_put, ih.values, List.reverse_append, List.reverse_singleton, List.singleton_append,
        get?_cons]

theorem nodup_ofPairs (entries : List (α × β)) : ((ofPairs entries).map Prod.fst).Nodup := by
  induction entries using List.reverseRecOn with
  | nil => exact List.nodup_nil
  | append_singleton entries e ih =>
    rw [ofPairs_concat]
    exact nodup_put ih e.1 e.2

theorem get?_of_mem {e : α × β} (hd : (es.map Prod.fst).Nodup) (h : e ∈ es) :
    get? e.1 es = some e.2 := by
  induction es with
  | nil => cases h
  | cons e' es ih =>
    obtain ⟨hn, hd⟩ := List.nodup_cons.mp hd
    rw [get?_cons]
    rcases List.mem_cons.mp h with rfl | h
    · rw [if_pos rfl]
    · have hne : e'.1 ≠ e.1 := fun he => hn (he ▸ List.mem_map_of_mem h)
      rw [if_neg hne, ih hd h]

theorem map_eq_of_nodup (hd : (es.map Prod.fst).Nodup) :
    es.map (fun e => (e.1, some e.2)) = (es.map Prod.fst).map fun key => (key, get? key es) := by
  rw [List.map_map]
  refine List.map_congr_left fun e he => ?_
  rw [Function.comp_apply, get?_of_mem hd he]

/-- The names, if they differ, and what each has for its value make up the entries. -/
theorem eq_of_names_of_values (hd : (es.map Prod.fst).Nodup)
    (hn : es.map Prod.fst = fs.map Prod.fst) (hv : ∀ key, get? key es = get? key fs) : es = fs := by
  have hm : es.map (fun e => (e.1, some e.2)) = fs.map fun e => (e.1, some e.2) := by
    rw [map_eq_of_nodup hd, map_eq_of_nodup (hn ▸ hd), hn]
    exact List.map_congr_left fun key _ => by rw [hv]
  refine (List.map_inj_right fun e f he => ?_).mp hm
  obtain ⟨hk, hx⟩ := Prod.mk.inj he
  exact Prod.ext hk (Option.some.inj hx)

theorem merges_iff : Merges entries merged ↔ merged = ofPairs entries := by
  have ho := merges_ofPairs entries
  constructor
  · intro h
    refine (eq_of_names_of_values (nodup_ofPairs entries) ?_ fun key => ?_).symm
    · rw [ho.names, h.names]
    · rw [ho.values, h.values]
  · rintro rfl
    exact ho

theorem mem_of_mem_ofPairs {e : α × β} (h : e ∈ ofPairs entries) : e ∈ entries := by
  induction entries using List.reverseRecOn with
  | nil => cases h
  | append_singleton entries e' ih =>
    rw [ofPairs_concat] at h
    rcases mem_put h with rfl | h
    · exact List.mem_append_right _ List.mem_cons_self
    · exact List.mem_append_left _ (ih h)

theorem Merges.mem {e : α × β} (h : Merges entries merged) (he : e ∈ merged) : e ∈ entries := by
  rw [merges_iff.mp h] at he
  exact mem_of_mem_ofPairs he

end InvocationClient.Association
