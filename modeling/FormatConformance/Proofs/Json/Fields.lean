import Mathlib.Data.List.Induction
import Mathlib.Data.List.Sort
import FormatConformance.Json.Basic

/-!
What fields hold. Fields in the order of their keys are known by what they hold under each key, so
two ways of putting them together are compared key by key.
-/

namespace FormatConformance

theorem eq_of_increasing {α : Type} {xs ys : List α} (text : α → String)
    (hxs : xs.Pairwise fun a b => text a < text b) (hys : ys.Pairwise fun a b => text a < text b)
    (hmem : ∀ a, a ∈ xs ↔ a ∈ ys) : xs = ys := by
  have hirrefl : Std.Irrefl fun a b : α => text a < text b := ⟨fun a => String.lt_irrefl (text a)⟩
  have hantisymm : Std.Antisymm fun a b : α => text a < text b :=
    ⟨fun _ _ hlt hgt => absurd hgt (String.lt_asymm hlt)⟩
  exact hxs.eq_of_mem_iff hys hmem

namespace Fields

variable {α : Type} {key : String} {value : α} {fields other : Fields α}

theorem lookup_eq_none_iff : fields.lookup key = none ↔ key ∉ keys fields := by
  simp only [List.lookup_eq_none_iff, bne_iff_ne, ne_eq, keys, List.mem_map, not_exists, not_and,
    eq_comm (a := key)]

theorem lookup_insert (key other : String) (value : α) (fields : Fields α) :
    (insert key value fields).lookup other =
      if other = key then some value else fields.lookup other := by
  by_cases h : other = key
  · rw [if_pos h, h, lookup_insert_self]
  · rw [if_neg h, lookup_insert_of_ne value fields h]

theorem ofPairs_concat (pairs : List (String × α)) (pair : String × α) :
    ofPairs (pairs ++ [pair]) = insert pair.1 pair.2 (ofPairs pairs) := by
  rw [ofPairs, List.foldl_append]
  rfl

theorem lookup_ofPairs (key : String) (pairs : List (String × α)) :
    (ofPairs pairs).lookup key = pairs.reverse.lookup key := by
  induction pairs using List.reverseRecOn with
  | nil => rfl
  | append_singleton rest pair ih =>
    rw [ofPairs_concat, lookup_insert, ih, List.reverse_append, List.reverse_singleton,
      List.singleton_append, List.lookup_cons]
    by_cases h : key = pair.1
    · simp [h]
    · simp [h, beq_false_of_ne h]

theorem lookup_eq_some_iff (h : (keys fields).Nodup) :
    fields.lookup key = some value ↔ (key, value) ∈ fields := by
  induction fields with
  | nil => simp
  | cons field rest ih =>
    obtain ⟨hhead, htail⟩ := List.nodup_cons.1 h
    rw [List.lookup_cons, List.mem_cons]
    by_cases hkey : key = field.1
    · subst hkey
      have hrest : (field.1, value) ∉ rest := fun hmem => hhead (List.mem_map.2 ⟨_, hmem, rfl⟩)
      simp [hrest, Prod.ext_iff, eq_comm]
    · have hne : (key, value) ≠ field := fun heq => hkey (congrArg Prod.fst heq)
      simp [beq_false_of_ne hkey, hne, ih htail]

theorem lookup_toList {β : Type} (x : Option β) (name : String) (write : β → α) (key : String) :
    (x.map fun b => (name, write b)).toList.lookup key =
      if key = name then x.map write else none := by
  cases x with
  | none => simp
  | some b =>
    by_cases h : key = name
    · simp [h]
    · simp [List.lookup_cons, beq_false_of_ne h, h]

theorem lookup_filter (h : (keys fields).Nodup) (key : String) (keep : String × α → Bool) :
    (fields.filter keep).lookup key =
      (fields.lookup key).filter fun value => keep (key, value) := by
  have hfilter : (keys (fields.filter keep)).Nodup := h.sublist (List.filter_sublist.map Prod.fst)
  ext value
  rw [lookup_eq_some_iff hfilter, List.mem_filter, Option.filter_eq_some_iff, lookup_eq_some_iff h]

theorem lookup_ofPairs_of_nodup {pairs : List (String × α)} (h : (keys pairs).Nodup)
    (key : String) : (ofPairs pairs).lookup key = pairs.lookup key := by
  have hreverse : (keys pairs.reverse).Nodup := by
    rwa [keys, List.map_reverse, List.nodup_reverse]
  rw [lookup_ofPairs]
  ext value
  rw [lookup_eq_some_iff hreverse, lookup_eq_some_iff h, List.mem_reverse]

theorem Sorted.nodup (h : Sorted fields) : (keys fields).Nodup := by
  refine List.Pairwise.imp (fun hlt => ?_) h
  rintro rfl
  exact String.lt_irrefl _ hlt

theorem Sorted.filter (h : Sorted fields) (keep : String × α → Bool) :
    Sorted (fields.filter keep) :=
  h.sublist (List.filter_sublist.map Prod.fst)

theorem ofPairs_perm {pairs : List (String × α)} (h : (keys pairs).Nodup) :
    (ofPairs pairs).Perm pairs := by
  have hsorted := (sorted_ofPairs pairs).nodup
  rw [List.perm_ext_iff_of_nodup hsorted.of_map h.of_map]
  intro field
  rw [← lookup_eq_some_iff hsorted, lookup_ofPairs_of_nodup h, lookup_eq_some_iff h]

theorem Sorted.ext (h : Sorted fields) (hother : Sorted other)
    (hlookup : ∀ key, fields.lookup key = other.lookup key) : fields = other := by
  refine eq_of_increasing Prod.fst (List.pairwise_map.1 h) (List.pairwise_map.1 hother) ?_
  intro field
  rw [← lookup_eq_some_iff h.nodup, ← lookup_eq_some_iff hother.nodup, hlookup]

theorem Sorted.ofPairs_eq (h : Sorted fields) : ofPairs fields = fields :=
  (sorted_ofPairs fields).ext h (lookup_ofPairs_of_nodup h.nodup)

end Fields

end FormatConformance
