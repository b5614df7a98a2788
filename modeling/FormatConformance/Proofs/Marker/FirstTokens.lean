import Mathlib.Data.List.Nodup
import FormatConformance.Proofs.Marker.Tokens

/-!
What reading a text takes out of it: the first token of each marker and nothing else. An offset
counts the characters in front of the token that belong to no token taken out.
-/

namespace FormatConformance

open Text (FirstAt)

namespace Text

variable {dropped dropped' : Nat → Prop} [DecidablePred dropped] [DecidablePred dropped']
  {front rest : Text} {c : Char} {n : Nat}

def without (dropped : Nat → Prop) [DecidablePred dropped] (t : Text) : Text :=
  (t.zipIdx.filter fun x => ¬ dropped x.2).map Prod.fst

def countKept (dropped : Nat → Prop) [DecidablePred dropped] (n : Nat) : Nat :=
  (List.range n).countP fun j => ¬ dropped j

theorem without_append (front rest : Text) :
    without dropped (front ++ rest) =
      without dropped front ++ without (fun j => dropped (front.length + j)) rest := by
  have hmoved : rest.zipIdx front.length =
      rest.zipIdx.map fun x => (x.1, front.length + x.2) := List.zipIdx_eq_map_add
  rw [without, List.zipIdx_append, Nat.zero_add, hmoved, List.filter_append, List.map_append,
    List.filter_map, List.map_map]
  rfl

theorem without_of_all {t : Text} (h : ∀ j < t.length, dropped j) : without dropped t = [] := by
  rw [without, List.map_eq_nil_iff, List.filter_eq_nil_iff]
  rintro ⟨c, j⟩ hmem
  have hlt := (List.mem_zipIdx hmem).2.1
  have hdropped := h j (by omega)
  simpa using hdropped

theorem without_of_none {t : Text} (h : ∀ j < t.length, ¬ dropped j) : without dropped t = t := by
  have hall : t.zipIdx.filter (fun x => ¬ dropped x.2) = t.zipIdx := by
    refine List.filter_eq_self.2 ?_
    rintro ⟨c, j⟩ hmem
    have hlt := (List.mem_zipIdx hmem).2.1
    exact decide_eq_true (h j (by omega))
  rw [without, hall, List.zipIdx_map_fst]

theorem without_congr {t : Text} (h : ∀ j < t.length, (dropped j ↔ dropped' j)) :
    without dropped t = without dropped' t := by
  refine congrArg (List.map Prod.fst) (List.filter_congr ?_)
  rintro ⟨c, j⟩ hmem
  have hlt := (List.mem_zipIdx hmem).2.1
  exact decide_eq_decide.2 (not_congr (h j (by omega)))

theorem without_append_of_all (h : ∀ j < front.length, dropped j)
    (hrest : ∀ j, dropped (front.length + j) ↔ dropped' j) :
    without dropped (front ++ rest) = without dropped' rest := by
  rw [without_append, without_of_all h, List.nil_append]
  simp only [without, hrest]

theorem without_cons_of_not (h : ¬ dropped 0) (hrest : ∀ j, dropped (1 + j) ↔ dropped' j) :
    without dropped (c :: rest) = c :: without dropped' rest := by
  change without dropped ([c] ++ rest) = _
  rw [without_append]
  simp [without, h, hrest]

theorem length_without (dropped : Nat → Prop) [DecidablePred dropped] (t : Text) :
    (without dropped t).length = countKept dropped t.length := by
  rw [without, List.length_map, ← List.countP_eq_length_filter, countKept, List.range_eq_range',
    ← List.zipIdx_map_snd 0 t, List.countP_map]
  rfl

theorem countKept_add (n l : Nat) :
    countKept dropped (n + l) = countKept dropped n + countKept (fun j => dropped (n + j)) l := by
  rw [countKept, List.range_add, List.countP_append, List.countP_map]
  rfl

theorem countKept_eq_zero_iff : countKept dropped n = 0 ↔ ∀ j < n, dropped j := by
  simp [countKept, List.countP_eq_zero]

theorem countKept_add_of_all (h : ∀ j < n, dropped j)
    (hrest : ∀ j, dropped (n + j) ↔ dropped' j) (l : Nat) :
    countKept dropped (n + l) = countKept dropped' l := by
  rw [countKept_add, countKept_eq_zero_iff.2 h, Nat.zero_add]
  simp only [countKept, hrest]

theorem countKept_one_add_of_not (h : ¬ dropped 0) (hrest : ∀ j, dropped (1 + j) ↔ dropped' j)
    (l : Nat) : countKept dropped (1 + l) = 1 + countKept dropped' l := by
  have hone : countKept dropped 1 = 1 := by simp [countKept, h]
  rw [countKept_add, hone]
  simp only [countKept, hrest]

end Text

namespace Offsets

variable {markers pending : List Marker} {m k : Marker} {c : Char} {front rest : Text} {j : Nat}

/-- The character at the offset belongs to the first token of one of the markers. -/
def Taken (markers : List Marker) (t : Text) (j : Nat) : Prop :=
  ∃ m ∈ markers, ∃ i ≤ j, FirstAt m.token t i ∧ j < i + m.token.length

instance (markers : List Marker) (t : Text) : DecidablePred (Taken markers t) := fun j =>
  inferInstanceAs (Decidable (∃ m ∈ markers, ∃ i ≤ j, _))

theorem firstAt_token (m : Marker) (rest : Text) : FirstAt m.token (m.token ++ rest) 0 :=
  Text.firstAt_zero_iff.2 (List.prefix_append ..)

section

variable (h : ∀ m ∈ markers, ∀ i < front.length, ¬ m.token <+: (front ++ rest).drop i)

include h

theorem taken_append_iff :
    Taken markers (front ++ rest) j ↔ ∃ l, j = front.length + l ∧ Taken markers rest l := by
  constructor
  · rintro ⟨m, hm, i, hij, hfirst, hlt⟩
    obtain ⟨i, rfl, hrest⟩ := (Text.firstAt_append_iff (h m hm)).1 hfirst
    exact ⟨j - front.length, by omega, m, hm, i, by omega, hrest, by omega⟩
  · rintro ⟨l, rfl, m, hm, i, hil, hrest, hlt⟩
    have hfirst := (Text.firstAt_append_iff (h m hm)).2 ⟨i, rfl, hrest⟩
    exact ⟨m, hm, front.length + i, by omega, hfirst, by omega⟩

theorem not_taken_of_lt (hj : j < front.length) : ¬ Taken markers (front ++ rest) j := by
  intro htaken
  obtain ⟨l, rfl, -⟩ := (taken_append_iff h).1 htaken
  omega

theorem taken_add_iff :
    Taken markers (front ++ rest) (front.length + j) ↔ Taken markers rest j := by
  rw [taken_append_iff h]
  constructor
  · rintro ⟨l, hl, htaken⟩
    obtain rfl := Nat.add_left_cancel hl
    exact htaken
  · exact fun htaken => ⟨j, rfl, htaken⟩

end

theorem not_taken_cons_zero (hnext : next? pending (c :: rest) = none) :
    ¬ Taken pending (c :: rest) 0 :=
  not_taken_of_lt (fun _ hm => not_prefix_of_next? hnext hm) Nat.one_pos

theorem taken_cons_one_add_iff (hnext : next? pending (c :: rest) = none) (j : Nat) :
    Taken pending (c :: rest) (1 + j) ↔ Taken pending rest j :=
  taken_add_iff fun _ hm => not_prefix_of_next? hnext hm

theorem taken_token_of_lt (hm : m ∈ pending) (rest : Text) :
    ∀ j < m.token.length, Taken pending (m.token ++ rest) j := fun j hj =>
  ⟨m, hm, 0, Nat.zero_le j, firstAt_token m rest, by omega⟩

theorem taken_token_add_iff (hnodup : pending.Nodup) (rest : Text) (j : Nat) :
    Taken pending (m.token ++ rest) (m.token.length + j) ↔ Taken (pending.erase m) rest j := by
  have hothers : ∀ k ∈ pending.erase m, ∀ i < m.token.length,
      ¬ k.token <+: (m.token ++ rest).drop i := fun k hk =>
    Marker.not_prefix_in_token (hnodup.mem_erase_iff.1 hk).1 rest
  rw [← taken_add_iff hothers]
  constructor
  · rintro ⟨k, hk, i, hij, hfirst, hlt⟩
    have hkm : k ≠ m := by
      rintro rfl
      obtain rfl := hfirst.unique (firstAt_token k rest)
      omega
    exact ⟨k, hnodup.mem_erase_iff.2 ⟨hkm, hk⟩, i, hij, hfirst, hlt⟩
  · rintro ⟨k, hk, hrest⟩
    exact ⟨k, List.mem_of_mem_erase hk, hrest⟩

theorem stripFrom_text (hnodup : pending.Nodup) (kept : Nat) (t : Text) :
    (stripFrom pending kept 0 t).1 = Text.without (Taken pending t) t := by
  induction pending, t using strip_induction generalizing kept with
  | nil pending => simp [Text.without]
  | token pending m rest hnext ih =>
    have htoken := taken_token_of_lt (mem_of_next? hnext) rest
    rw [stripFrom_token kept hnext, ih (hnodup.erase m),
      Text.without_append_of_all htoken (taken_token_add_iff hnodup rest)]
  | keep pending c rest hnext ih =>
    rw [stripFrom_keep kept hnext, ih hnodup,
      Text.without_cons_of_not (not_taken_cons_zero hnext) (taken_cons_one_add_iff hnext)]

theorem get_stripFrom_iff (hnodup : pending.Nodup) (kept n : Nat) (t : Text) :
    (stripFrom pending kept 0 t).2.get k = some n ↔ k ∈ pending ∧
      ∃ i, FirstAt k.token t i ∧ n = kept + Text.countKept (Taken pending t) i := by
  induction pending, t using strip_induction generalizing kept n with
  | nil pending =>
    have hnone : ∀ i, ¬ FirstAt k.token [] i := fun i hfirst =>
      k.token_ne_nil (List.prefix_nil.1 (List.drop_nil ▸ hfirst.1))
    cases k <;> simp [get, hnone]
  | token pending m rest hnext ih =>
    have hm := mem_of_next? hnext
    rw [stripFrom_token kept hnext]
    by_cases hkm : k = m
    · subst hkm
      rw [get_set_self]
      constructor
      · intro heq
        exact ⟨hm, 0, firstAt_token k rest, (Option.some.inj heq).symm⟩
      · rintro ⟨-, i, hfirst, rfl⟩
        rw [hfirst.unique (firstAt_token k rest)]
        rfl
    · have hcount := Text.countKept_add_of_all (taken_token_of_lt hm rest)
        (taken_token_add_iff hnodup rest)
      have hstart := fun i => Text.firstAt_append_iff (i := i) (Marker.not_prefix_in_token hkm rest)
      rw [get_set_of_ne _ _ hkm, ih (hnodup.erase m), hnodup.mem_erase_iff]
      constructor
      · rintro ⟨⟨-, hk⟩, i, hfirst, rfl⟩
        exact ⟨hk, m.token.length + i, (hstart _).2 ⟨i, rfl, hfirst⟩, by rw [hcount]⟩
      · rintro ⟨hk, i, hfirst, rfl⟩
        obtain ⟨i, rfl, hrest⟩ := (hstart i).1 hfirst
        exact ⟨⟨hkm, hk⟩, i, hrest, by rw [hcount]⟩
  | keep pending c rest hnext ih =>
    have hcount := Text.countKept_one_add_of_not (not_taken_cons_zero hnext)
      (taken_cons_one_add_iff hnext)
    rw [stripFrom_keep kept hnext, ih hnodup]
    refine and_congr_right fun hk => ?_
    have hstart := fun i => Text.firstAt_append_iff (i := i) (not_prefix_of_next? hnext hk)
    constructor
    · rintro ⟨i, hfirst, rfl⟩
      exact ⟨1 + i, (hstart _).2 ⟨i, rfl, hfirst⟩, by rw [hcount]; omega⟩
    · rintro ⟨i, hfirst, rfl⟩
      obtain ⟨i, rfl, hrest⟩ := (hstart i).1 hfirst
      refine ⟨i, hrest, ?_⟩
      rw [List.length_singleton, hcount]
      omega

theorem get_stripFrom_of_notMem (hnodup : pending.Nodup) (hk : k ∉ pending) (kept : Nat)
    (t : Text) : (stripFrom pending kept 0 t).2.get k = none := by
  refine Option.eq_none_iff_forall_ne_some.2 fun n hn => ?_
  exact hk ((get_stripFrom_iff hnodup kept n t).1 hn).1

section

variable {t : Text}

theorem isSome_get_strip_iff : ((strip t).2.get m).isSome = true ↔ m.token <:+: t := by
  rw [Option.isSome_iff_exists, ← Text.exists_firstAt_iff]
  constructor
  · rintro ⟨n, hn⟩
    obtain ⟨-, i, hfirst, -⟩ := (get_stripFrom_iff Marker.nodup_all 0 n t).1 hn
    exact ⟨i, hfirst⟩
  · rintro ⟨i, hfirst⟩
    have hnoted := (get_stripFrom_iff (k := m) Marker.nodup_all 0 _ t).2
      ⟨m.mem_all, i, hfirst, rfl⟩
    exact ⟨_, hnoted⟩

theorem strip_offsets_eq_empty_iff : (strip t).2 = {} ↔ ∀ m : Marker, ¬ m.token <:+: t := by
  have hnone : (strip t).2 = {} ↔ ∀ m, (strip t).2.get m = none :=
    ⟨fun h m => by rw [h, get_empty], fun h => ext_get fun m => (h m).trans (get_empty m).symm⟩
  simp only [hnone, ← isSome_get_strip_iff, Option.not_isSome_iff_eq_none]

theorem stripFrom_eq_self_iff (pending : List Marker) (kept : Nat) (t : Text) :
    (stripFrom pending kept 0 t).1 = t ↔ (stripFrom pending kept 0 t).2 = {} := by
  induction pending, t using strip_induction generalizing kept with
  | nil pending => simp
  | token pending m rest hnext ih =>
    rw [stripFrom_token kept hnext]
    refine iff_of_false (fun htext => ?_) (fun hnone => ?_)
    · have hle := (stripFrom_sublist (pending.erase m) kept rest).length_le
      have hpos := List.length_pos_iff.2 m.token_ne_nil
      have hlength : (stripFrom (pending.erase m) kept 0 rest).1.length =
          (m.token ++ rest).length := congrArg List.length htext
      rw [List.length_append] at hlength
      omega
    · have hget := congrArg (get · m) hnone
      simp at hget
  | keep pending c rest hnext ih =>
    rw [stripFrom_keep kept hnext, List.cons_inj_right]
    exact ih (kept + 1)

theorem strip_eq_self_iff : (strip t).1 = t ↔ ∀ m : Marker, ¬ m.token <:+: t :=
  (stripFrom_eq_self_iff Marker.all 0 t).trans strip_offsets_eq_empty_iff

end

end Offsets

end FormatConformance
