import FormatConformance.Marker.Removal
import FormatConformance.Proofs.Marker.FirstTokens

/-!
Taking tokens out by bytes. However many tokens a text has and in whatever order they stand, no step
is without a result, and what is left and noted in the end is what reading the text once gives.
-/

namespace FormatConformance

open Text (FirstAt byteLength byteIndex?)
open Marker (moved moved_cons moved_moved)

namespace Offsets

variable {o : Offsets} {m : Marker}

def besides (o noted : Offsets) : Offsets :=
  ⟨o.cursor.or noted.cursor, o.rangeStart.or noted.rangeStart, o.rangeEnd.or noted.rangeEnd⟩

@[simp] theorem get_besides (o noted : Offsets) (m : Marker) :
    (o.besides noted).get m = (o.get m).or (noted.get m) := by
  cases m <;> rfl

@[simp] theorem empty_besides (noted : Offsets) : ({} : Offsets).besides noted = noted :=
  ext_get fun m => by simp

@[simp] theorem besides_empty (o : Offsets) : o.besides {} = o :=
  ext_get fun m => by simp

theorem besides_set (h : o.get m = none) (noted : Offsets) (n : Nat) :
    o.besides (noted.set m n) = (o.set m n).besides noted := by
  apply ext_get
  intro k
  by_cases hk : k = m
  · subst hk
    simp [h]
  · simp [get_set_of_ne _ _ hk]

end Offsets

namespace Removal

variable {markers pending : List Marker} {m : Marker} {c : Char} {front rest t : Text}

theorem starts_append
    (h : ∀ m ∈ markers, ∀ i < front.length, ¬ m.token <+: (front ++ rest).drop i) :
    starts markers (front ++ rest) = moved (byteLength front) (starts markers rest) := by
  rw [starts, starts, moved, List.map_filterMap]
  refine List.filterMap_congr fun m hm => ?_
  rw [Text.byteIndex?_append (h m hm), Option.map_map, Option.map_map]
  rfl

theorem starts_token (hnodup : pending.Nodup) (hm : m ∈ pending) (rest : Text) :
    (starts pending (m.token ++ rest)).Perm
      ((0, m) :: moved (byteLength m.token) (starts (pending.erase m) rest)) := by
  have hothers : starts (pending.erase m) (m.token ++ rest) =
      moved (byteLength m.token) (starts (pending.erase m) rest) := starts_append fun k hk =>
    Marker.not_prefix_in_token (hnodup.mem_erase_iff.1 hk).1 rest
  have hfirst := Text.byteIndex?_of_prefix m.token_ne_nil rest
  rw [← hothers]
  have hperm := (List.perm_cons_erase hm).filterMap
    fun k => (byteIndex? k.token (m.token ++ rest)).map (·, k)
  rw [List.filterMap_cons, hfirst] at hperm
  exact hperm

theorem take?_token (front rest : Text) (removed : Nat) (offsets : Offsets) (m : Marker) :
    take? ⟨front ++ (m.token ++ rest), removed, offsets⟩ (removed + byteLength front, m) =
      some ⟨front ++ rest, removed + byteLength m.token, offsets.set m front.length⟩ := by
  have hlate : ¬ removed + byteLength front < removed := by omega
  rw [take?, if_neg hlate]
  simp only [Nat.add_sub_cancel_left, Text.cutBytes?_append, Option.map_some,
    Text.charOffset_append]

/-- An order in which the tokens of a text can be taken out, behind any front that is kept. -/
structure IsCourse (pending : List Marker) (t : Text) (course : List (Nat × Marker)) : Prop where
  perm : course.Perm (starts pending t)
  ascending : course.Pairwise fun first second => first.1 < second.1
  runs : ∀ (front : Text) (removed : Nat) (noted : Offsets), ∃ removed',
    (moved (removed + byteLength front) course).foldlM take? ⟨front ++ t, removed, noted⟩ =
      some ⟨front ++ (Offsets.stripFrom pending front.length 0 t).1, removed',
        (Offsets.stripFrom pending front.length 0 t).2.besides noted⟩

theorem IsCourse.nil (pending : List Marker) : IsCourse pending [] [] where
  perm := by
    have hnone : ∀ m : Marker, byteIndex? m.token [] = none := by
      intro m
      cases m <;> rfl
    simp [starts, hnone]
  ascending := .nil
  runs front removed noted := ⟨removed, by simp [moved]⟩

theorem IsCourse.keep {course : List (Nat × Marker)} (h : IsCourse pending rest course)
    (hnext : Offsets.next? pending (c :: rest) = none) :
    IsCourse pending (c :: rest) (moved (byteLength [c]) course) where
  perm := by
    have hmoved : starts pending ([c] ++ rest) = moved (byteLength [c]) (starts pending rest) :=
      starts_append fun m hm => Offsets.not_prefix_of_next? hnext hm
    rw [List.singleton_append] at hmoved
    exact hmoved ▸ h.perm.map _
  ascending := List.pairwise_map.2 (h.ascending.imp fun hlt => Nat.add_lt_add_left hlt _)
  runs front removed noted := by
    obtain ⟨removed', hruns⟩ := h.runs (front ++ [c]) removed noted
    rw [Text.byteLength_append, ← Nat.add_assoc, ← moved_moved, List.append_assoc,
      List.append_assoc, List.length_append] at hruns
    refine ⟨removed', ?_⟩
    rw [Offsets.stripFrom_keep front.length hnext]
    exact hruns

theorem IsCourse.token {course : List (Nat × Marker)} (hnodup : pending.Nodup) (hm : m ∈ pending)
    (h : IsCourse (pending.erase m) rest course) :
    IsCourse pending (m.token ++ rest) ((0, m) :: moved (byteLength m.token) course) where
  perm := ((h.perm.map _).cons (0, m)).trans (starts_token hnodup hm rest).symm
  ascending := by
    refine List.pairwise_cons.2 ⟨fun start hstart => ?_, ?_⟩
    · obtain ⟨start, -, rfl⟩ := List.mem_map.1 hstart
      have hpos : 0 < byteLength m.token := by cases m <;> decide
      exact Nat.add_pos_left hpos _
    · exact List.pairwise_map.2 (h.ascending.imp fun hlt => Nat.add_lt_add_left hlt _)
  runs front removed noted := by
    obtain ⟨removed', hruns⟩ :=
      h.runs front (removed + byteLength m.token) (noted.set m front.length)
    have hgone := Offsets.get_stripFrom_of_notMem (hnodup.erase m) hnodup.not_mem_erase
      front.length rest
    have hsum : removed + byteLength front + byteLength m.token =
        removed + byteLength m.token + byteLength front := by omega
    rw [Offsets.besides_set hgone] at hruns
    refine ⟨removed', ?_⟩
    rw [Offsets.stripFrom_token front.length (Offsets.next?_token hm rest), moved_cons,
      moved_moved, hsum, List.foldlM_cons, Nat.add_zero, take?_token]
    exact hruns

theorem exists_isCourse (hnodup : pending.Nodup) (t : Text) :
    ∃ course, IsCourse pending t course := by
  induction pending, t using Offsets.strip_induction with
  | nil pending => exact ⟨[], .nil pending⟩
  | token pending m rest hnext ih =>
    obtain ⟨course, hcourse⟩ := ih (hnodup.erase m)
    exact ⟨_, hcourse.token hnodup (Offsets.mem_of_next? hnext)⟩
  | keep pending c rest hnext ih =>
    obtain ⟨course, hcourse⟩ := ih hnodup
    exact ⟨_, hcourse.keep hnext⟩

theorem IsCourse.found_eq {course : List (Nat × Marker)} (h : IsCourse Marker.all t course) :
    found t = course := by
  have hfound : (found t).Perm course := (List.mergeSort_perm _ _).trans h.perm.symm
  have hdistinct : (course.map Prod.fst).Nodup :=
    List.pairwise_map.2 (h.ascending.imp Nat.ne_of_lt)
  refine hfound.eq_of_pairwise (fun first second hfirst hsecond hle hge => ?_)
    (Marker.pairwise_sorted _) (h.ascending.imp Nat.le_of_lt)
  exact List.inj_on_of_nodup_map hdistinct (hfound.mem_iff.1 hfirst) hsecond
    (Nat.le_antisymm hle hge)

theorem run?_eq (t : Text) :
    ∃ removed, run? t = some ⟨(Offsets.strip t).1, removed, (Offsets.strip t).2⟩ := by
  obtain ⟨course, hcourse⟩ := exists_isCourse Marker.nodup_all t
  obtain ⟨removed, hruns⟩ := hcourse.runs [] 0 {}
  have hsame : moved (0 + byteLength []) course = course := by simp [moved]
  rw [hsame, Offsets.besides_empty] at hruns
  rw [run?, hcourse.found_eq]
  exact ⟨removed, hruns⟩

end Removal

namespace Offsets

/-- The first token of each marker is taken out of a text, and no step of it is without a result.
Nothing else is taken out. A marker has an offset exactly if the text has a token of it, namely the
number of characters in front of the first one that belong to no token taken out. -/
theorem strip_takes_first_tokens (t : Text) :
    (Removal.run? t).map (fun r => (r.text, r.offsets)) = some (strip t) ∧
    (strip t).1 = Text.without (Taken Marker.all t) t ∧
    (∀ m, (strip t).2.get m = none ↔ ¬ m.token <:+: t) ∧
    ∀ m n, (strip t).2.get m = some n ↔
      ∃ i, FirstAt m.token t i ∧ n = Text.countKept (Taken Marker.all t) i := by
  have hnodup := Marker.nodup_all
  have hget : ∀ m n, (strip t).2.get m = some n ↔
      ∃ i, FirstAt m.token t i ∧ n = Text.countKept (Taken Marker.all t) i := by
    intro m n
    have hiff := get_stripFrom_iff (k := m) hnodup 0 n t
    simpa only [strip, Marker.mem_all, true_and, Nat.zero_add] using hiff
  refine ⟨?_, stripFrom_text hnodup 0 t, fun m => ?_, hget⟩
  · obtain ⟨removed, hrun⟩ := Removal.run?_eq t
    rw [hrun]
    rfl
  · rw [← Text.exists_firstAt_iff, Option.eq_none_iff_forall_ne_some]
    constructor
    · rintro hnone ⟨i, hfirst⟩
      exact hnone _ ((hget m _).2 ⟨i, hfirst, rfl⟩)
    · rintro habsent n hn
      obtain ⟨i, hfirst, -⟩ := (hget m n).1 hn
      exact habsent ⟨i, hfirst⟩

end Offsets

end FormatConformance
