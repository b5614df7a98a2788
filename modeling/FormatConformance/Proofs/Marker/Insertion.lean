import FormatConformance.Marker.Insertion
import FormatConformance.Proofs.Marker.Restoring

/-!
Writing tokens by bytes. The tokens are written at characters of the text and from left to right, so
no step is without a result, and the whole is what writing them character by character gives.
-/

namespace FormatConformance

open Text (byteLength byteOffset)
open Marker (moved moved_append moved_map_zero moved_moved Before)

namespace Insertion

variable {o : Offsets} {m : Marker} {n place : Nat} {front rest made t : Text}

def Precedes (first second : Nat × Marker) : Prop :=
  first.1 < second.1 ∨ first.1 = second.1 ∧ Before first.2 second.2

theorem Precedes.asymm {first second : Nat × Marker} (h : Precedes first second) :
    ¬ Precedes second first := by
  rintro (hlt | ⟨heq, hbefore⟩)
  · rcases h with hgt | ⟨heq, -⟩ <;> omega
  · rcases h with hlt | ⟨-, hbefore'⟩
    · omega
    · exact hbefore.asymm hbefore'

theorem Precedes.ne {first second : Nat × Marker} (h : Precedes first second) : first ≠ second := by
  rintro rfl
  exact h.asymm h

/-- What is to be written into a text whose first character has the offset `n`, in the order in
which the text is read. -/
def course (o : Offsets) (n : Nat) : Text → List (Nat × Marker)
  | [] => (o.due (n ≤ ·)).map (0, ·)
  | c :: rest => (o.due (· == n)).map (0, ·) ++ moved c.utf8Size (course o (n + 1) rest)

theorem pairwise_due (o : Offsets) (here : Nat → Bool) :
    ((o.due here).map (0, ·)).Pairwise Precedes := by
  have hall : Marker.all.Pairwise Before := by decide
  refine List.pairwise_map.2 ?_
  exact (hall.sublist List.filter_sublist).imp fun hbefore => .inr ⟨rfl, hbefore⟩

theorem pairwise_course (o : Offsets) (n : Nat) (t : Text) : (course o n t).Pairwise Precedes := by
  induction t generalizing n with
  | nil => exact pairwise_due o _
  | cons c rest ih =>
    have hlater : (moved c.utf8Size (course o (n + 1) rest)).Pairwise Precedes := by
      refine List.pairwise_map.2 ((ih (n + 1)).imp ?_)
      rintro ⟨first, m⟩ ⟨second, k⟩ (hlt | ⟨heq, hbefore⟩)
      · exact .inl (Nat.add_lt_add_left hlt _)
      · exact .inr ⟨congrArg (c.utf8Size + ·) heq, hbefore⟩
    refine List.pairwise_append.2 ⟨pairwise_due o _, hlater, ?_⟩
    intro first hfirst second hsecond
    obtain ⟨m, -, rfl⟩ := List.mem_map.1 hfirst
    obtain ⟨next, -, rfl⟩ := List.mem_map.1 hsecond
    exact .inl (Nat.add_pos_left c.utf8Size_pos _)

theorem mem_map_due_iff {here : Nat → Bool} :
    (place, m) ∈ (o.due here).map (0, ·) ↔
      ∃ a, o.get m = some a ∧ here a = true ∧ place = 0 := by
  rw [List.mem_map]
  constructor
  · rintro ⟨m, hm, heq⟩
    obtain ⟨rfl, rfl⟩ := Prod.mk.inj heq
    obtain ⟨a, ha, hhere⟩ := Offsets.mem_due_iff.1 hm
    exact ⟨a, ha, hhere, rfl⟩
  · rintro ⟨a, ha, hhere, rfl⟩
    exact ⟨m, Offsets.mem_due_iff.2 ⟨a, ha, hhere⟩, rfl⟩

theorem mem_moved_iff {l : Nat} {places : List (Nat × Marker)} :
    (place, m) ∈ moved l places ↔ ∃ place', (place', m) ∈ places ∧ place = l + place' := by
  rw [moved, List.mem_map]
  constructor
  · rintro ⟨⟨place', m⟩, hmem, heq⟩
    obtain ⟨rfl, rfl⟩ := Prod.mk.inj heq
    exact ⟨place', hmem, rfl⟩
  · rintro ⟨place', hmem, rfl⟩
    exact ⟨(place', m), hmem, rfl⟩

theorem mem_course_iff :
    (place, m) ∈ course o n t ↔
      ∃ a, o.get m = some a ∧ n ≤ a ∧ place = byteOffset t (a - n) := by
  induction t generalizing n place with
  | nil => simp only [course, mem_map_due_iff, decide_eq_true_iff, byteOffset]
  | cons c rest ih =>
    have hfirst : byteOffset (c :: rest) (n - n) = 0 := by
      rw [Nat.sub_self]
      rfl
    have hnext : ∀ a, n + 1 ≤ a →
        byteOffset (c :: rest) (a - n) = c.utf8Size + byteOffset rest (a - (n + 1)) := by
      intro a hle
      obtain ⟨l, rfl⟩ := Nat.exists_eq_add_of_le hle
      have hmore : n + 1 + l - n = l + 1 := by omega
      rw [hmore, Nat.add_sub_cancel_left]
      rfl
    rw [course, List.mem_append, mem_map_due_iff, mem_moved_iff]
    constructor
    · rintro (⟨a, ha, heq, rfl⟩ | ⟨place, hmem, rfl⟩)
      · obtain rfl := eq_of_beq heq
        exact ⟨a, ha, Nat.le_refl a, hfirst.symm⟩
      · obtain ⟨a, ha, hle, rfl⟩ := ih.1 hmem
        exact ⟨a, ha, Nat.le_of_succ_le hle, (hnext a hle).symm⟩
    · rintro ⟨a, ha, hle, rfl⟩
      rcases Nat.eq_or_lt_of_le hle with rfl | hlt
      · exact .inl ⟨n, ha, beq_self_eq_true n, hfirst⟩
      · exact .inr ⟨_, ih.2 ⟨a, ha, hlt, rfl⟩, hnext a hlt⟩

theorem mem_wanted_iff :
    (place, m) ∈ wanted o t ↔ ∃ a, o.get m = some a ∧ place = byteOffset t a := by
  rw [wanted, List.mem_filterMap]
  constructor
  · rintro ⟨m, -, heq⟩
    obtain ⟨a, ha, hplace⟩ := Option.map_eq_some_iff.1 heq
    obtain ⟨rfl, rfl⟩ := Prod.mk.inj hplace
    exact ⟨a, ha, rfl⟩
  · rintro ⟨a, ha, rfl⟩
    exact ⟨m, Marker.mem_all m, by rw [ha]; rfl⟩

theorem nodup_wanted (o : Offsets) (t : Text) : (wanted o t).Nodup := by
  refine Marker.nodup_all.filterMap fun m k place hm hk => ?_
  obtain ⟨a, -, rfl⟩ := Option.map_eq_some_iff.1 hm
  obtain ⟨b, -, heq⟩ := Option.map_eq_some_iff.1 hk
  exact (Prod.mk.inj heq).2.symm

theorem sublist_wanted {first second : Nat × Marker} (hfirst : first ∈ wanted o t)
    (hsecond : second ∈ wanted o t) (h : Before first.2 second.2) :
    [first, second].Sublist (wanted o t) := by
  obtain ⟨a, ha, hplace⟩ := mem_wanted_iff.1 hfirst
  obtain ⟨b, hb, hplace'⟩ := mem_wanted_iff.1 hsecond
  have hpair := h.filterMap fun m => (o.get m).map fun n => (byteOffset t n, m)
  simp only [List.filterMap_cons, List.filterMap_nil, ha, hb, Option.map_some, ← hplace,
    ← hplace'] at hpair
  exact hpair

theorem not_sublist_swap {l : List (Nat × Marker)} {first second : Nat × Marker} (hnodup : l.Nodup)
    (h : [first, second].Sublist l) : ¬ [second, first].Sublist l := by
  induction l with
  | nil => cases h
  | cons next l ih =>
    obtain ⟨hnext, hl⟩ := List.nodup_cons.1 hnodup
    intro h'
    rcases List.cons_sublist_cons'.1 h with hfirst | ⟨rfl, hsecond⟩
    · rcases List.cons_sublist_cons'.1 h' with hboth | ⟨rfl, -⟩
      · exact ih hl hfirst hboth
      · exact hnext (hfirst.subset (by simp))
    · rcases List.cons_sublist_cons'.1 h' with hboth | ⟨rfl, hfirst⟩
      · exact hnext (hboth.subset (by simp))
      · exact hnext (List.singleton_sublist.1 hfirst)

theorem pairwise_places (o : Offsets) (t : Text) : (places o t).Pairwise Precedes := by
  have hnodup : (places o t).Nodup := (List.mergeSort_perm _ _).nodup_iff.2 (nodup_wanted o t)
  refine List.pairwise_iff_forall_sublist.2 fun {first second} hpair => ?_
  have hle := List.pairwise_iff_forall_sublist.1 (Marker.pairwise_sorted (wanted o t)) hpair
  have hfirst : first ∈ wanted o t := List.mem_mergeSort.1 (hpair.subset (by simp))
  have hsecond : second ∈ wanted o t := List.mem_mergeSort.1 (hpair.subset (by simp))
  rcases Nat.lt_or_eq_of_le hle with hlt | heq
  · exact .inl hlt
  · have hne : first.2 ≠ second.2 := fun hsame =>
      List.pairwise_iff_forall_sublist.1 hnodup hpair (Prod.ext heq hsame)
    rcases Marker.before_total hne with hbefore | hafter
    · exact .inr ⟨heq, hbefore⟩
    · have hwanted := sublist_wanted hsecond hfirst hafter
      have hswap := Marker.sublist_sorted (Nat.le_of_eq heq.symm) hwanted
      exact absurd hswap (not_sublist_swap hnodup hpair)

theorem places_eq (o : Offsets) (t : Text) : places o t = course o 0 t := by
  have hnodup : (course o 0 t).Nodup := (pairwise_course o 0 t).imp Precedes.ne
  have hperm : (wanted o t).Perm (course o 0 t) := by
    refine (List.perm_ext_iff_of_nodup (nodup_wanted o t) hnodup).2 fun ⟨place, m⟩ => ?_
    rw [mem_wanted_iff, mem_course_iff]
    simp
  refine ((List.mergeSort_perm _ _).trans hperm).eq_of_pairwise ?_ (pairwise_places o t)
    (pairwise_course o 0 t)
  intro first second _ _ hfirst hsecond
  exact absurd hsecond hfirst.asymm

/-- With the insertion finished behind `front`, what has been made of `front` is `made`. -/
def Makes (i : Insertion) (front made : Text) : Prop :=
  ∃ done part, front = done ++ part ∧ i.reached = byteLength done ∧ made = i.written ++ part

variable {i : Insertion}

theorem Makes.append (h : Makes i front made) (rest : Text) :
    Makes i (front ++ rest) (made ++ rest) := by
  obtain ⟨done, part, rfl, hreached, rfl⟩ := h
  exact ⟨done, part ++ rest, by simp, hreached, by simp⟩

theorem Makes.write? (h : Makes i front made) (rest : Text) (m : Marker) :
    ∃ i', write? (front ++ rest) i (byteLength front, m) = some i' ∧
      Makes i' front (made ++ m.token) := by
  obtain ⟨done, part, rfl, hreached, rfl⟩ := h
  refine ⟨⟨i.written ++ part ++ m.token, byteLength (done ++ part)⟩, ?_, ?_⟩
  · rw [Insertion.write?, hreached, List.append_assoc, Text.slice?_append]
    rfl
  · exact ⟨done ++ part, [], by simp, rfl, by simp⟩

theorem Makes.finish? (h : Makes i t made) : finish? t i = some made := by
  obtain ⟨done, part, rfl, hreached, rfl⟩ := h
  have hpart := Text.slice?_append done part []
  rw [List.append_nil] at hpart
  rw [Insertion.finish?, hreached, hpart]
  rfl

theorem Makes.writeAll (h : Makes i front made) (rest : Text) (ms : List Marker) :
    ∃ i', (ms.map (byteLength front, ·)).foldlM (Insertion.write? (front ++ rest)) i = some i' ∧
      Makes i' front (made ++ ms.flatMap Marker.token) := by
  induction ms generalizing i made with
  | nil => exact ⟨i, rfl, by simpa using h⟩
  | cons m ms ih =>
    obtain ⟨next, hnext, hmakes⟩ := h.write? rest m
    obtain ⟨i', hrun, hmakes'⟩ := ih hmakes
    refine ⟨i', ?_, ?_⟩
    · rw [List.map_cons, List.foldlM_cons, hnext]
      exact hrun
    · rw [List.flatMap_cons, ← List.append_assoc]
      exact hmakes'

theorem Makes.course (h : Makes i front made) (o : Offsets) (n : Nat) (t : Text) :
    ∃ i', (moved (byteLength front) (course o n t)).foldlM (Insertion.write? (front ++ t)) i =
        some i' ∧ Makes i' (front ++ t) (made ++ Offsets.restoreFrom o n t) := by
  induction t generalizing i front made n with
  | nil =>
    obtain ⟨i', hrun, hmakes⟩ := h.writeAll [] (o.due (n ≤ ·))
    refine ⟨i', ?_, ?_⟩
    · rw [Insertion.course, moved_map_zero]
      exact hrun
    · rw [Offsets.restoreFrom, Offsets.tokensWhere_eq, List.append_nil]
      exact hmakes
  | cons c rest ih =>
    obtain ⟨next, hnext, hmakes⟩ := h.writeAll (c :: rest) (o.due (· == n))
    obtain ⟨i', hrun, hmakes'⟩ := ih (hmakes.append [c]) (n + 1)
    refine ⟨i', ?_, ?_⟩
    · rw [Insertion.course, moved_append, moved_map_zero, moved_moved, List.foldlM_append, hnext]
      rw [Text.byteLength_append, Text.byteLength_cons, Text.byteLength_nil, Nat.add_zero,
        List.append_assoc] at hrun
      exact hrun
    · rw [Offsets.restoreFrom, Offsets.tokensWhere_eq]
      simpa using hmakes'

theorem run?_eq (o : Offsets) (t : Text) : run? o t = some (o.restore t) := by
  have hstart : Makes {} [] [] := ⟨[], [], rfl, rfl, rfl⟩
  obtain ⟨i, hrun, hmakes⟩ := hstart.course o 0 t
  have hsame : moved (byteLength []) (course o 0 t) = course o 0 t := by simp [moved]
  rw [hsame, List.nil_append] at hrun
  rw [run?, places_eq, hrun]
  exact hmakes.finish?

end Insertion

end FormatConformance
