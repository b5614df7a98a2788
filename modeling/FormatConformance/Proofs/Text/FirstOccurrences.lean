import FormatConformance.Text.Search
import Mathlib.Data.List.Basic
import Mathlib.Data.Nat.Find

/-!
First occurrences of a pattern. Text in front of another one in which no occurrence begins moves
the first occurrence by its length, in characters as well as in bytes.
-/

namespace FormatConformance.Text

/-- The pattern occurs at the offset and at none before it. -/
def FirstAt (pattern t : Text) (i : Nat) : Prop :=
  pattern <+: t.drop i ∧ ∀ j < i, ¬ pattern <+: t.drop j

instance (pattern t : Text) (i : Nat) : Decidable (FirstAt pattern t i) :=
  inferInstanceAs (Decidable (_ ∧ ∀ j < i, _))

variable {pattern front rest t : Text} {i j : Nat}

theorem FirstAt.unique (h : FirstAt pattern t i) (h' : FirstAt pattern t j) : i = j := by
  rcases Nat.lt_trichotomy i j with hlt | heq | hgt
  · exact absurd h.1 (h'.2 i hlt)
  · exact heq
  · exact absurd h'.1 (h.2 j hgt)

theorem exists_firstAt_iff : (∃ i, FirstAt pattern t i) ↔ pattern <:+: t := by
  constructor
  · rintro ⟨i, hfirst, -⟩
    exact hfirst.isInfix.trans (List.drop_suffix i t).isInfix
  · rintro ⟨before, after, rfl⟩
    have hsome : ∃ i, pattern <+: (before ++ pattern ++ after).drop i :=
      ⟨before.length, after, by simp⟩
    exact ⟨Nat.find hsome, Nat.find_spec hsome, fun j hj => Nat.find_min hsome hj⟩

theorem firstAt_zero_iff : FirstAt pattern t 0 ↔ pattern <+: t := by
  simp [FirstAt]

theorem firstAt_append_iff (h : ∀ j < front.length, ¬ pattern <+: (front ++ rest).drop j) :
    FirstAt pattern (front ++ rest) i ↔ ∃ j, i = front.length + j ∧ FirstAt pattern rest j := by
  have hdrop : ∀ j, (front ++ rest).drop (front.length + j) = rest.drop j := by
    intro j
    rw [List.drop_append, List.drop_eq_nil_of_le (by omega), List.nil_append,
      Nat.add_sub_cancel_left]
  constructor
  · rintro ⟨hfirst, hnone⟩
    have hfront : front.length ≤ i := by
      by_cases hlt : i < front.length
      · exact absurd hfirst (h i hlt)
      · omega
    obtain ⟨j, rfl⟩ := Nat.exists_eq_add_of_le hfront
    refine ⟨j, rfl, hdrop j ▸ hfirst, fun k hk => ?_⟩
    have hbefore := hnone (front.length + k) (by omega)
    rwa [hdrop] at hbefore
  · rintro ⟨j, rfl, hfirst, hnone⟩
    refine ⟨(hdrop j).symm ▸ hfirst, fun k hk => ?_⟩
    by_cases hlt : k < front.length
    · exact h k hlt
    · obtain ⟨k, rfl⟩ := Nat.exists_eq_add_of_le (Nat.le_of_not_lt hlt)
      rw [hdrop]
      exact hnone k (by omega)

theorem splitFirst?_of_prefix (h : pattern ≠ []) (rest : Text) :
    splitFirst? pattern (pattern ++ rest) = some ([], rest) := by
  obtain ⟨c, tail, rfl⟩ := List.exists_cons_of_ne_nil h
  have hbegins := List.isPrefixOf?_eq_some_iff_append_eq.2 (rfl : c :: tail ++ rest = _)
  rw [List.cons_append] at hbegins ⊢
  rw [splitFirst?, hbegins]

theorem splitFirst?_append (h : ∀ j < front.length, ¬ pattern <+: (front ++ rest).drop j) :
    splitFirst? pattern (front ++ rest) =
      (splitFirst? pattern rest).map fun (before, after) => (front ++ before, after) := by
  induction front with
  | nil => simp
  | cons c front ih =>
    have hhead : pattern.isPrefixOf? (c :: (front ++ rest)) = none := by
      refine Option.eq_none_iff_forall_ne_some.2 fun after hafter => ?_
      exact h 0 (Nat.succ_pos _) ⟨after, List.isPrefixOf?_eq_some_iff_append_eq.1 hafter⟩
    have htail := ih fun j hj => h (j + 1) (Nat.succ_lt_succ hj)
    rw [List.cons_append, splitFirst?, hhead, htail, Option.map_map]
    rfl

theorem byteIndex?_of_prefix (h : pattern ≠ []) (rest : Text) :
    byteIndex? pattern (pattern ++ rest) = some 0 := by
  rw [byteIndex?, splitFirst?_of_prefix h]
  rfl

theorem byteIndex?_append (h : ∀ j < front.length, ¬ pattern <+: (front ++ rest).drop j) :
    byteIndex? pattern (front ++ rest) = (byteIndex? pattern rest).map (byteLength front + ·) := by
  rw [byteIndex?, byteIndex?, splitFirst?_append h, Option.map_map, Option.map_map]
  congr 1
  funext ⟨before, after⟩
  exact byteLength_append front before

end FormatConformance.Text
