import Mathlib.Data.Finset.Dedup
import FormatConformance.Proofs.Plan.Companions

/-!
The order of companions. What a list of candidates adds to a plan are their first occurrences, so
candidates that are brought along once more add nothing. The companions are therefore those of one
list that come along and are not asked for, and nothing else about what is asked for counts.
-/

namespace FormatConformance

namespace Plan

variable {present : List (Option Grammar)} {front front' back back' added : List Grammar}
  {area : Area} {directory : String} {exceptions : Exceptions} {asked other : List Grammar}
  {g leader follower : Grammar}

theorem newcomers_append (present : List (Option Grammar)) (front back : List Grammar) :
    newcomers present (front ++ back) = newcomers present front ++
      newcomers (present ++ (newcomers present front).map some) back := by
  induction front generalizing present with
  | nil => simp [newcomers]
  | cons g front ih =>
    by_cases h : some g ∈ present
    · rw [List.cons_append, newcomers, if_pos h, newcomers, if_pos h, ih]
    · rw [List.cons_append, newcomers, if_neg h, newcomers, if_neg h, ih, List.map_cons,
        List.cons_append, List.append_assoc, List.singleton_append]

theorem newcomers_append_of_subset (h : back ⊆ front) :
    newcomers present (front ++ back) = newcomers present front := by
  have hnone : newcomers (present ++ (newcomers present front).map some) back = [] := by
    refine List.eq_nil_iff_forall_not_mem.2 fun g hg => ?_
    obtain ⟨hback, hnew⟩ := mem_newcomers.1 hg
    have hpresent : some g ∉ present := fun hmem => hnew (List.mem_append_left _ hmem)
    have hadded : g ∈ newcomers present front := mem_newcomers.2 ⟨h hback, hpresent⟩
    exact hnew (List.mem_append_right _ (List.mem_map_of_mem hadded))
  rw [newcomers_append, hnone, List.append_nil]

theorem newcomers_of_nodup (h : added.Nodup) :
    newcomers present added = added.filter fun g => some g ∉ present := by
  induction added generalizing present with
  | nil => rfl
  | cons c rest ih =>
    obtain ⟨hc, hrest⟩ := List.nodup_cons.1 h
    by_cases hmem : some c ∈ present
    · rw [newcomers, if_pos hmem, ih hrest, List.filter_cons_of_neg (by simpa using hmem)]
    · have hothers : ∀ g ∈ rest, decide (some g ∉ present ++ [some c]) =
          decide (some g ∉ present) := by
        intro g hg
        have hne : g ≠ c := ne_of_mem_of_not_mem hg hc
        simp [hne]
      rw [newcomers, if_neg hmem, ih hrest, List.filter_cons_of_pos (by simpa using hmem),
        List.filter_congr hothers]

/-- Two lists of candidates add the same grammars to every list. -/
def Alike (front back : List Grammar) : Prop :=
  ∀ present, newcomers present front = newcomers present back

theorem Alike.refl (added : List Grammar) : Alike added added := fun _ => rfl

theorem Alike.append (h : Alike front front') (h' : Alike back back') :
    Alike (front ++ back) (front' ++ back') := by
  intro present
  rw [newcomers_append, newcomers_append, h, h']

theorem alike_flatMap {followers : Grammar → List Grammar}
    (h : ∀ r, r ≠ leader → followers r = []) (asked : List Grammar) :
    Alike (asked.flatMap followers) (if leader ∈ asked then followers leader else []) := by
  intro present
  induction asked with
  | nil => rfl
  | cons r rest ih =>
    rw [List.flatMap_cons]
    by_cases hr : r = leader
    · subst hr
      have hsubset : rest.flatMap followers ⊆ followers r := by
        intro g hg
        obtain ⟨r', -, hg⟩ := List.mem_flatMap.1 hg
        by_cases hr' : r' = r
        · exact hr' ▸ hg
        · rw [h r' hr'] at hg
          cases hg
      rw [newcomers_append_of_subset hsubset, if_pos List.mem_cons_self]
    · rw [h r hr, List.nil_append, ih]
      simp [Ne.symm hr]

def seniority : List Grammar := [.babelTs] ++ Grammar.babel.alternates ++ [.babelEstree]

theorem nodup_seniority : seniority.Nodup := by decide

instance : DecidablePred (Companion area directory exceptions asked) := fun _ =>
  decidable_of_iff _ mem_candidates_iff

theorem companion_alternate_iff (h : g ∈ Grammar.babel.alternates) :
    Companion area directory exceptions asked g ↔
      .babel ∈ asked ∧ area = .generalPurpose ∧ exceptions.isDisabled g directory = false := by
  have hne : g ≠ .babelTs ∧ g ≠ .babelEstree := by
    simp only [Grammar.alternates, List.mem_cons, List.not_mem_nil, or_false] at h
    obtain rfl | rfl | rfl := h <;> decide
  rw [companion_iff]
  simp only [hne.1, hne.2, h, false_and, false_or, or_false, true_and, and_iff_right_iff_imp]
  intro hcompanion
  rw [hcompanion.2.1]
  decide

theorem alike_followers (leader : Grammar) {followers : Grammar → List Grammar} {admitted : Prop}
    [Decidable admitted] (hothers : ∀ r, r ≠ leader → followers r = [])
    (hcomes : ∀ g ∈ followers leader,
      (Companion area directory exceptions asked g ↔ leader ∈ asked ∧ admitted)) :
    Alike (if admitted then asked.flatMap followers else [])
      ((followers leader).filter (Companion area directory exceptions asked ·)) := by
  have hfilter : (followers leader).filter (Companion area directory exceptions asked ·) =
      if leader ∈ asked ∧ admitted then followers leader else [] := by
    by_cases hled : leader ∈ asked ∧ admitted
    · rw [if_pos hled, List.filter_eq_self]
      exact fun g hg => decide_eq_true ((hcomes g hg).2 hled)
    · rw [if_neg hled, List.filter_eq_nil_iff]
      exact fun g hg hg' => hled ((hcomes g hg).1 (of_decide_eq_true hg'))
  rw [hfilter]
  by_cases hadmitted : admitted
  · simpa only [hadmitted, if_true, and_true] using alike_flatMap hothers asked
  · simpa only [hadmitted, if_false, and_false] using Alike.refl []

theorem alike_untyped (h : area ≠ .errors) :
    Alike (if area = .typescriptOnly then [] else asked.filterMap Grammar.untyped)
      ([.babelTs].filter (Companion area directory exceptions asked ·)) := by
  rw [List.filterMap_eq_flatMap_toList, ← ite_not]
  refine alike_followers .typescript (fun r hr => ?_) fun g hg => ?_
  · cases r <;> first | rfl | exact absurd rfl hr
  · obtain rfl := List.mem_singleton.1 hg
    simp [companion_iff, Grammar.alternates, h]

theorem alike_alternates :
    Alike (if area = .generalPurpose then
      (asked.flatMap Grammar.alternates).filter fun g => !exceptions.isDisabled g directory else [])
      (Grammar.babel.alternates.filter (Companion area directory exceptions asked ·)) := by
  have hfilter : Grammar.babel.alternates.filter (Companion area directory exceptions asked ·) =
      (Grammar.babel.alternates.filter fun g => !exceptions.isDisabled g directory).filter
        (Companion area directory exceptions asked ·) := by
    rw [List.filter_filter]
    refine List.filter_congr fun g hg => ?_
    simpa using fun hcompanion => ((companion_alternate_iff hg).1 hcompanion).2.2
  rw [hfilter, List.filter_flatMap]
  refine alike_followers .babel (fun r hr => ?_) fun g hg => ?_
  · exact List.filter_eq_nil_iff.2 fun g hg => absurd (Grammar.mem_alternates_iff.1 hg).1 hr
  · obtain ⟨hlisted, hkept⟩ := List.mem_filter.1 hg
    rw [companion_alternate_iff hlisted]
    simpa using fun _ _ => hkept

theorem alike_reshaped (h : area ≠ .errors) : Alike (asked.filterMap Grammar.reshaped)
    ([.babelEstree].filter (Companion area directory exceptions asked ·)) := by
  have hothers : ∀ r, r ≠ Grammar.babel → r.reshaped.toList = [] := by
    intro r hr
    cases r <;> first | rfl | exact absurd rfl hr
  have hcomes : ∀ g ∈ Grammar.babel.reshaped.toList,
      (Companion area directory exceptions asked g ↔ .babel ∈ asked ∧ True) := by
    intro g hg
    obtain rfl := List.mem_singleton.1 hg
    simp [companion_iff, Grammar.alternates, h]
  have halike := alike_followers .babel hothers hcomes
  rw [if_pos trivial] at halike
  rwa [List.filterMap_eq_flatMap_toList]

theorem alike_candidates : Alike (candidates area directory exceptions asked)
    (seniority.filter (Companion area directory exceptions asked ·)) := by
  by_cases h : area = .errors
  · have hnone : seniority.filter (Companion area directory exceptions asked ·) = [] := by
      refine List.filter_eq_nil_iff.2 fun g _ hg => ?_
      have hmem := mem_candidates_iff.2 (of_decide_eq_true hg)
      rw [h] at hmem
      cases hmem
    rw [hnone, h]
    exact .refl []
  · rw [seniority, List.filter_append, List.filter_append, candidates]
    · exact ((alike_untyped h).append alike_alternates).append (alike_reshaped h)
    · exact h

def companions (area : Area) (directory : String) (exceptions : Exceptions)
    (asked : List Grammar) : List Grammar :=
  seniority.filter fun g => g ∉ asked ∧ Companion area directory exceptions asked g

theorem newcomers_candidates :
    newcomers (asked.map some) (candidates area directory exceptions asked) =
      companions area directory exceptions asked := by
  rw [alike_candidates, newcomers_of_nodup (nodup_seniority.filter _), List.filter_filter]
  simp [companions]

theorem mem_companions_iff : g ∈ companions area directory exceptions asked ↔
    g ∉ asked ∧ Companion area directory exceptions asked g := by
  have hsenior : Companion area directory exceptions asked g → g ∈ seniority := by
    rintro (_ | ⟨-, hlisted, -, -⟩ | _)
    · simp [seniority]
    · simp [seniority, hlisted]
    · simp [seniority]
  rw [companions, List.mem_filter, decide_eq_true_iff]
  exact and_iff_right_of_imp fun h => hsenior h.2

theorem companions_congr (h : ∀ g, g ∈ asked ↔ g ∈ other) :
    companions area directory exceptions asked = companions area directory exceptions other :=
  List.filter_congr fun g _ => decide_eq_decide.2 (by simp only [companion_iff, h])

/-- The companions are a function of the set of grammars that are asked for. -/
theorem build_companions (directory : String) (exceptions : Exceptions) :
    ∃ companions : Finset Grammar → List Grammar,
      ∀ (requested : List Grammar) (options : Options),
        (build directory requested options exceptions).requested =
            (if Area.ofDirectory directory = .inference then [none] else requested.map some) ∧
          (build directory requested options exceptions).grammars =
            (build directory requested options exceptions).requested ++
              (companions requested.toFinset).map some ∧
          (companions requested.toFinset).Nodup ∧
          (∀ g ∈ companions requested.toFinset, g ∉ requested) ∧
          (companions requested.toFinset).Sublist
            [.babelTs, .espree, .meriyah, .acorn, .babelEstree] ∧
          ∀ g, g ∈ companions requested.toFinset ↔ g ∉ requested ∧
            Area.ofDirectory directory ≠ .errors ∧ Area.ofDirectory directory ≠ .inference ∧
            (g = .babelTs ∧ .typescript ∈ requested ∧
                Area.ofDirectory directory ≠ .typescriptOnly ∨
              g ∈ [.espree, .meriyah, .acorn] ∧ .babel ∈ requested ∧
                Area.ofDirectory directory = .generalPurpose ∧
                exceptions.isDisabled g directory = false ∨
              g = .babelEstree ∧ .babel ∈ requested) := by
  by_cases h : Area.ofDirectory directory = .inference
  · refine ⟨fun _ => [], fun requested options => ?_⟩
    obtain ⟨hrequested, hgrammars⟩ := build_of_inference directory requested options exceptions h
    simp [hrequested, hgrammars, h]
  · refine ⟨fun asked => companions (Area.ofDirectory directory) directory exceptions asked.toList,
      fun requested options => ?_⟩
    have hasked : companions (Area.ofDirectory directory) directory exceptions
        requested.toFinset.toList =
          companions (Area.ofDirectory directory) directory exceptions requested :=
      companions_congr fun g => by rw [Finset.mem_toList, List.mem_toFinset]
    have hrequested := build_requested directory requested options exceptions h
    have hgrammars := build_grammars directory requested options exceptions h
    rw [newcomers_candidates, ← hrequested] at hgrammars
    beta_reduce
    rw [hasked, if_neg h]
    refine ⟨hrequested, hgrammars, nodup_seniority.filter _,
      fun g hg => (mem_companions_iff.1 hg).1, List.filter_sublist, fun g => ?_⟩
    rw [mem_companions_iff, companion_iff]
    simp only [ne_eq, h, not_false_eq_true, true_and, Grammar.alternates]

end Plan

end FormatConformance
