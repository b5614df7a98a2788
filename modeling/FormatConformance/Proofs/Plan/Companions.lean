import Mathlib.Data.List.Nodup
import FormatConformance.Plan

/-!
Companions in a plan. The grammars of a plan are those asked for and, behind them, the candidates
that were not there yet, each one at its first place. `Companion` says which grammars these are
without building the plan.
-/

namespace FormatConformance

namespace Plan

variable {g : Grammar} {present : List (Option Grammar)} {candidates : List Grammar}

def newcomers : List (Option Grammar) → List Grammar → List Grammar
  | _, [] => []
  | present, g :: rest =>
    if some g ∈ present then newcomers present rest else g :: newcomers (present ++ [some g]) rest

theorem join_of_mem (h : some g ∈ present) : join present g = present := by simp [join, h]

theorem join_of_notMem (h : some g ∉ present) : join present g = present ++ [some g] := by
  simp [join, h]

theorem foldl_join (present : List (Option Grammar)) (candidates : List Grammar) :
    candidates.foldl join present = present ++ (newcomers present candidates).map some := by
  -- The list that the fold has come to is the one that later candidates are looked up in.
  induction candidates generalizing present with
  | nil => simp [newcomers]
  | cons g rest ih =>
    rw [List.foldl_cons, ih]
    by_cases h : some g ∈ present
    · rw [join_of_mem h, newcomers, if_pos h]
    · rw [join_of_notMem h, newcomers, if_neg h, List.map_cons, List.append_assoc,
        List.singleton_append]

theorem mem_newcomers : g ∈ newcomers present candidates ↔ g ∈ candidates ∧ some g ∉ present := by
  induction candidates generalizing present with
  | nil => simp [newcomers]
  | cons c rest ih =>
    by_cases h : some c ∈ present
    · rw [newcomers, if_pos h, ih, List.mem_cons]
      have hc : g = c → some g ∈ present := fun heq => heq ▸ h
      exact and_congr_left fun hnew => (or_iff_right fun heq => hnew (hc heq)).symm
    · rw [newcomers, if_neg h]
      by_cases heq : g = c
      · simp [heq, h]
      · simp [heq, ih]

theorem nodup_newcomers (present : List (Option Grammar)) (candidates : List Grammar) :
    (newcomers present candidates).Nodup := by
  induction candidates generalizing present with
  | nil => exact List.nodup_nil
  | cons c rest ih =>
    rw [newcomers]
    split
    · exact ih present
    · refine List.nodup_cons.2 ⟨fun hmem => ?_, ih _⟩
      have hnew := (mem_newcomers.1 hmem).2
      exact hnew (List.mem_append_right _ (List.mem_singleton_self _))

end Plan

/-- Why a grammar comes along with those that are asked for in a directory. -/
inductive Companion (area : Area) (directory : String) (exceptions : Exceptions)
    (requested : List Grammar) : Grammar → Prop
  | untyped (asked : .typescript ∈ requested) (outside : area ≠ .errors)
      (mixed : area ≠ .typescriptOnly) : Companion area directory exceptions requested .babelTs
  | alternate {g : Grammar} (asked : .babel ∈ requested) (listed : g ∈ Grammar.babel.alternates)
      (general : area = .generalPurpose) (kept : exceptions.isDisabled g directory = false) :
      Companion area directory exceptions requested g
  | reshaped (asked : .babel ∈ requested) (outside : area ≠ .errors) :
      Companion area directory exceptions requested .babelEstree

namespace Grammar

theorem untyped_eq_some_iff {r g : Grammar} :
    r.untyped = some g ↔ r = typescript ∧ g = babelTs := by
  cases r <;> simp [untyped, eq_comm]

theorem reshaped_eq_some_iff {r g : Grammar} :
    r.reshaped = some g ↔ r = babel ∧ g = babelEstree := by
  cases r <;> simp [reshaped, eq_comm]

theorem mem_alternates_iff {r g : Grammar} :
    g ∈ r.alternates ↔ r = babel ∧ g ∈ babel.alternates := by
  cases r <;> simp [alternates]

variable {requested : List Grammar} {g : Grammar}

theorem mem_filterMap_iff {companion? : Grammar → Option Grammar} {leader companion : Grammar}
    (h : ∀ {r g}, companion? r = some g ↔ r = leader ∧ g = companion) :
    g ∈ requested.filterMap companion? ↔ leader ∈ requested ∧ g = companion := by
  rw [List.mem_filterMap]
  constructor
  · rintro ⟨r, hr, hg⟩
    obtain ⟨rfl, hcompanion⟩ := h.1 hg
    exact ⟨hr, hcompanion⟩
  · exact fun ⟨hr, hg⟩ => ⟨_, hr, h.2 ⟨rfl, hg⟩⟩

theorem mem_flatMap_alternates :
    g ∈ requested.flatMap alternates ↔ babel ∈ requested ∧ g ∈ babel.alternates := by
  rw [List.mem_flatMap]
  constructor
  · rintro ⟨r, hr, hg⟩
    obtain ⟨rfl, hlisted⟩ := mem_alternates_iff.1 hg
    exact ⟨hr, hlisted⟩
  · exact fun ⟨hr, hg⟩ => ⟨_, hr, hg⟩

end Grammar

namespace Plan

variable {area : Area} {directory : String} {requested : List Grammar} {exceptions : Exceptions}
  {g : Grammar}

theorem companion_iff : Companion area directory exceptions requested g ↔ area ≠ .errors ∧
    (g = .babelTs ∧ .typescript ∈ requested ∧ area ≠ .typescriptOnly ∨
      g ∈ Grammar.babel.alternates ∧ .babel ∈ requested ∧ area = .generalPurpose ∧
        exceptions.isDisabled g directory = false ∨
      g = .babelEstree ∧ .babel ∈ requested) := by
  constructor
  · rintro (⟨hasked, houtside, hmixed⟩ | ⟨hasked, hlisted, hgeneral, hkept⟩ | ⟨hasked, houtside⟩)
    · exact ⟨houtside, .inl ⟨rfl, hasked, hmixed⟩⟩
    · exact ⟨by simp [hgeneral], .inr (.inl ⟨hlisted, hasked, hgeneral, hkept⟩)⟩
    · exact ⟨houtside, .inr (.inr ⟨rfl, hasked⟩)⟩
  · rintro ⟨houtside, ⟨rfl, hasked, hmixed⟩ | ⟨hlisted, hasked, hgeneral, hkept⟩ | ⟨rfl, hasked⟩⟩
    · exact .untyped hasked houtside hmixed
    · exact .alternate hasked hlisted hgeneral hkept
    · exact .reshaped hasked houtside

theorem mem_candidates_iff :
    g ∈ candidates area directory exceptions requested ↔
      Companion area directory exceptions requested g := by
  rw [companion_iff]
  by_cases herrors : area = .errors
  · simp [herrors, candidates]
  · have hmem : g ∈ candidates area directory exceptions requested ↔
        (area ≠ .typescriptOnly ∧ g ∈ requested.filterMap Grammar.untyped) ∨
        (area = .generalPurpose ∧ g ∈ requested.flatMap Grammar.alternates ∧
          exceptions.isDisabled g directory = false) ∨
        g ∈ requested.filterMap Grammar.reshaped := by
      cases area <;> simp [candidates] at herrors ⊢
    rw [hmem, Grammar.mem_filterMap_iff Grammar.untyped_eq_some_iff, Grammar.mem_flatMap_alternates,
      Grammar.mem_filterMap_iff Grammar.reshaped_eq_some_iff, and_iff_right herrors]
    refine or_congr ?_ (or_congr ?_ and_comm)
    · simp only [and_comm, and_left_comm]
    · simp only [and_comm, and_left_comm, and_assoc]

section Build

variable (directory : String) (requested : List Grammar) (options : Options)
  (exceptions : Exceptions)

theorem build_of_inference (h : Area.ofDirectory directory = .inference) :
    (build directory requested options exceptions).requested = [none] ∧
      (build directory requested options exceptions).grammars = [none] := by
  simp [build, h, candidates]

theorem build_requested (h : Area.ofDirectory directory ≠ .inference) :
    (build directory requested options exceptions).requested = requested.map some := by
  simp [build, h]

theorem build_grammars (h : Area.ofDirectory directory ≠ .inference) :
    (build directory requested options exceptions).grammars = requested.map some ++
      (newcomers (requested.map some) (candidates (Area.ofDirectory directory) directory exceptions
        requested)).map some := by
  have hasked : (requested.map some).filterMap id = requested := by simp
  simp only [build, if_neg h, foldl_join, hasked]

variable {directory requested}

theorem some_mem_build_grammars_iff :
    some g ∈ (build directory requested options exceptions).grammars ↔
      Area.ofDirectory directory ≠ .inference ∧
        (g ∈ requested ∨
          Companion (Area.ofDirectory directory) directory exceptions requested g) := by
  by_cases h : Area.ofDirectory directory = .inference
  · rw [(build_of_inference _ _ _ _ h).2]
    simp [h]
  · rw [build_grammars _ _ _ _ h]
    simp only [List.mem_append, List.mem_map, Option.some.injEq, exists_eq_right, mem_newcomers,
      mem_candidates_iff]
    by_cases hasked : g ∈ requested
    · simp [hasked, h]
    · simp [hasked, h]

theorem exists_build_grammars_eq_cons
    (h : Area.ofDirectory directory = .inference ∨ requested ≠ [] ∧ requested.Nodup) :
    ∃ others, (build directory requested options exceptions).grammars =
        (build directory requested options exceptions).primary :: others ∧
      ((build directory requested options exceptions).primary :: others).Nodup := by
  by_cases hinference : Area.ofDirectory directory = .inference
  · obtain ⟨hrequested, hgrammars⟩ := build_of_inference directory requested options exceptions
      hinference
    exact ⟨[], by rw [hgrammars, primary, hrequested]; rfl, by simp⟩
  · obtain ⟨hne, hnodup⟩ := h.resolve_left hinference
    obtain ⟨first, rest, rfl⟩ := List.exists_cons_of_ne_nil hne
    have hprimary : (build directory (first :: rest) options exceptions).primary = some first := by
      rw [primary, build_requested _ _ _ _ hinference]
      rfl
    have hgrammars := build_grammars directory (first :: rest) options exceptions hinference
    rw [List.map_cons, List.cons_append, ← hprimary] at hgrammars
    refine ⟨_, hgrammars, ?_⟩
    rw [← hgrammars, build_grammars _ _ _ _ hinference, List.nodup_append]
    have hinjective : Function.Injective (some : Grammar → Option Grammar) :=
      fun _ _ => Option.some.inj
    refine ⟨hnodup.map hinjective, (nodup_newcomers _ _).map hinjective, ?_⟩
    rintro a ha b hb rfl
    obtain ⟨c, hc, rfl⟩ := List.mem_map.1 hb
    exact (mem_newcomers.1 hc).2 ha

end Build

end Plan

end FormatConformance
