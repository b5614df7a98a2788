import FormatConformance.Proofs.Plan.Companions

/-!
What is left out of a plan. A grammar that is left out for a fixture has no entry for it, the
primary grammar included; a fixture is verified in full exactly if its primary grammar is not left
out. A grammar that is left out for a directory is still in its plans where it comes along as an
untyped or as a reshaped form.
-/

namespace FormatConformance

namespace Grammar

theorem name_ne_label_none (grammar : Grammar) : grammar.name ≠ label none := by
  cases grammar <;> decide

theorem label_injective : Function.Injective label := by
  intro a b h
  cases a with
  | none =>
    cases b with
    | none => rfl
    | some g => exact absurd h.symm (name_ne_label_none g)
  | some g =>
    cases b with
    | none => exact absurd h (name_ne_label_none g)
    | some g' => exact congrArg some (name_injective h)

end Grammar

namespace Plan

theorem crossCheckTitle_injective : Function.Injective crossCheckTitle := by
  intro a b h
  unfold crossCheckTitle at h
  rw [String.append_left_inj, String.append_right_inj] at h
  exact Grammar.label_injective h

theorem primaryTitle_ne_crossCheckTitle (grammar : Option Grammar) :
    primaryTitle ≠ crossCheckTitle grammar := by
  intro h
  have hlist := congrArg String.toList h
  simp [primaryTitle, crossCheckTitle] at hlist

def primaryEntry (plan : Plan) : Entry := ⟨primaryTitle, plan.primary, .primary⟩

def crossCheckEntry (grammar : Option Grammar) : Entry :=
  ⟨crossCheckTitle grammar, grammar, .crossCheck⟩

def others (plan : Plan) (exceptions : Exceptions) (relative : Option String) :
    List (Option Grammar) :=
  plan.grammars.filter fun grammar => grammar ≠ plan.primary && admits exceptions relative grammar

variable {plan : Plan} {exceptions : Exceptions} {relative : Option String}
  {grammar : Option Grammar} {rest : List (Option Grammar)}

theorem admits_some_iff {g : Grammar} : admits exceptions relative (some g) = true ↔
    ∀ path, relative = some path → exceptions.isDisabled g path = false := by
  cases relative with
  | none => simp [admits]
  | some path => simp [admits]

theorem admits_iff : admits exceptions relative grammar = true ↔
    ∀ g path, grammar = some g → relative = some path → exceptions.isDisabled g path = false := by
  cases grammar with
  | none => simp [admits]
  | some g =>
    rw [admits_some_iff]
    exact ⟨fun h _ path hg => Option.some.inj hg ▸ h path, fun h path => h g path rfl⟩

theorem others_eq (h : plan.grammars = plan.primary :: rest) (hnew : plan.primary ∉ rest) :
    plan.others exceptions relative = rest.filter (admits exceptions relative) := by
  unfold others
  rw [h, List.filter_cons_of_neg (by simp)]
  apply List.filter_congr
  intro grammar hgrammar
  have hne : grammar ≠ plan.primary := ne_of_mem_of_not_mem hgrammar hnew
  simp [hne]

theorem entries_eq (h : plan.grammars = plan.primary :: rest) (hnew : plan.primary ∉ rest) :
    plan.entries relative false exceptions =
      (if admits exceptions relative plan.primary then [plan.primaryEntry] else []) ++
        (plan.others exceptions relative).map crossCheckEntry := by
  have hrest : (rest.filter (admits exceptions relative)).map (fun grammar =>
      if false || grammar ≠ plan.primary then ⟨crossCheckTitle grammar, grammar, .crossCheck⟩
      else ⟨primaryTitle, grammar, .primary⟩) =
      (rest.filter (admits exceptions relative)).map crossCheckEntry := by
    apply List.map_congr_left
    intro grammar hgrammar
    have hne : grammar ≠ plan.primary :=
      ne_of_mem_of_not_mem (List.mem_filter.1 hgrammar).1 hnew
    simp [hne, crossCheckEntry]
  rw [others_eq h hnew, entries, h, List.filter_cons]
  split
  · rw [List.map_cons, hrest]
    simp [primaryEntry]
  · rw [hrest, List.nil_append]

theorem exists_entry_iff {primaryFails : Bool} :
    (∃ entry ∈ plan.entries relative primaryFails exceptions, entry.grammar = grammar) ↔
      grammar ∈ plan.grammars ∧ admits exceptions relative grammar = true := by
  have hgrammars : (plan.entries relative primaryFails exceptions).map Entry.grammar =
      plan.grammars.filter (admits exceptions relative) := by
    rw [entries, List.map_map]
    conv_rhs => rw [← List.map_id (plan.grammars.filter _)]
    apply List.map_congr_left
    intro g _
    simp only [Function.comp_apply]
    split <;> rfl
  rw [← List.mem_map, hgrammars, List.mem_filter]

theorem nodup_titles (h : plan.grammars = plan.primary :: rest)
    (hnodup : (plan.primary :: rest).Nodup) :
    ((plan.entries relative false exceptions).map Entry.title).Nodup := by
  obtain ⟨hnew, hrest⟩ := List.nodup_cons.1 hnodup
  have hcross : ((plan.others exceptions relative).map crossCheckTitle).Nodup := by
    rw [others_eq h hnew]
    exact (hrest.filter _).map crossCheckTitle_injective
  have htitles : Entry.title ∘ crossCheckEntry = crossCheckTitle := rfl
  rw [entries_eq h hnew, List.map_append, List.map_map, htitles]
  split
  · rw [List.map_singleton, List.singleton_append, List.nodup_cons]
    refine ⟨fun hmem => ?_, hcross⟩
    obtain ⟨grammar, -, htitle⟩ := List.mem_map.1 hmem
    exact primaryTitle_ne_crossCheckTitle grammar htitle.symm
  · simpa using hcross

/-- No two grammars of a plan share a title, and what a fixture is verified for is known: its
entries are those of the other grammars that are not left out for it, in the order of the plan, with
the entry of the primary grammar in front of them exactly if that is not left out itself. -/
theorem entries_complete_iff {directory : String} {requested : List Grammar}
    (h : Area.ofDirectory directory = .inference ∨ requested ≠ [] ∧ requested.Nodup)
    (options : Options) (built exceptions : Exceptions) (relative : Option String) :
    let plan := build directory requested options built
    let entries := plan.entries relative false exceptions
    let crossChecks := (plan.others exceptions relative).map crossCheckEntry
    plan.grammars.head? = some plan.primary ∧ plan.grammars.Nodup ∧
      (entries.map Entry.title).Nodup ∧
      (entries = crossChecks ∨ entries = plan.primaryEntry :: crossChecks) ∧
      (entries = plan.primaryEntry :: crossChecks ↔
        ∀ g path, plan.primary = some g → relative = some path →
          exceptions.isDisabled g path = false) := by
  intro plan entries crossChecks
  obtain ⟨rest, hgrammars, hnodup⟩ := exists_build_grammars_eq_cons options built h
  have hentries : entries = _ := entries_eq hgrammars (List.nodup_cons.1 hnodup).1
  refine ⟨?_, ?_, nodup_titles hgrammars hnodup, ?_, ?_⟩
  · exact congrArg List.head? hgrammars
  · exact hgrammars ▸ hnodup
  · rw [hentries]
    split
    · exact .inr rfl
    · exact .inl rfl
  · rw [hentries, ← admits_iff]
    split
    · rename_i hadmits
      exact iff_of_true rfl hadmits
    · rename_i hadmits
      refine iff_of_false (fun heq => ?_) hadmits
      have hlength := congrArg List.length heq
      simp [crossChecks] at hlength

def withoutMeriyah : Exceptions := ({} : Exceptions).disable .meriyah "js/fields/basic.js"

theorem entries_complete_iff_withoutMeriyah :
    ([.babel, .flow] : List Grammar) ≠ [] ∧ ([.babel, .flow] : List Grammar).Nodup ∧
      let plan := build "js/fields" [.babel, .flow] {} withoutMeriyah
      let relative := some "js/fields/basic.js"
      plan.others withoutMeriyah relative =
          [some .flow, some .espree, some .acorn, some .babelEstree] ∧
        plan.entries relative false withoutMeriyah =
          plan.primaryEntry :: (plan.others withoutMeriyah relative).map crossCheckEntry := by
  have hne : ([.babel, .flow] : List Grammar) ≠ [] := by decide
  have hnodup : ([.babel, .flow] : List Grammar).Nodup := by decide
  refine ⟨hne, hnodup, by decide +kernel, ?_⟩
  have hasked : Area.ofDirectory "js/fields" = .inference ∨
      ([.babel, .flow] : List Grammar) ≠ [] ∧ ([.babel, .flow] : List Grammar).Nodup :=
    .inr ⟨hne, hnodup⟩
  obtain ⟨-, -, -, -, hcomplete⟩ :=
    entries_complete_iff hasked {} withoutMeriyah withoutMeriyah (some "js/fields/basic.js")
  refine hcomplete.2 fun g path hprimary hpath => ?_
  have hbabel : (build "js/fields" [.babel, .flow] {} withoutMeriyah).primary = some .babel := by
    decide +kernel
  obtain rfl := Option.some.inj (hbabel.symm.trans hprimary)
  obtain rfl := Option.some.inj hpath
  decide +kernel

/-- A fixture may be formatted under its primary grammar without any entry that checks the result:
asked for first, a grammar is the primary one also where it is known to misread the fixture. -/
theorem entries_lack_primary :
    ([.meriyah] : List Grammar) ≠ [] ∧ ([.meriyah] : List Grammar).Nodup ∧
      let plan := build "js/babel-plugins" [.meriyah] {} .known
      let fixture : Fixture := ⟨"decorator-auto-accessors.js", some "accessors.js", [], none⟩
      plan.primary = some .meriyah ∧
        (plan.optionsFor fixture).expectsFailure fixture.name = false ∧
        plan.entries (plan.relativePath fixture) false .known = [] := by
  decide +kernel

/-- A grammar that is left out for a directory and not asked for is in a plan for the directory
exactly if it comes along as the untyped or as the reshaped form of a grammar asked for. It then has
an entry for each fixture that it is not left out for as well. -/
theorem excluded_takes_part_iff {directory : String} {requested : List Grammar}
    {exceptions : Exceptions} {g : Grammar}
    (hexcluded : exceptions.isDisabled g directory = true) (hasked : g ∉ requested)
    (options : Options) :
    let area := Area.ofDirectory directory
    let plan := build directory requested options exceptions
    (some g ∈ plan.grammars ↔ area ≠ .errors ∧ area ≠ .inference ∧
      (g = .babelTs ∧ .typescript ∈ requested ∧ area ≠ .typescriptOnly ∨
        g = .babelEstree ∧ .babel ∈ requested)) ∧
    ∀ relative primaryFails,
      (∃ entry ∈ plan.entries relative primaryFails exceptions, entry.grammar = some g) ↔
        some g ∈ plan.grammars ∧
          ∀ path, relative = some path → exceptions.isDisabled g path = false := by
  intro area plan
  refine ⟨?_, fun relative primaryFails => ?_⟩
  · rw [some_mem_build_grammars_iff]
    constructor
    · rintro ⟨hinference, hmem⟩
      obtain (⟨hleader, hany, hmixed⟩ | ⟨-, -, -, hkept⟩ | ⟨hleader, hany⟩) :=
        hmem.resolve_left hasked
      · exact ⟨hany, hinference, .inl ⟨rfl, hleader, hmixed⟩⟩
      · rw [hexcluded] at hkept
        cases hkept
      · exact ⟨hany, hinference, .inr ⟨rfl, hleader⟩⟩
    · rintro ⟨hany, hinference, ⟨rfl, hleader, hmixed⟩ | ⟨rfl, hleader⟩⟩
      · exact ⟨hinference, .inr (.untyped hleader hany hmixed)⟩
      · exact ⟨hinference, .inr (.reshaped hleader hany)⟩
  · rw [exists_entry_iff, admits_some_iff]

theorem excluded_takes_part_iff_alternate :
    Exceptions.known.isDisabled .espree "js/comments-closure-typecast" = true ∧
      Grammar.espree ∉ [Grammar.babel] ∧
      let plan := build "js/comments-closure-typecast" [.babel] {} .known
      some .espree ∉ plan.grammars ∧
        ¬ ∃ entry ∈ plan.entries none false .known, entry.grammar = some .espree := by
  have hexcluded : Exceptions.known.isDisabled .espree "js/comments-closure-typecast" = true := by
    decide +kernel
  have hasked : Grammar.espree ∉ [Grammar.babel] := by decide
  obtain ⟨hplan, hentry⟩ := excluded_takes_part_iff hexcluded hasked {}
  have habsent := hplan.not.2 (by decide)
  exact ⟨hexcluded, hasked, habsent, fun h => habsent ((hentry none false).1 h).1⟩

def withoutForms : Exceptions :=
  (({} : Exceptions).disable .babelTs "js/decorators").disable .babelEstree "js/decorators"

/-- Grammars that are left out for a directory may still take part in it. -/
theorem excluded_forms_take_part :
    withoutForms.isDisabled .babelTs "js/decorators" = true ∧
      withoutForms.isDisabled .babelEstree "js/decorators" = true ∧
      let requested := [Grammar.babel, .typescript]
      .babelTs ∉ requested ∧ .babelEstree ∉ requested ∧
      let plan := build "js/decorators" requested {} withoutForms
      some .babelTs ∈ plan.grammars ∧ some .babelEstree ∈ plan.grammars ∧
        crossCheckEntry (some .babelTs) ∈
          plan.entries (some "js/decorators/a.js") false withoutForms ∧
        crossCheckEntry (some .babelEstree) ∈ plan.entries none false withoutForms := by
  decide +kernel

end Plan

end FormatConformance
