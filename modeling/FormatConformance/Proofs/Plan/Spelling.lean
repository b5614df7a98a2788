import FormatConformance.Plan
import FormatConformance.Proofs.Path.Spelling

/-!
Spellings of the directory of a plan. Exceptions are looked up by the names in a path, which all
spellings share. The area of a directory is told from its parts, and a dot at the front of a
relative path is a part: a directory that is spelled with one lies in no area of its own.
-/

namespace FormatConformance

theorem Path.startsWith_of_here {path base first : String} {rest others : List Part}
    (h : parts path = .here :: rest) (hbase : parts base = .name first :: others) :
    startsWith path base = false := by
  rw [startsWith, h, hbase, List.isPrefixOf]
  rfl

namespace Area

variable {path path' : String}

theorem ofDirectory_of_parts (h : Path.parts path = Path.parts path') :
    ofDirectory path = ofDirectory path' := by
  unfold ofDirectory Path.startsWith
  rw [h]

theorem ofDirectory_of_startsHere (hne : path ≠ "") (hrelative : Path.isAbsolute path = false)
    (hhere : Path.startsHere path = true) : ofDirectory path = other := by
  have hparts := Path.parts_of_relative hne hrelative
  rw [hhere] at hparts
  have herrors : Path.parts errorsDirectory = [.name "misc", .name "errors"] := by decide +kernel
  have hinference : Path.parts inferenceDirectory = [.name "misc", .name "parser-inference"] := by
    decide +kernel
  have htypescript : Path.parts typescriptOnlyDirectory =
      [.name "misc", .name "typescript-only"] := by decide +kernel
  have hgeneral : Path.parts generalPurposeDirectory = [.name "js"] := by decide +kernel
  simp [ofDirectory, Path.startsWith_of_here hparts herrors,
    Path.startsWith_of_here hparts hinference, Path.startsWith_of_here hparts htypescript,
    Path.startsWith_of_here hparts hgeneral]

theorem ofDirectory_respelled_iff (h : Path.Respelled path path') :
    ofDirectory path = ofDirectory path' ↔ Path.startsHere path = Path.startsHere path' ∨
      ofDirectory path = other ∧ ofDirectory path' = other := by
  constructor
  · intro harea
    cases hhere : Path.startsHere path with
    | true =>
      have hother := ofDirectory_of_startsHere h.ne_empty h.relative hhere
      exact .inr ⟨hother, harea ▸ hother⟩
    | false =>
      cases hhere' : Path.startsHere path' with
      | true =>
        have hother := ofDirectory_of_startsHere h.ne_empty' h.relative' hhere'
        exact .inr ⟨harea ▸ hother, hother⟩
      | false => exact .inl rfl
  · rintro (hhere | ⟨hother, hother'⟩)
    · exact ofDirectory_of_parts (h.parts_eq hhere)
    · rw [hother, hother']

end Area

theorem Exceptions.isDisabled_of_names (exceptions : Exceptions) (g : Grammar)
    {path path' : String} (h : Path.names path = Path.names path') :
    exceptions.isDisabled g path = exceptions.isDisabled g path' := by
  rw [isDisabled, isDisabled, key, key, h]

namespace Plan

variable {path path' : String} {requested : List Grammar} {options : Options}
  {exceptions : Exceptions}

theorem build_of_names (hnames : Path.names path = Path.names path')
    (harea : Area.ofDirectory path = Area.ofDirectory path') :
    build path' requested options exceptions =
      { build path requested options exceptions with directory := path' } := by
  have hcandidates : ∀ asked, candidates (Area.ofDirectory path) path' exceptions asked =
      candidates (Area.ofDirectory path) path exceptions asked := by
    intro asked
    unfold candidates
    simp only [exceptions.isDisabled_of_names _ hnames]
  simp only [build, ← harea, hcandidates]

theorem entries_of_names {plan : Plan} {relative relative' : String} (primaryFails : Bool)
    (h : Path.names relative = Path.names relative') :
    plan.entries (some relative) primaryFails exceptions =
      plan.entries (some relative') primaryFails exceptions := by
  have hadmits : admits exceptions (some relative) = admits exceptions (some relative') := by
    funext grammar
    cases grammar with
    | none => rfl
    | some g => rw [admits, admits, exceptions.isDisabled_of_names g h]
  rw [entries, entries, hadmits]

theorem entries_respelled (h : Path.Respelled path path') (plan : Plan) (fixture : Fixture)
    (primaryFails : Bool) :
    { plan with directory := path }.entries ({ plan with directory := path }.relativePath fixture)
        primaryFails exceptions =
      { plan with directory := path' }.entries
        ({ plan with directory := path' }.relativePath fixture) primaryFails exceptions := by
  cases hpath : fixture.path with
  | none =>
    simp only [relativePath, hpath, Option.map_none]
    rfl
  | some file =>
    have hnames := h.names_join_eq fixture.name
    simp only [relativePath, hpath, Option.map_some]
    exact entries_of_names primaryFails hnames

/-- Plans for two spellings of a directory are alike, and so are the entries of all fixtures,
exactly if both spellings or neither of them start with a dot, or else if the directory lies in no
area of its own. -/
theorem build_respelled_iff (h : Path.Respelled path path') (requested : List Grammar)
    (options : Options) (exceptions : Exceptions) :
    let plan := build path requested options exceptions
    let plan' := build path' requested options exceptions
    (plan.area = plan'.area ∧ plan.requested = plan'.requested ∧ plan.grammars = plan'.grammars ∧
      plan.options = plan'.options ∧ ∀ fixture primaryFails exceptions,
        plan.entries (plan.relativePath fixture) primaryFails exceptions =
          plan'.entries (plan'.relativePath fixture) primaryFails exceptions) ↔
    Path.startsHere path = Path.startsHere path' ∨ plan.area = .other ∧ plan'.area = .other := by
  intro plan plan'
  refine Iff.trans ⟨And.left, fun harea => ?_⟩ (Area.ofDirectory_respelled_iff h)
  have hplan' : plan' = { plan with directory := path' } := build_of_names h.names_eq harea
  rw [hplan']
  exact ⟨rfl, rfl, rfl, rfl, fun fixture primaryFails _ =>
    entries_respelled h plan fixture primaryFails⟩

theorem build_respelled_iff_slashes :
    Path.Respelled "js/arrows" "js/.//arrows/" ∧
      let plan := build "js/arrows" [.babel] {} {}
      let plan' := build "js/.//arrows/" [.babel] {} {}
      plan.area = plan'.area ∧ plan.requested = plan'.requested ∧ plan.grammars = plan'.grammars ∧
        plan.options = plan'.options ∧ ∀ fixture primaryFails exceptions,
          plan.entries (plan.relativePath fixture) primaryFails exceptions =
            plan'.entries (plan'.relativePath fixture) primaryFails exceptions := by
  have hrespelled : Path.Respelled "js/arrows" "js/.//arrows/" :=
    ⟨by decide, by decide, by decide +kernel, by decide +kernel, by decide +kernel⟩
  exact ⟨hrespelled, (build_respelled_iff hrespelled [.babel] {} {}).2 (.inl (by decide +kernel))⟩

/-- A dot at the front of a directory takes the alternate grammars out of its plan. -/
theorem build_depends_on_spelling :
    Path.Respelled "js/arrows" "./js/arrows" ∧
      let plan := build "js/arrows" [.babel] {} {}
      let plan' := build "./js/arrows" [.babel] {} {}
      plan.area = .generalPurpose ∧ plan'.area = .other ∧
        plan.grammars = [.babel, .espree, .meriyah, .acorn, .babelEstree].map some ∧
        plan'.grammars = [.babel, .babelEstree].map some :=
  ⟨⟨by decide, by decide, by decide +kernel, by decide +kernel, by decide +kernel⟩,
    by decide +kernel⟩

end Plan

end FormatConformance
