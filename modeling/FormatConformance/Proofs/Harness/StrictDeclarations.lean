import FormatConformance.Proofs.Harness.SetupFaults
import FormatConformance.Proofs.Plan.Readers

/-!
Strict runs of a directory. They are carried out exactly if every declared run names grammars, and
has for each fixture of a known language one that reads it. This says nothing where no run is
declared, as in a specification that is an empty list.
-/

namespace FormatConformance

theorem Area.ofDirectory_ne_inference {directory : String}
    (h : Path.startsWith directory inferenceDirectory = false) :
    ofDirectory directory ≠ inference := by
  unfold ofDirectory
  rw [h]
  split
  · nofun
  · rw [if_neg Bool.false_ne_true]
    split
    · nofun
    · split <;> nofun

structure Declaration.Complete (tree : FileTree) (dir : String) (run : Declaration) : Prop where
  asks : run.parsers ≠ []
  reads : ∃ fixtures, loadFixtures tree dir run.snippets = .ok fixtures ∧
    ∀ fixture ∈ fixtures, ∀ language, fixture.language? = some language →
      ∃ grammar ∈ run.parsers, grammar.reads language = true

section Preparing

variable {exceptions : Exceptions} {settings : Settings} {tree : FileTree} {dir : String}

theorem exists_prepared_strict_iff {run : Declaration} (hstrict : settings.checkReaders = true)
    (harea : Area.ofDirectory (settings.relative dir) ≠ .inference) :
    (∃ prepared, prepare exceptions settings tree dir run = .ok prepared) ↔
      run.Complete tree dir := by
  rw [exists_prepared_iff]
  constructor
  · intro hfaultless
    cases hload : loadFixtures tree dir run.snippets with
    | error error => exact absurd (.unloaded hload) (hfaultless (.file error))
    | ok fixtures =>
      have hcheck : checkReaders dir (Area.ofDirectory (settings.relative dir)) fixtures
          run.parsers = .ok () := by
        cases hcheck : checkReaders dir (Area.ofDirectory (settings.relative dir)) fixtures
            run.parsers with
        | ok => rfl
        | error error =>
          exact absurd (.unreadable hload hstrict hcheck) (hfaultless (.readers error))
      obtain ⟨hasks, hread⟩ := (checkReaders_eq_ok_iff harea).1 hcheck
      exact ⟨hasks, fixtures, hload, fun fixture hfixture =>
        Fixture.readBy_iff.1 (hread fixture hfixture)⟩
  · rintro ⟨hasks, fixtures, hload, hread⟩ error hfault
    cases hfault with
    | unloaded hunloaded =>
      rw [hload] at hunloaded
      cases hunloaded
    | unreadable hload' _ hunreadable =>
      obtain rfl := Except.ok.inj (hload.symm.trans hload')
      have hcheck : checkReaders dir (Area.ofDirectory (settings.relative dir)) fixtures
          run.parsers = .ok () :=
        (checkReaders_eq_ok_iff harea).2
          ⟨hasks, fun fixture hfixture => Fixture.readBy_iff.2 (hread fixture hfixture)⟩
      rw [hcheck] at hunreadable
      cases hunreadable

theorem exists_runs_strict_iff (hstrict : settings.checkReaders = true)
    (harea : Area.ofDirectory (settings.relative dir) ≠ .inference) :
    (∃ runs, prepareDirectory exceptions settings tree dir = .ok runs) ↔
      ∃ declared, readSpecification tree dir = .ok declared ∧
        ∀ run ∈ declared, run.Complete tree dir := by
  unfold prepareDirectory
  simp only [bind_eq_ok_iff]
  rw [exists_comm]
  apply exists_congr
  intro declared
  rw [exists_and_left, exists_mapM_eq_ok_iff]
  simp only [exists_prepared_strict_iff hstrict harea]

end Preparing

namespace Specification

theorem ofJson_eq_ok_nil_iff {value : Json} : ofJson value = .ok [] ↔ value = .array [] := by
  have hone : ∀ run, (do return [← Declaration.ofJson run] : Except String Specification) ≠
      .ok [] := by
    intro run hrun
    obtain ⟨_, -, hlist⟩ := bind_eq_ok_iff.1 hrun
    cases hlist
  cases value with
  | array runs =>
    rw [ofJson, mapM_eq_ok_iff, List.forall₂_nil_right_iff, Json.array.injEq]
  | _ => exact iff_of_false (hone _) nofun

theorem read_eq_ok_nil_iff {source : String} :
    read source = .ok [] ↔ Json.read source = .ok (.array []) := by
  unfold read
  simp only [bind_eq_ok_iff, mapError_eq_ok_iff, ofJson_eq_ok_nil_iff, exists_eq_right]

end Specification

namespace Sample

def completeRuns : String :=
  "[\x7b\"parsers\":[\"babel\"]\x7d,\x7b\"parsers\":[\"css\",\"flow\"],\"snippets\":[\"a\"]\x7d]"

theorem read_empty_list : Specification.read "[]" = .ok [] := by
  have hempty : (Specification.read "[]").toOption.any List.isEmpty = true := by decide +kernel
  cases hread : Specification.read "[]" with
  | ok declared =>
    rw [hread] at hempty
    exact congrArg Except.ok (List.isEmpty_iff.1 hempty)
  | error error =>
    rw [hread] at hempty
    cases hempty

end Sample

namespace Harness

variable {σ : Type} {tree : FileTree} {dir : String}

theorem exists_report_iff (h : Harness σ) (state : σ) :
    (∃ report, (h.runDirectory tree dir state).value.1 = .ok report) ↔
      ∃ runs, prepareDirectory h.exceptions h.settings tree dir = .ok runs := by
  cases hprepared : prepareDirectory h.exceptions h.settings tree dir with
  | ok runs =>
    rw [h.runDirectory_value hprepared]
    exact iff_of_true ⟨_, rfl⟩ ⟨runs, rfl⟩
  | error error =>
    rw [h.runDirectory_of_error hprepared]
    exact iff_of_false nofun nofun

/-- Outside of the directories where the engine chooses, a strict run ends with a report exactly if
the specification is understood and each of its runs is complete. No run is declared only where the
specification is an empty list, which is let through as well. -/
theorem runDirectory_strict_iff (h : Harness σ) (hstrict : h.settings.checkReaders = true)
    (houtside : Path.startsWith (h.settings.relative dir) Area.inferenceDirectory = false)
    (tree : FileTree) (state : σ) :
    (∃ report, (h.runDirectory tree dir state).value.1 = .ok report) ↔
      ∃ source declared, tree.readText (Path.join dir specificationFile) = .ok source ∧
        Specification.read source = .ok declared ∧
        (declared = [] ↔ Json.read source = .ok (.array [])) ∧
        ∀ run ∈ declared, run.Complete tree dir := by
  rw [exists_report_iff, exists_runs_strict_iff hstrict (Area.ofDirectory_ne_inference houtside)]
  simp only [readSpecification_eq_ok_iff]
  constructor
  · rintro ⟨declared, ⟨source, hsource, hread⟩, hcomplete⟩
    have hnone : declared = [] ↔ Json.read source = .ok (.array []) := by
      rw [← Specification.read_eq_ok_nil_iff, hread, Except.ok.injEq]
    exact ⟨source, declared, hsource, hread, hnone, hcomplete⟩
  · rintro ⟨source, declared, hsource, hread, -, hcomplete⟩
    exact ⟨declared, ⟨source, hsource, hread⟩, hcomplete⟩

theorem strict_iff_completeRuns :
    Sample.strict.checkReaders = true ∧
      Path.startsWith (Sample.strict.relative "d") Area.inferenceDirectory = false ∧
      let tree := Sample.tree Sample.completeRuns
      (∃ report, ((inMemory .echo {} Sample.strict).runDirectory tree "d" []).value.1 =
        .ok report) ∧
        ∃ source declared, tree.readText (Path.join "d" specificationFile) = .ok source ∧
          Specification.read source = .ok declared ∧
          (declared = [] ↔ Json.read source = .ok (.array [])) ∧
          ∀ run ∈ declared, run.Complete tree "d" := by
  have hstrict : Sample.strict.checkReaders = true := rfl
  have houtside : Path.startsWith (Sample.strict.relative "d") Area.inferenceDirectory = false := by
    decide +kernel
  have hruns : ∃ runs, prepareDirectory {} Sample.strict (Sample.tree Sample.completeRuns) "d" =
      .ok runs := exists_of_isOk (by decide +kernel)
  let h := inMemory .echo {} Sample.strict
  have hiff := runDirectory_strict_iff h hstrict houtside (Sample.tree Sample.completeRuns) []
  have hreport := (h.exists_report_iff []).2 hruns
  exact ⟨hstrict, houtside, hreport, hiff.1 hreport⟩

/-- A strict run is carried out although no run is declared and no grammar named. -/
theorem runDirectory_strict_without_declaration :
    Sample.strict.checkReaders = true ∧
      Path.startsWith (Sample.strict.relative "d") Area.inferenceDirectory = false ∧
      (∃ report,
        ((inMemory .echo {} Sample.strict).runDirectory (Sample.tree "[]") "d" []).value.1 =
          .ok report) ∧
      Specification.read "[]" = .ok [] := by
  have hruns : ∃ runs, prepareDirectory {} Sample.strict (Sample.tree "[]") "d" = .ok runs :=
    exists_of_isOk (by decide +kernel)
  exact ⟨rfl, by decide +kernel, (exists_report_iff _ _).2 hruns, Sample.read_empty_list⟩

end Harness

end FormatConformance
