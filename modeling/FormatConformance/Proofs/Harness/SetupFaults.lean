import FormatConformance.Proofs.Harness.Preparation
import FormatConformance.Proofs.Harness.Schedule

/-!
Faults of the setup. `SetupFault` says of the files and the settings alone which error the setup of
a directory has to end with: that of the specification, else that of the first declared run that
cannot be prepared. The main statement is that a run of a directory ends with an error exactly if
that is its fault, and that it then has neither called the engine nor touched the store.
-/

namespace FormatConformance

inductive SpecificationFault (tree : FileTree) (dir : String) : SetupError → Prop
  | unread {error : FileError} (unread : tree.readText (Path.join dir specificationFile) =
      .error error) : SpecificationFault tree dir (.file error)
  | malformed {source : String} {error : Json.Error}
      (text : tree.readText (Path.join dir specificationFile) = .ok source)
      (malformed : Specification.read source = .error error) :
      SpecificationFault tree dir (.specification (Path.join dir specificationFile) error)

inductive RunFault (settings : Settings) (tree : FileTree) (dir : String) (run : Declaration) :
    SetupError → Prop
  | unloaded {error : FileError} (unloaded : loadFixtures tree dir run.snippets = .error error) :
      RunFault settings tree dir run (.file error)
  | unreadable {fixtures : List Fixture} {error : ReaderError}
      (loaded : loadFixtures tree dir run.snippets = .ok fixtures)
      (checked : settings.checkReaders = true)
      (unreadable : checkReaders dir (Area.ofDirectory (settings.relative dir)) fixtures
        run.parsers = .error error) :
      RunFault settings tree dir run (.readers error)

/-- Why a directory cannot be set up. Runs behind the first one with a fault do not count. -/
inductive SetupFault (settings : Settings) (tree : FileTree) (dir : String) : SetupError → Prop
  | specification {error : SetupError} (fault : SpecificationFault tree dir error) :
      SetupFault settings tree dir error
  | run {source : String} {before after : Specification} {run : Declaration} {error : SetupError}
      (text : tree.readText (Path.join dir specificationFile) = .ok source)
      (declared : Specification.read source = .ok (before ++ run :: after))
      (earlier : ∀ other ∈ before, ∀ error, ¬ RunFault settings tree dir other error)
      (fault : RunFault settings tree dir run error) :
      SetupFault settings tree dir error

section Preparing

variable {exceptions : Exceptions} {settings : Settings} {tree : FileTree} {dir : String}
  {error : SetupError}

theorem readSpecification_eq_ok_iff {declared : Specification} :
    readSpecification tree dir = .ok declared ↔
      ∃ source, tree.readText (Path.join dir specificationFile) = .ok source ∧
        Specification.read source = .ok declared := by
  unfold readSpecification
  simp only [bind_eq_ok_iff, mapError_eq_ok_iff]

theorem readSpecification_eq_error_iff :
    readSpecification tree dir = .error error ↔ SpecificationFault tree dir error := by
  unfold readSpecification
  simp only [bind_eq_error_iff, mapError_eq_ok_iff, mapError_eq_error_iff]
  constructor
  · rintro (⟨_, hunread, rfl⟩ | ⟨source, hsource, _, hmalformed, rfl⟩)
    · exact .unread hunread
    · exact .malformed hsource hmalformed
  · rintro (⟨hunread⟩ | ⟨hsource, hmalformed⟩)
    · exact .inl ⟨_, hunread, rfl⟩
    · exact .inr ⟨_, hsource, _, hmalformed, rfl⟩

theorem Plan.build_area (directory : String) (requested : List Grammar) (options : Options)
    (exceptions : Exceptions) :
    (Plan.build directory requested options exceptions).area = Area.ofDirectory directory := rfl

theorem prepare_eq_error_iff {run : Declaration} :
    prepare exceptions settings tree dir run = .error error ↔
      RunFault settings tree dir run error := by
  unfold prepare
  simp only [bind_eq_error_iff, mapError_eq_ok_iff, mapError_eq_error_iff, Plan.build_area]
  constructor
  · rintro (⟨_, hunloaded, rfl⟩ | ⟨fixtures, hloaded, h⟩)
    · exact .unloaded hunloaded
    · split at h
      · rename_i hchecked
        obtain hcheck | ⟨_, _, h⟩ := bind_eq_error_iff.1 h
        · obtain ⟨_, hunreadable, rfl⟩ := mapError_eq_error_iff.1 hcheck
          exact .unreadable hloaded hchecked hunreadable
        · cases h
      · cases h
  · rintro (⟨hunloaded⟩ | ⟨hloaded, hchecked, hunreadable⟩)
    · exact .inl ⟨_, hunloaded, rfl⟩
    · refine .inr ⟨_, hloaded, ?_⟩
      rw [if_pos hchecked, bind_eq_error_iff]
      exact .inl (mapError_eq_error_iff.2 ⟨_, hunreadable, rfl⟩)

theorem exists_prepared_iff {run : Declaration} :
    (∃ prepared, prepare exceptions settings tree dir run = .ok prepared) ↔
      ∀ error, ¬ RunFault settings tree dir run error := by
  cases hprepare : prepare exceptions settings tree dir run with
  | ok prepared =>
    refine iff_of_true ⟨prepared, rfl⟩ fun error hfault => ?_
    have hfailed : prepare exceptions settings tree dir run = .error error :=
      prepare_eq_error_iff.2 hfault
    rw [hprepare] at hfailed
    cases hfailed
  | error error =>
    refine iff_of_false ?_ fun hnone => hnone error (prepare_eq_error_iff.1 hprepare)
    rintro ⟨_, h⟩
    cases h

theorem prepareDirectory_eq_error_iff :
    prepareDirectory exceptions settings tree dir = .error error ↔
      SetupFault settings tree dir error := by
  unfold prepareDirectory
  rw [bind_eq_error_iff, readSpecification_eq_error_iff]
  simp only [mapM_eq_error_iff, exists_prepared_iff, prepare_eq_error_iff,
    readSpecification_eq_ok_iff]
  constructor
  · rintro (hspecification | ⟨_, ⟨source, hsource, hread⟩, before, run, after, rfl, hbefore, hrun⟩)
    · exact .specification hspecification
    · exact .run hsource hread hbefore hrun
  · rintro (hspecification | ⟨hsource, hread, hbefore, hrun⟩)
    · exact .inl hspecification
    · exact .inr ⟨_, ⟨_, hsource, hread⟩, _, _, _, rfl, hbefore, hrun⟩

end Preparing

namespace Sample

def strict : Settings := { settings with checkReaders := true }

def laterFaults : String :=
  "[\x7b\"parsers\":[\"babel\"]\x7d,\x7b\"parsers\":[\"css\"]\x7d,\x7b\"parsers\":[]\x7d]"

def secondFault : SetupError := .readers (.unreadable "a.js" "d" [.css])

def hasFault (specification : String) (error : SetupError) : Bool :=
  match prepareDirectory {} strict (tree specification) "d" with
  | .ok _ => false
  | .error found => found == error

theorem prepareDirectory_of_hasFault {specification : String} {error : SetupError}
    (h : hasFault specification error = true) :
    prepareDirectory {} strict (tree specification) "d" = .error error := by
  unfold hasFault at h
  split at h
  · cases h
  · rename_i found hfound
    rw [hfound, eq_of_beq h]

end Sample

namespace Harness

variable {σ : Type} {tree : FileTree} {dir : String} {error : SetupError}

theorem runDirectory_of_error (h : Harness σ)
    (herror : prepareDirectory h.exceptions h.settings tree dir = .error error) (state : σ) :
    h.runDirectory tree dir state = ⟨(.error error, state), []⟩ := by
  simp only [runDirectory, herror, runPrepared]
  rfl

theorem runDirectory_eq_error_iff (h : Harness σ) (state : σ) :
    (h.runDirectory tree dir state).value.1 = .error error ↔
      prepareDirectory h.exceptions h.settings tree dir = .error error := by
  cases hprepared : prepareDirectory h.exceptions h.settings tree dir with
  | ok runs =>
    rw [h.runDirectory_value hprepared]
    exact iff_of_false nofun nofun
  | error found => rw [h.runDirectory_of_error hprepared, Except.error.injEq, Except.error.injEq]

/-- Setup is all or nothing: a run of a directory ends with an error exactly if the error is the
fault of its setup, and then no call was made and the store is as it was. -/
theorem runDirectory_setup_all_or_nothing (h : Harness σ) (tree : FileTree) (dir : String)
    (state : σ) (error : SetupError) :
    ((h.runDirectory tree dir state).value.1 = .error error ↔
      SetupFault h.settings tree dir error) ∧
    ((h.runDirectory tree dir state).value.1 = .error error →
      (h.runDirectory tree dir state).calls = [] ∧
        (h.runDirectory tree dir state).value.2 = state) := by
  refine ⟨(h.runDirectory_eq_error_iff state).trans prepareDirectory_eq_error_iff, fun herror => ?_⟩
  rw [h.runDirectory_of_error ((h.runDirectory_eq_error_iff state).1 herror)]
  exact ⟨rfl, rfl⟩

theorem setup_all_or_nothing_laterFaults :
    let h := inMemory .echo {} Sample.strict
    let state : Baselines := [("a.js › format", ['a'])]
    let outcome := h.runDirectory (Sample.tree Sample.laterFaults) "d" state
    outcome.value.1 = .error Sample.secondFault ∧
      SetupFault Sample.strict (Sample.tree Sample.laterFaults) "d" Sample.secondFault ∧
      outcome.calls = [] ∧ outcome.value.2 = state := by
  intro h state outcome
  have hprepare := Sample.prepareDirectory_of_hasFault
    (show Sample.hasFault Sample.laterFaults Sample.secondFault = true by decide +kernel)
  have hfault := prepareDirectory_eq_error_iff.1 hprepare
  obtain ⟨herror, hnothing⟩ := runDirectory_setup_all_or_nothing h
    (Sample.tree Sample.laterFaults) "d" state Sample.secondFault
  exact ⟨herror.2 hfault, hfault, hnothing (herror.2 hfault)⟩

end Harness

end FormatConformance
