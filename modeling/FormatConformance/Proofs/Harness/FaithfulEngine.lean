import FormatConformance.Proofs.Check.Outputs
import FormatConformance.Proofs.Harness.Preparation
import FormatConformance.Proofs.Harness.Verdicts
import FormatConformance.Proofs.Marker.Substitution

/-!
No false alarms. An engine that returns every text as it is, with the cursor where the options have
it, passes all checks of every entry, wherever the markers of a fixture stand: what comes out is the
fixture with its cursor, for the fixture itself and for each text that the probes make of it.
-/

namespace FormatConformance

open LineEnding

namespace Pass

variable {code : Text} {options : Options}

theorem echoed_unchanged (code : Text) (options : Options) :
    (echoed code options).changed = false := by
  simp [echoed, ofAnswer]

theorem echoed_outputWithCursor (h : options.offsets = {}) :
    (echoed code options).outputWithCursor =
      withCursor (Offsets.strip code).1 (Offsets.strip code).2.cursor := by
  simp [echoed, ofAnswer, sent, Options.withOffsets, h]

theorem echoed_substitute (h : options.offsets = {}) (ending : LineEnding) :
    (echoed (substitute ending code) options).outputWithCursor =
      substitute ending (echoed code options).outputWithCursor := by
  rw [echoed_outputWithCursor h, echoed_outputWithCursor h, Offsets.strip_substitute]
  exact withCursor_substitute ending _ _

theorem echoed_byteOrderMark (h : options.offsets = {}) :
    (echoed (byteOrderMark :: code) options).outputWithCursor =
      byteOrderMark :: (echoed code options).outputWithCursor := by
  rw [echoed_outputWithCursor h, echoed_outputWithCursor h, Offsets.strip_byteOrderMark]
  exact withCursor_cons byteOrderMark _ _

theorem echoed_checkEndOfLine (h : options.offsets = {}) (hcode : '\r' ∉ code) :
    (echoed code options).checkEndOfLine = .ok () := by
  have hinput : '\r' ∉ (Offsets.strip code).1 :=
    fun hmem => hcode ((Offsets.strip_sublist code).subset hmem)
  have houtput : '\r' ∉ (echoed code options).outputWithCursor := by
    rw [echoed_outputWithCursor h, mem_withCursor_iff (by decide)]
    exact hinput
  exact (checkEndOfLine_eq_ok_iff (run_echo code options)).2 (uniform_of_no_return houtput)

end Pass

namespace Subject

variable {code : Text} {options : Options}

def echoed (code : Text) (options : Options) : Subject :=
  ⟨.echo, code, options, Pass.echoed code options⟩

theorem echoed_checkSettled : ((echoed code options).checkSettled false).Passes := by
  have h := Pass.echoed_unchanged code options
  simp [checkSettled, echoed, h]

theorem echoed_checkTree (unstable : Bool) : ((echoed code options).checkTree unstable).Passes := by
  have h := Pass.echoed_unchanged code options
  simp [checkTree, echoed, h]

theorem echoed_checkEnding (h : options.offsets = {}) (hkeeps : options.keepsEndOfLine = true)
    (ending : LineEnding) : ((echoed code options).checkEnding ending).Passes := by
  have hprobed : (echoed code options).probedOutput ending =
      spellOut (substitute ending (Pass.echoed code options).outputWithCursor) := by
    simp [probedOutput, echoed, hkeeps]
  rw [checkEnding_passes_iff (Pass.run_echo _ _), hprobed]
  exact congrArg spellOut (Pass.echoed_substitute h ending).symm

theorem echoed_checkEndings (h : options.offsets = {}) (hkeeps : options.keepsEndOfLine = true) :
    (echoed code options).checkEndings.Passes := by
  unfold checkEndings
  split
  · exact Check.passes_pure
  · exact Check.passes_forM_iff.2 fun ending _ => echoed_checkEnding h hkeeps ending

theorem echoed_checkByteOrderMark (h : options.offsets = {}) :
    (echoed code options).checkByteOrderMark.Passes := by
  unfold checkByteOrderMark
  split
  · exact Check.passes_pure
  · refine Check.passes_bind_iff.2 ⟨_, format_value_of_run (Pass.run_echo _ _), ?_⟩
    rw [Check.passes_require_iff, agree_eq_ok_iff,
      Pass.spelledOutput_of_run (Pass.run_echo _ _)]
    -- What is expected has the mark in front of the spelled out text, not in front of the text.
    have hspelled := spellOut_cons_of_ne (show byteOrderMark ≠ '\r' by decide)
      (Pass.echoed code options).outputWithCursor
    rw [echoed, Pass.spelledOutput_of_run (Pass.run_echo _ _), ← hspelled]
    exact congrArg spellOut (Pass.echoed_byteOrderMark h).symm

end Subject

theorem Options.keepsEndOfLine_put (options : Options) {key : String} (value : Json)
    (h : "endOfLine" ≠ key) : (options.put key value).keepsEndOfLine = options.keepsEndOfLine := by
  simp only [keepsEndOfLine, endOfLine?, get?, put, Fields.lookup_insert_of_ne _ _ h]

/-- Options that keep the terminators of a fixture and ask neither for failures nor for offsets. -/
structure Options.Undemanding (options : Options) : Prop where
  keepsEndOfLine : options.keepsEndOfLine = true
  errors : options.errors = none
  offsets : options.offsets = {}

namespace Options.Undemanding

variable {options : Options}

instance : Decidable options.Undemanding :=
  decidable_of_iff (options.keepsEndOfLine = true ∧ options.errors = none ∧ options.offsets = {})
    ⟨fun ⟨hkeeps, herrors, hoffsets⟩ => ⟨hkeeps, herrors, hoffsets⟩,
      fun h => ⟨h.keepsEndOfLine, h.errors, h.offsets⟩⟩

theorem withParser (h : options.Undemanding) (grammar : Option Grammar) :
    (options.withParser grammar).Undemanding :=
  ⟨h.keepsEndOfLine, h.errors, h.offsets⟩

theorem expectsFailure (h : options.Undemanding) (fixture : String) :
    options.expectsFailure fixture = false := by
  simp [Options.expectsFailure, h.errors]

theorem optionsFor {plan : Plan} (h : plan.options.Undemanding) (fixture : Fixture) :
    (plan.optionsFor fixture).Undemanding := by
  unfold Plan.optionsFor
  split
  · exact ⟨h.keepsEndOfLine, h.errors, h.offsets⟩
  · have hput : (plan.options.put "printWidth" (.int defaultPrintWidth)).keepsEndOfLine = true := by
      rw [keepsEndOfLine_put _ _ (by decide), h.keepsEndOfLine]
    exact ⟨hput, h.errors, h.offsets⟩

theorem build (h : options.Undemanding) {directory : String}
    (harea : Area.ofDirectory directory ≠ .errors) (requested : List Grammar)
    (exceptions : Exceptions) :
    (Plan.build directory requested options exceptions).options.Undemanding := by
  refine ⟨h.keepsEndOfLine, ?_, h.offsets⟩
  simp only [Plan.build, if_neg harea]
  exact h.errors

end Options.Undemanding

namespace Examiner

variable {x : Examiner} {s : Slot}

theorem attempt_echo (hengine : x.engine = .echo) (grammar : Option Grammar) :
    x.attempt s grammar = .ok (Pass.echoed s.fixture.code (s.optionsUnder grammar)) := by
  rw [attempt, hengine, Pass.run_echo]

theorem passesDeepChecks_echo (hengine : x.engine = .echo) (hunstable : x.exceptions.unstable = [])
    {grammar : Option Grammar} (hoptions : (s.optionsUnder grammar).Undemanding) :
    x.PassesDeepChecks s grammar (Pass.echoed s.fixture.code (s.optionsUnder grammar)) := by
  have hsettled : (s.relative.any fun path =>
      x.exceptions.isUnstable path (s.optionsUnder grammar)) = false := by
    simp [Exceptions.isUnstable, Exceptions.holds, hunstable]
  simp only [PassesDeepChecks, hengine, hsettled]
  exact ⟨Subject.echoed_checkSettled, Subject.echoed_checkTree _,
    Subject.echoed_checkEndings hoptions.offsets hoptions.keepsEndOfLine,
    Subject.echoed_checkByteOrderMark hoptions.offsets⟩

theorem accepts_echo (hengine : x.engine = .echo) (hunstable : x.exceptions.unstable = [])
    (hoptions : s.plan.options.Undemanding) (houtput : s.fixture.output = none)
    (hcode : '\r' ∉ s.fixture.code) : x.Accepts s := by
  have hunder : ∀ grammar, (s.optionsUnder grammar).Undemanding :=
    (hoptions.optionsFor s.fixture).withParser
  have hexpects : ∀ grammar, s.expectsFailure grammar = false :=
    fun grammar => (hunder grammar).expectsFailure s.fixture.name
  have hline := fun grammar => Pass.echoed_checkEndOfLine (hunder grammar).offsets hcode
  simp only [Accepts, hexpects, attempt_echo hengine, Except.ok.injEq, exists_eq_left', houtput,
    Bool.false_eq_true, ↓reduceIte]
  split
  · exact ⟨hline _, fun _ => passesDeepChecks_echo hengine hunstable (hunder _)⟩
  · refine ⟨_, _, rfl, rfl, hline _, ?_⟩
    rw [Pass.spelledOutput_of_run (Pass.run_echo _ _),
      Pass.echoed_outputWithCursor (hunder _).offsets,
      Pass.echoed_outputWithCursor (hunder _).offsets]

end Examiner

namespace Sample

def isUndemanding : Bool :=
  match readSpecification (tree repeatedRuns) "d",
    prepareDirectory {} settings (tree repeatedRuns) "d" with
  | .ok declared, .ok runs =>
    (declared.all fun run => run.options.Undemanding) && (schedule {} runs).length == 2 &&
      runs.all fun run => run.fixtures.all fun fixture =>
        fixture.output.isNone && !fixture.code.contains '\r'
  | _, _ => false

theorem exists_undemanding : ∃ declared runs,
    readSpecification (tree repeatedRuns) "d" = .ok declared ∧
      (∀ run ∈ declared, run.options.Undemanding) ∧
      prepareDirectory {} settings (tree repeatedRuns) "d" = .ok runs ∧
      (schedule {} runs).length = 2 ∧
      ∀ run ∈ runs, ∀ fixture ∈ run.fixtures, fixture.output = none ∧ '\r' ∉ fixture.code := by
  have h : isUndemanding = true := by decide +kernel
  unfold isUndemanding at h
  split at h
  · rename_i declared runs hread hruns
    simp only [Bool.and_eq_true, List.all_eq_true, decide_eq_true_eq, beq_iff_eq,
      Option.isNone_iff_eq_none, Bool.not_eq_true', List.contains_eq_mem, decide_eq_false_iff_not]
      at h
    obtain ⟨⟨hdeclared, hlength⟩, hfixtures⟩ := h
    exact ⟨declared, runs, hread, hdeclared, hruns, hlength, hfixtures⟩
  · cases h

end Sample

namespace Harness

/-- No entry fails if the engine returns every text as it is, in deep runs and in others, no matter
where the markers of the fixtures stand. -/
theorem runDirectory_echo_passes {exceptions : Exceptions} {settings : Settings} {tree : FileTree}
    {dir : String} {declared : Specification} {runs : List PreparedRun}
    (hunstable : exceptions.unstable = [])
    (harea : Area.ofDirectory (settings.relative dir) ≠ .errors)
    (hread : readSpecification tree dir = .ok declared)
    (hdeclared : ∀ run ∈ declared, run.options.Undemanding)
    (hruns : prepareDirectory exceptions settings tree dir = .ok runs)
    (hfixtures : ∀ run ∈ runs, ∀ fixture ∈ run.fixtures,
      fixture.output = none ∧ '\r' ∉ fixture.code) :
    ∃ report,
      ((inMemory .echo exceptions settings).runDirectory tree dir []).value.1 = .ok report ∧
      ∀ outcome ∈ report, outcome.result = .ok () := by
  obtain ⟨ledger, hrun, -⟩ := runDirectory_inMemory .echo hruns []
  rw [Examiner.outcomesAfter_nil] at hrun
  refine ⟨_, congrArg Prod.fst hrun, ?_⟩
  intro outcome houtcome
  rw [List.map_map, List.mem_map] at houtcome
  obtain ⟨slot, hslot, rfl⟩ := houtcome
  refine (Examiner.ownResult_examined_iff hslot).2 ?_
  obtain ⟨run, hmem, fixture, hfixture, hslots⟩ := mem_schedule.1 hslot
  obtain ⟨hplan, hsame, -, -⟩ := Plan.entry_of_mem_slots hslots
  obtain ⟨declaration, hdeclaration, hbuilt⟩ := exists_declaration hread hruns hmem
  have hoptions : slot.plan.options.Undemanding := by
    rw [hplan, hbuilt]
    exact (hdeclared declaration hdeclaration).build harea _ _
  obtain ⟨houtput, hcode⟩ := hfixtures run hmem fixture hfixture
  rw [← hsame] at houtput hcode
  exact Examiner.accepts_echo rfl hunstable hoptions houtput hcode

theorem echo_passes_repeatedRuns :
    ∃ declared runs,
      readSpecification (Sample.tree Sample.repeatedRuns) "d" = .ok declared ∧
      (∀ run ∈ declared, run.options.Undemanding) ∧
      prepareDirectory {} Sample.settings (Sample.tree Sample.repeatedRuns) "d" = .ok runs ∧
      (schedule {} runs).length = 2 ∧
      ∃ report,
        ((inMemory .echo {} Sample.settings).runDirectory (Sample.tree Sample.repeatedRuns) "d"
          []).value.1 = .ok report ∧
        ∀ outcome ∈ report, outcome.result = .ok () := by
  obtain ⟨declared, runs, hread, hdeclared, hruns, hlength, hfixtures⟩ := Sample.exists_undemanding
  have harea : Area.ofDirectory (Sample.settings.relative "d") ≠ .errors := by decide +kernel
  exact ⟨declared, runs, hread, hdeclared, hruns, hlength,
    runDirectory_echo_passes rfl harea hread hdeclared hruns hfixtures⟩

end Harness

end FormatConformance
