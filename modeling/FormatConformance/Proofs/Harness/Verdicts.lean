import Mathlib.Data.List.Forall2
import FormatConformance.Proofs.Check.Passing
import FormatConformance.Proofs.Harness.Schedule

/-!
Verdicts. `Examiner.Accepts` says of a slot what has to be true of the engine for its entry to pass,
by the expectations declared for the entry's grammar and for the primary one. The main statement is
that a run over an empty store reports the slots of its schedule in their order, each of them as
passed exactly if it is accepted.
-/

namespace FormatConformance

def Primary.expected? : Primary → Option (Option Text)
  | formatted main => some (some main.outputWithCursor)
  | expectedFailure => some none
  | failed _ => none

namespace Examiner

def attempt (x : Examiner) (s : Slot) (grammar : Option Grammar) : Except Rejection Pass :=
  (Pass.run x.engine s.fixture.code (s.optionsUnder grammar)).value

def PassesDeepChecks (x : Examiner) (s : Slot) (grammar : Option Grammar) (pass : Pass) : Prop :=
  let options := s.optionsUnder grammar
  let subject : Subject := ⟨x.engine, s.fixture.code, options, pass⟩
  (subject.checkSettled (s.relative.any fun path => x.exceptions.isUnstable path options)).Passes ∧
    (subject.checkTree
      (s.relative.any fun path => x.exceptions.isTreeUnstable path options)).Passes ∧
    subject.checkEndings.Passes ∧ subject.checkByteOrderMark.Passes

/-- A pass is sound if it keeps to one terminator and is the expected output; where no output is
expected, deep runs want the deep checks to pass. -/
def Sound (x : Examiner) (s : Slot) (grammar : Option Grammar) (pass : Pass)
    (expected : Option Text) : Prop :=
  pass.checkEndOfLine = .ok () ∧
    match expected with
    | some text => LineEnding.spellOut text = pass.spelledOutput
    | none => x.deep = true → x.PassesDeepChecks s grammar pass

/-- When the entry of a slot passes, as far as no baseline decides it. -/
def Accepts (x : Examiner) (s : Slot) : Prop :=
  let grammar := s.entry.grammar
  let primary := s.plan.primary
  if s.expectsFailure grammar then ∃ cause, x.attempt s grammar = .error cause
  else if s.expectsFailure primary then
    ∃ pass, x.attempt s grammar = .ok pass ∧ x.Sound s grammar pass none
  else if grammar = primary then
    ∃ pass, x.attempt s grammar = .ok pass ∧ x.Sound s grammar pass s.fixture.output
  else
    ∃ main pass, x.attempt s primary = .ok main ∧ x.attempt s grammar = .ok pass ∧
      x.Sound s grammar pass (some main.outputWithCursor)

def trialOf (s : Slot) (primary : Primary) : Trial :=
  ⟨s.plan, s.fixture, s.title, s.options, primary⟩

theorem trial_value (x : Examiner) (s : Slot) :
    (x.trial s.plan s.fixture).value = trialOf s (x.primaryPass s.fixture s.options).value := rfl

theorem primaryPass_of_expected {x : Examiner} {s : Slot}
    (h : s.expectsFailure s.plan.primary = true) :
    (x.primaryPass s.fixture s.options).value = .expectedFailure := by
  rw [Slot.expectsFailure_primary] at h
  simp [primaryPass, h]

theorem primaryPass_of_not_expected {x : Examiner} {s : Slot}
    (h : s.expectsFailure s.plan.primary = false) :
    (x.primaryPass s.fixture s.options).value =
      match x.attempt s s.plan.primary with
      | .ok pass => .formatted pass
      | .error cause => .failed cause := by
  rw [Slot.expectsFailure_primary] at h
  simp only [primaryPass, h, attempt, Slot.optionsUnder_primary, Logged.bind_value,
    Bool.false_eq_true, ↓reduceIte]
  cases (Pass.run x.engine s.fixture.code s.options).value <;> rfl

theorem examineEntry_of_expected (x : Examiner) (s : Slot) :
    x.examineEntry (trialOf s .expectedFailure) s.entry =
      x.crossCheck (trialOf s .expectedFailure) s.entry := by
  unfold examineEntry
  cases s.entry.role <;> rfl

variable {x : Examiner} {s : Slot}

theorem run_trialOf (primary : Primary) (grammar : Option Grammar) :
    (Pass.run x.engine (trialOf s primary).fixture.code (s.optionsUnder grammar)).value =
      x.attempt s grammar := rfl

def findingOf (x : Examiner) (s : Slot) (grammar : Option Grammar) (pass : Pass)
    (expected : Option Text) : Finding :=
  if x.deep && expected.isNone then
    .recorded (Record.ofPass pass s.plan.requested (s.optionsUnder grammar))
  else .passed

/-- The output that is expected where an entry formats its fixture, if there is one: the declared
one for the primary entry and the output under the primary grammar for any other one. -/
def Wants (x : Examiner) (s : Slot) (expected : Option Text) : Prop :=
  if s.expectsFailure s.plan.primary then expected = none
  else if s.entry.grammar = s.plan.primary then expected = s.fixture.output
  else ∃ main, x.attempt s s.plan.primary = .ok main ∧ expected = some main.outputWithCursor

def Finds (x : Examiner) (s : Slot) (finding : Finding) : Prop :=
  if s.expectsFailure s.entry.grammar then
    ∃ cause, x.attempt s s.entry.grammar = .error cause ∧
      finding = .rejected cause.message.toList
  else ∃ expected pass, x.Wants s expected ∧ x.attempt s s.entry.grammar = .ok pass ∧
    x.Sound s s.entry.grammar pass expected ∧
    finding = x.findingOf s s.entry.grammar pass expected

theorem ownResult_of_finds {finding : Finding} (h : x.Finds s finding) :
    finding.ownResult = .ok () := by
  unfold Finds at h
  split at h
  · obtain ⟨cause, -, rfl⟩ := h
    rfl
  · obtain ⟨expected, pass, -, -, -, rfl⟩ := h
    unfold findingOf
    split <;> rfl

theorem accepts_iff_exists_finds : x.Accepts s ↔ ∃ finding, x.Finds s finding := by
  unfold Accepts Finds Wants
  dsimp only
  split
  · constructor
    · intro ⟨cause, h⟩
      exact ⟨_, cause, h, rfl⟩
    · intro ⟨_, cause, h, _⟩
      exact ⟨cause, h⟩
  · split
    · constructor
      · intro ⟨pass, h, hsound⟩
        exact ⟨_, none, pass, rfl, h, hsound, rfl⟩
      · intro ⟨_, _, pass, hnone, h, hsound, _⟩
        exact ⟨pass, h, hnone ▸ hsound⟩
    · split
      · constructor
        · intro ⟨pass, h, hsound⟩
          exact ⟨_, _, pass, rfl, h, hsound, rfl⟩
        · intro ⟨_, _, pass, hdeclared, h, hsound, _⟩
          exact ⟨pass, h, hdeclared ▸ hsound⟩
      · constructor
        · intro ⟨main, pass, hmain, h, hsound⟩
          exact ⟨_, _, pass, ⟨main, hmain, rfl⟩, h, hsound, rfl⟩
        · intro ⟨_, _, pass, ⟨main, hmain, hout⟩, h, hsound, _⟩
          exact ⟨main, pass, hmain, h, hout ▸ hsound⟩

section

variable {finding : Finding} (hown : finding.ownResult = .ok ())

include hown

theorem failed_ne (failure : Failure) : .failed failure ≠ finding := by
  rintro rfl
  cases hown

theorem ofCheck_bind_eq_iff (c : Check Unit) (next : Unit → Check Finding) :
    Finding.ofCheck (c >>= next).run.value = finding ↔
      c.Passes ∧ Finding.ofCheck (next ()).run.value = finding := by
  rw [ExceptT.run_bind, Logged.bind_value, Check.Passes]
  cases c.run.value with
  | ok => simp
  | error failure => exact iff_of_false (failed_ne hown failure) fun h => nomatch h.1

theorem verify_eq_iff (primary : Primary) (grammar : Option Grammar) (entry : Entry) (pass : Pass)
    (expected : Option Text) :
    Finding.ofCheck (x.verify (trialOf s primary) entry pass expected
        (s.optionsUnder grammar)).run.value = finding ↔
      x.Sound s grammar pass expected ∧ finding = x.findingOf s grammar pass expected := by
  unfold verify Sound
  rw [ofCheck_bind_eq_iff hown, Check.passes_require_iff, and_assoc]
  refine and_congr_right fun _ => ?_
  cases expected with
  | some text =>
    simp only [ofCheck_bind_eq_iff hown, Check.passes_require_iff, Pass.checkOutput,
      agree_eq_ok_iff, findingOf, Option.isNone_some, Bool.and_false, Bool.false_eq_true,
      ↓reduceIte]
    exact and_congr_right fun _ => eq_comm
  | none =>
    simp only [findingOf, Option.isNone_none, Bool.and_true]
    cases hdeep : x.deep with
    | false =>
      simp only [Bool.not_false, Bool.false_eq_true, ↓reduceIte, false_implies, true_and]
      exact eq_comm
    | true =>
      simp only [Bool.not_true, Bool.false_eq_true, ↓reduceIte, forall_const]
      rw [ofCheck_bind_eq_iff hown, Subject.checkDeeply_passes_iff]
      exact and_congr_right fun _ => eq_comm

theorem checkRejection_eq_iff (primary : Primary) (entry : Entry) (grammar : Option Grammar) :
    (x.checkRejection (trialOf s primary) entry (s.optionsUnder grammar)).value = finding ↔
      ∃ cause, x.attempt s grammar = .error cause ∧
        finding = .rejected cause.message.toList := by
  unfold checkRejection
  rw [Logged.bind_value, run_trialOf]
  cases x.attempt s grammar with
  | ok pass => exact iff_of_false (failed_ne hown _) fun ⟨_, h, _⟩ => nomatch h
  | error cause => simp [eq_comm]

theorem checkAgreement_eq_iff (primary : Primary) (entry : Entry) (grammar : Option Grammar)
    (expected : Option Text) :
    (x.checkAgreement (trialOf s primary) entry (s.optionsUnder grammar) expected).value =
        finding ↔
      ∃ pass, x.attempt s grammar = .ok pass ∧ x.Sound s grammar pass expected ∧
        finding = x.findingOf s grammar pass expected := by
  unfold checkAgreement
  rw [Logged.bind_value, run_trialOf]
  cases x.attempt s grammar with
  | error cause => exact iff_of_false (failed_ne hown _) fun ⟨_, h, _⟩ => nomatch h
  | ok pass =>
    simp only [Except.ok.injEq, exists_eq_left']
    exact verify_eq_iff hown primary grammar entry pass expected

theorem crossCheck_eq_iff (primary : Primary) (hwants : ∀ expected, x.Wants s expected ↔
    primary.expected? = some expected) :
    (x.crossCheck (trialOf s primary) s.entry).value = finding ↔ x.Finds s finding := by
  have hexpects : (trialOf s primary).expectsFailure s.entry.grammar =
    s.expectsFailure s.entry.grammar := rfl
  unfold crossCheck Finds
  rw [hexpects]
  split
  · exact checkRejection_eq_iff hown primary s.entry s.entry.grammar
  · simp only [hwants, exists_and_left]
    cases primary with
    | formatted main =>
      refine (checkAgreement_eq_iff hown _ s.entry s.entry.grammar _).trans ?_
      simp [Primary.expected?]
    | expectedFailure =>
      refine (checkAgreement_eq_iff hown _ s.entry s.entry.grammar _).trans ?_
      simp [Primary.expected?]
    | failed cause =>
      refine iff_of_false (failed_ne hown _) ?_
      simp [Primary.expected?]

/-- What is found for a slot of the schedule, up to its failures. -/
theorem finding_eq_iff {runs : List PreparedRun} (hs : s ∈ schedule x.exceptions runs) :
    (x.examined s).finding = finding ↔ x.Finds s finding := by
  obtain ⟨run, -, fixture, -, hslot⟩ := mem_schedule.1 hs
  obtain ⟨hplan, -, -, hrole⟩ := Plan.entry_of_mem_slots hslot
  rw [← hplan] at hrole
  simp only [examined, trial_value]
  cases hprimary : s.expectsFailure s.plan.primary with
  | true =>
    rw [primaryPass_of_expected hprimary, examineEntry_of_expected]
    exact crossCheck_eq_iff hown _ fun expected => by
      simp [Wants, hprimary, Primary.expected?, eq_comm]
  | false =>
    rw [primaryPass_of_not_expected hprimary]
    cases hentry : s.entry.role with
    | primary =>
      obtain ⟨hgrammar, -⟩ := hrole.1 hentry
      have hfinds : x.Finds s finding ↔ ∃ pass, x.attempt s s.plan.primary = .ok pass ∧
          x.Sound s s.plan.primary pass s.fixture.output ∧
          finding = x.findingOf s s.plan.primary pass s.fixture.output := by
        simp [Finds, Wants, hgrammar, hprimary]
      simp only [hfinds, examineEntry, hentry]
      cases hmain : x.attempt s s.plan.primary with
      | error cause => exact iff_of_false (failed_ne hown _) fun ⟨_, h, _⟩ => nomatch h
      | ok main =>
        simp only [Except.ok.injEq, exists_eq_left']
        exact verify_eq_iff hown (.formatted main) s.plan.primary s.entry main s.fixture.output
    | crossCheck =>
      have hgrammar : s.entry.grammar ≠ s.plan.primary := by
        intro hgrammar
        rw [hrole.2 ⟨hgrammar, hprimary⟩] at hentry
        cases hentry
      simp only [examineEntry, hentry]
      refine crossCheck_eq_iff hown _ fun expected => ?_
      simp only [Wants, hprimary, hgrammar, Bool.false_eq_true, ↓reduceIte]
      cases x.attempt s s.plan.primary <;> simp [Primary.expected?, eq_comm]

end

theorem examined_iff_exists_finds {runs : List PreparedRun}
    (hs : s ∈ schedule x.exceptions runs) {p : Finding → Prop}
    (hp : ∀ finding, p finding → finding.ownResult = .ok ()) :
    p (x.examined s).finding ↔ ∃ finding, x.Finds s finding ∧ p finding := by
  constructor
  · intro h
    exact ⟨_, (finding_eq_iff (hp _ h) hs).1 rfl, h⟩
  · intro ⟨finding, hfinds, h⟩
    have hown := ownResult_of_finds hfinds
    rwa [(finding_eq_iff hown hs).2 hfinds]

theorem ownResult_examined_iff {runs : List PreparedRun} (hs : s ∈ schedule x.exceptions runs) :
    (x.examined s).finding.ownResult = .ok () ↔ x.Accepts s := by
  have hexists := examined_iff_exists_finds hs (x := x)
    (p := fun finding => finding.ownResult = .ok ()) fun _ h => h
  rw [hexists, accepts_iff_exists_finds]
  exact exists_congr fun finding => and_iff_left_of_imp ownResult_of_finds

end Examiner

namespace Harness

/-- Over an empty store, a run of a directory reports one outcome for each slot of its schedule, in
the order of the schedule, and as passed exactly those that are accepted. -/
theorem runDirectory_verdicts (engine : Engine) {exceptions : Exceptions} {settings : Settings}
    {tree : FileTree} {dir : String} {runs : List PreparedRun}
    (hruns : prepareDirectory exceptions settings tree dir = .ok runs) :
    ∃ report,
      ((inMemory engine exceptions settings).runDirectory tree dir []).value.1 = .ok report ∧
      List.Forall₂ (fun slot outcome =>
          outcome.fixture = slot.title ∧ outcome.title = slot.entry.title ∧
          outcome.grammar = slot.entry.grammar ∧
          (outcome.result = .ok () ↔ Examiner.Accepts ⟨engine, exceptions, settings.deep⟩ slot))
        (schedule exceptions runs) report := by
  obtain ⟨ledger, hrun, -⟩ := runDirectory_inMemory engine hruns []
  rw [Examiner.outcomesAfter_nil] at hrun
  refine ⟨_, congrArg Prod.fst hrun, ?_⟩
  rw [List.map_map, List.forall₂_map_right_iff, List.forall₂_same]
  intro slot hslot
  exact ⟨rfl, rfl, rfl, Examiner.ownResult_examined_iff hslot⟩

theorem runDirectory_verdicts_failingRuns :
    ∃ runs, prepareDirectory {} Sample.settings (Sample.tree Sample.failingRuns) "d" = .ok runs ∧
      (schedule {} runs).length = 4 ∧ ∃ report,
      ((inMemory .echo {} Sample.settings).runDirectory (Sample.tree Sample.failingRuns) "d"
        []).value.1 = .ok report ∧
      List.Forall₂ (fun slot outcome =>
          outcome.fixture = slot.title ∧ outcome.title = slot.entry.title ∧
          outcome.grammar = slot.entry.grammar ∧
          (outcome.result = .ok () ↔ Examiner.Accepts ⟨.echo, {}, true⟩ slot))
        (schedule {} runs) report := by
  obtain ⟨runs, hruns, hlength⟩ :=
    Sample.exists_runs (show Sample.hasSlots Sample.failingRuns 4 = true by decide +kernel)
  exact ⟨runs, hruns, hlength, runDirectory_verdicts .echo hruns⟩

end Harness

end FormatConformance
