import FormatConformance.Proofs.Harness.Consultation
import FormatConformance.Proofs.Harness.Conveyance
import FormatConformance.Proofs.Plan.Exclusions

/-!
Directories about failures. Where a run declares no failures itself, every attempt is expected to
fail: the entries of a fixture are those of the grammars asked for, each one makes one attempt of
its own, and nothing is parsed. What a run over an empty store leaves behind are the messages of the
attempts that were rejected.
-/

namespace FormatConformance

namespace Examiner

theorem settleAll_baselines_perm (counter : KeyCounter) (s : Baselines) (es : List Examined)
    (hnew : ∀ c ∈ consultations counter es, s.lookup c.key = none)
    (hdistinct : ((consultations counter es).map Consultation.key).Nodup) :
    (settleAll Baselines.store ⟨counter, s⟩ es).2.state.Perm
      ((consultations counter es).map (fun c => (c.key, c.question.text)) ++ s) := by
  induction es generalizing counter s with
  | nil => exact .refl _
  | cons e rest ih =>
    cases h : e.finding.question? with
    | none =>
      rw [consultations_of_none counter rest h] at hnew hdistinct ⊢
      simp only [settleAll, settle_of_question?_none _ _ h]
      exact ih counter s hnew hdistinct
    | some question =>
      rw [consultations_of_some counter rest h] at hnew hdistinct ⊢
      obtain ⟨hhead, hrest⟩ := List.forall_mem_cons.1 hnew
      obtain ⟨hfresh, hnodup⟩ := List.nodup_cons.1 hdistinct
      let next := counter.next e.title e.entry.title
      have hask : Baselines.store.ask next.1 question s =
          (.ok (), Fields.insert next.1 question.text s) := by
        rw [Baselines.ask_eq, Baselines.assertMatches_of_absent hhead]
      -- taking over one text leaves the keys of the others new
      have hlater : ∀ c ∈ consultations next.2 rest,
          (Fields.insert next.1 question.text s).lookup c.key = none := by
        intro c hc
        have hne : c.key ≠ next.1 := fun heq => hfresh (List.mem_map.2 ⟨c, hc, heq⟩)
        rw [Fields.lookup_insert_of_ne _ _ hne]
        exact hrest c hc
      have htail := ih next.2 (Fields.insert next.1 question.text s) hlater hnodup
      have hinserted := Fields.insert_perm_of_absent hhead question.text
      simp only [settleAll, settle_of_question?_some _ _ h, Ledger.compare]
      rw [hask]
      exact htail.trans ((hinserted.append_left _).trans List.perm_middle)

theorem nodup_consultations_keys (x : Examiner) (runs : List PreparedRun) :
    ((consultations [] ((schedule x.exceptions runs).map x.examined)).map
      Consultation.key).Nodup := by
  rw [consultations_keys]
  apply KeyCounter.Counts.start.nodup_handOut
  intro titles htitles
  obtain ⟨e, he, rfl⟩ := List.mem_map.1 htitles
  obtain ⟨slot, hslot, rfl⟩ := List.mem_map.1 (List.mem_filter.1 he).1
  obtain ⟨run, -, fixture, -, hmem⟩ := mem_schedule.1 hslot
  obtain ⟨entry, hentry, rfl⟩ := List.mem_map.1 hmem
  exact Plan.entryTitle_of_mem hentry

end Examiner

namespace Plan

variable {plan : Plan}

theorem errors_optionsFor (plan : Plan) (fixture : Fixture) :
    (plan.optionsFor fixture).errors = plan.options.errors := by
  unfold optionsFor
  cases plan.options.get? "printWidth" <;> rfl

theorem build_of_errors {directory : String} (h : Area.ofDirectory directory = .errors)
    (requested : List Grammar) {options : Options} (hunset : options.errors = none)
    (exceptions : Exceptions) :
    let plan := build directory requested options exceptions
    plan.directory = directory ∧ plan.grammars = requested.map some ∧
      plan.options.errors = some (.all true) := by
  simp [build, h, hunset, candidates]

theorem expectsFailure_of_all (h : plan.options.errors = some (.all true)) (fixture : Fixture)
    (grammar : Option Grammar) :
    ((plan.optionsFor fixture).withParser grammar).expectsFailure fixture.name = true := by
  have herrors : ((plan.optionsFor fixture).withParser grammar).errors = some (.all true) := by
    rw [← h]
    exact errors_optionsFor plan fixture
  simp [Options.expectsFailure, herrors, ExpectedFailures.covers]

end Plan

def Exceptions.excludes (exceptions : Exceptions) (directory : String) (fixture : Fixture)
    (g : Grammar) : Bool :=
  fixture.path.isSome && exceptions.isDisabled g (Path.join directory fixture.name)

theorem Plan.admits_relativePath (plan : Plan) (exceptions : Exceptions) (fixture : Fixture)
    (g : Grammar) : admits exceptions (plan.relativePath fixture) (some g) =
      !exceptions.excludes plan.directory fixture g := by
  unfold relativePath Exceptions.excludes
  cases fixture.path <;> rfl

theorem Plan.slots_entries_of_all {plan : Plan} {requested : List Grammar}
    (hgrammars : plan.grammars = requested.map some)
    (hall : plan.options.errors = some (.all true)) (exceptions : Exceptions) (fixture : Fixture) :
    (plan.slots exceptions fixture).map Slot.entry =
      (requested.filter fun g => !exceptions.excludes plan.directory fixture g).map fun g =>
        ⟨"[" ++ g.name ++ "] format", some g, .crossCheck⟩ := by
  have hexpects : (plan.optionsFor fixture).expectsFailure fixture.name = true :=
    expectsFailure_of_all hall fixture plan.primary
  simp only [slots, List.map_map, entries, hgrammars, List.filter_map, hexpects, Bool.true_or,
    ↓reduceIte, Function.comp_def, admits_relativePath]
  rfl

def Slot.attemptCall (s : Slot) : Call :=
  Pass.call s.fixture.code (s.optionsUnder s.entry.grammar)

def Engine.rejection? (engine : Engine) (call : Call) : Option Text :=
  match engine.format call.text call.options with
  | .ok _ => none
  | .error cause => some cause.message.toList

namespace Examiner

variable {x : Examiner} {s : Slot}

theorem examineEntry_of_all (h : ∀ grammar, s.expectsFailure grammar = true) :
    x.examineEntry (x.trial s.plan s.fixture).value s.entry =
      x.checkRejection (trialOf s .expectedFailure) s.entry
        (s.optionsUnder s.entry.grammar) := by
  have hexpects : (trialOf s .expectedFailure).expectsFailure s.entry.grammar = true :=
    h s.entry.grammar
  rw [trial_value, primaryPass_of_expected (h s.plan.primary), examineEntry_of_expected, crossCheck,
    if_pos hexpects]
  rfl

theorem callsOf_of_all (h : ∀ grammar, s.expectsFailure grammar = true) :
    x.callsOf s = [s.attemptCall] := by
  rw [callsOf, examineEntry_of_all h, checkRejection, Logged.bind_calls]
  cases (Pass.run x.engine (trialOf s .expectedFailure).fixture.code
    (s.optionsUnder s.entry.grammar)).value <;> rfl

theorem examined_of_all (h : ∀ grammar, s.expectsFailure grammar = true) :
    (x.examined s).finding =
      match x.engine.rejection? s.attemptCall with
      | none => .failed (.unexpectedSuccess (Grammar.label s.entry.grammar))
      | some message => .rejected message := by
  have hrun : (Pass.run x.engine (trialOf s .expectedFailure).fixture.code
      (s.optionsUnder s.entry.grammar)).value =
        (x.engine.format s.attemptCall.text s.attemptCall.options).map
          (Pass.ofAnswer s.fixture.code (s.optionsUnder s.entry.grammar)) := rfl
  rw [examined, examineEntry_of_all h, checkRejection, Logged.bind_value, hrun, Engine.rejection?]
  cases x.engine.format s.attemptCall.text s.attemptCall.options <;> rfl

theorem ownResult_of_all (h : ∀ grammar, s.expectsFailure grammar = true) :
    (x.examined s).finding.ownResult = .ok () ↔ x.engine.rejection? s.attemptCall ≠ none := by
  rw [examined_of_all h]
  cases x.engine.rejection? s.attemptCall <;> simp [Finding.ownResult]

theorem question?_of_all (h : ∀ grammar, s.expectsFailure grammar = true) :
    (x.examined s).finding.question?.map Question.text = x.engine.rejection? s.attemptCall := by
  rw [examined_of_all h]
  cases x.engine.rejection? s.attemptCall <;> rfl

theorem consultations_of_all (x : Examiner) {slots : List Slot}
    (h : ∀ slot ∈ slots, ∀ grammar, slot.expectsFailure grammar = true) :
    let cs := consultations [] (slots.map x.examined)
    let rejected := slots.filter fun slot => (x.engine.rejection? slot.attemptCall).isSome
    cs.map Consultation.key =
        KeyCounter.handOut [] (rejected.map fun slot => (slot.title, slot.entry.title)) ∧
      cs.map (fun c => c.question.text) =
        slots.filterMap fun slot => x.engine.rejection? slot.attemptCall := by
  intro cs rejected
  constructor
  · have hrejected : slots.filter (fun slot => (x.examined slot).finding.question?.isSome) =
        rejected := by
      apply List.filter_congr
      intro slot hslot
      rw [← question?_of_all (h slot hslot), Option.isSome_map]
    rw [consultations_keys, titlesAsked, List.filter_map, List.map_map, ← hrejected]
    rfl
  · have hquestions := congrArg (List.map Question.text)
      (consultations_questions [] (slots.map x.examined))
    rw [List.map_map, List.map_filterMap, List.filterMap_map] at hquestions
    exact hquestions.trans
      (List.filterMap_congr fun slot hslot => question?_of_all (h slot hslot))

theorem trial_calls_of_all {plan : Plan} (h : plan.options.errors = some (.all true))
    (fixture : Fixture) : (x.trial plan fixture).calls = [] := by
  have hexpects : (plan.optionsFor fixture).expectsFailure fixture.name = true :=
    Plan.expectsFailure_of_all h fixture plan.primary
  simp [trial, primaryPass, hexpects]

end Examiner

namespace Sample

def failureTree : FileTree :=
  [(["work", "misc"], .directory), (["work", "misc", "errors"], .directory),
    (["work", "misc", "errors", "format.spec.json"],
      .text ("[\x7b\"parsers\":[\"babel\",\"flow\"]\x7d," ++
        "\x7b\"parsers\":[\"flow\",\"flow\"],\"snippets\":[\"a\"]\x7d]")),
    (["work", "misc", "errors", "a.js"], .text "a !!")]

def demanding : Engine :=
  { Engine.echo with
    format := fun text options =>
      if options.parser = some .babel then .ok ⟨text, none⟩ else .error ⟨"refused"⟩ }

def declaresNoFailures : Bool :=
  match readSpecification failureTree "misc/errors",
    prepareDirectory {} settings failureTree "misc/errors" with
  | .ok declared, .ok runs =>
    (declared.all fun run => run.options.errors.isNone) && (schedule {} runs).length == 6
  | _, _ => false

theorem exists_failureRuns : ∃ declared runs,
    readSpecification failureTree "misc/errors" = .ok declared ∧
      (∀ run ∈ declared, run.options.errors = none) ∧
      prepareDirectory {} settings failureTree "misc/errors" = .ok runs ∧
      (schedule {} runs).length = 6 := by
  have h : declaresNoFailures = true := by decide +kernel
  unfold declaresNoFailures at h
  split at h
  · rename_i declared runs hread hruns
    simp only [Bool.and_eq_true, List.all_eq_true, beq_iff_eq, Option.isNone_iff_eq_none] at h
    exact ⟨declared, runs, hread, h.1, hruns, h.2⟩
  · cases h

end Sample

namespace Harness

section Runs

variable {exceptions : Exceptions} {settings : Settings} {tree : FileTree} {dir : String}
  {runs : List PreparedRun}

theorem runDirectory_stores (engine : Engine)
    (hruns : prepareDirectory exceptions settings tree dir = .ok runs) :
    let h := inMemory engine exceptions settings
    let es := (schedule exceptions runs).map h.examiner.examined
    let cs := Examiner.consultations [] es
    ∃ stored, (h.runDirectory tree dir []).value =
        (.ok (es.map fun e => e.outcome e.finding.ownResult), stored) ∧
      (cs.map Consultation.key).Nodup ∧ stored.Perm (cs.map fun c => (c.key, c.question.text)) := by
  intro h es cs
  have hkeys := h.examiner.nodup_consultations_keys runs
  have hstored := Examiner.settleAll_baselines_perm [] [] es (fun _ _ => rfl) hkeys
  have hreport := ((Examiner.Settled.start []).settleAll es
    fun _ => h.examiner.endsPlain_key_of_mem).1.trans (Examiner.outcomesAfter_nil [] es)
  rw [List.append_nil] at hstored
  refine ⟨_, ?_, hkeys, hstored⟩
  rw [h.runDirectory_value hruns, ← hreport]
  rfl

theorem expectsFailure_of_mem_schedule
    (hall : ∀ run ∈ runs, run.plan.options.errors = some (.all true)) {slot : Slot}
    (hslot : slot ∈ schedule exceptions runs) (grammar : Option Grammar) :
    slot.expectsFailure grammar = true := by
  obtain ⟨run, hrun, fixture, -, hmem⟩ := mem_schedule.1 hslot
  have hsame := (Plan.entry_of_mem_slots hmem).1
  refine Plan.expectsFailure_of_all ?_ slot.fixture grammar
  rw [hsame, hall run hrun]

theorem runDirectory_calls_of_all {σ : Type} (h : Harness σ)
    (hruns : prepareDirectory h.exceptions h.settings tree dir = .ok runs)
    (hall : ∀ run ∈ runs, run.plan.options.errors = some (.all true)) (state : σ) :
    (h.runDirectory tree dir state).calls =
      (schedule h.exceptions runs).map Slot.attemptCall := by
  have hown : ∀ run ∈ runs, ∀ fixture ∈ run.fixtures,
      (h.examiner.trial run.plan fixture).calls ++
          (run.plan.slots h.exceptions fixture).flatMap h.examiner.callsOf =
        (run.plan.slots h.exceptions fixture).map Slot.attemptCall := by
    intro run hrun fixture hfixture
    rw [Examiner.trial_calls_of_all (hall run hrun), List.nil_append, List.map_eq_flatMap]
    apply List.flatMap_congr
    intro slot hmem
    have hslot : slot ∈ schedule h.exceptions runs :=
      mem_schedule.2 ⟨run, hrun, fixture, hfixture, hmem⟩
    exact Examiner.callsOf_of_all (expectsFailure_of_mem_schedule hall hslot)
  rw [h.runDirectory_calls hruns]
  simp only [schedule, PreparedRun.slots, List.map_flatMap]
  exact List.flatMap_congr fun run hrun => List.flatMap_congr (hown run hrun)

end Runs

/-- In a directory about failures whose runs declare none themselves, the entries are those of the
grammars asked for and not left out, the calls are one attempt for each entry, and the report is a
success exactly if all of them are rejected. Over an empty store, the messages of those that are
rejected are stored, each under the key of its own that its titles get. -/
theorem runDirectory_expects_rejections (engine : Engine) {exceptions : Exceptions}
    {settings : Settings} {tree : FileTree} {dir : String} {declared : Specification}
    {runs : List PreparedRun}
    (hbelow : Path.startsWith (settings.relative dir) Area.errorsDirectory = true)
    (hread : readSpecification tree dir = .ok declared)
    (hunset : ∀ run ∈ declared, run.options.errors = none)
    (hruns : prepareDirectory exceptions settings tree dir = .ok runs) :
    let slots := schedule exceptions runs
    let outcome := (inMemory engine exceptions settings).runDirectory tree dir []
    let messages := slots.filterMap fun slot => engine.rejection? slot.attemptCall
    let rejected := slots.filter fun slot => (engine.rejection? slot.attemptCall).isSome
    let keys := KeyCounter.handOut [] (rejected.map fun slot => (slot.title, slot.entry.title))
    List.Forall₂ (fun declaration run => ∀ fixture ∈ run.fixtures,
        (run.plan.slots exceptions fixture).map Slot.entry =
          (declaration.parsers.filter fun g =>
            !exceptions.excludes (settings.relative dir) fixture g).map fun g =>
              ⟨"[" ++ g.name ++ "] format", some g, .crossCheck⟩) declared runs ∧
    outcome.calls = slots.map Slot.attemptCall ∧
    ∃ (report : Report) (stored : Baselines), outcome.value = (.ok report, stored) ∧
      List.Forall₂ (fun slot outcome => outcome.fixture = slot.title ∧
        outcome.title = slot.entry.title ∧ outcome.grammar = slot.entry.grammar) slots report ∧
      (report.isSuccess = true ↔ ∀ slot ∈ slots, engine.rejection? slot.attemptCall ≠ none) ∧
      keys.Nodup ∧ keys.length = messages.length ∧ stored.Perm (keys.zip messages) := by
  intro slots outcome messages rejected keys
  have harea : Area.ofDirectory (settings.relative dir) = .errors := by
    rw [Area.ofDirectory, if_pos hbelow]
  have hplan : ∀ run ∈ runs, run.plan.options.errors = some (.all true) := by
    intro run hrun
    obtain ⟨declaration, hdeclaration, hplan⟩ := exists_declaration hread hruns hrun
    rw [hplan]
    exact (Plan.build_of_errors harea _ (hunset declaration hdeclaration) exceptions).2.2
  have hexpects : ∀ slot ∈ slots, ∀ grammar, slot.expectsFailure grammar = true :=
    fun slot => expectsFailure_of_mem_schedule hplan
  refine ⟨?_, (inMemory engine exceptions settings).runDirectory_calls_of_all hruns hplan [], ?_⟩
  · refine ((List.forall₂_and_left _ _).2 ⟨hunset, forall₂_prepare hread hruns⟩).imp ?_
    rintro declaration run ⟨hnone, hprepare⟩ fixture -
    obtain ⟨hdirectory, hgrammars, herrors⟩ :=
      Plan.build_of_errors harea declaration.parsers hnone exceptions
    rw [← plan_of_prepare hprepare] at hdirectory hgrammars herrors
    rw [Plan.slots_entries_of_all hgrammars herrors, hdirectory]
  · obtain ⟨stored, hrun, hkeys, hstored⟩ := runDirectory_stores engine hruns
    rw [List.map_map] at hrun
    obtain ⟨htitles, hmessages⟩ : _ = keys ∧ _ = messages :=
      (inMemory engine exceptions settings).examiner.consultations_of_all hexpects
    refine ⟨_, stored, hrun, ?_, ?_, htitles ▸ hkeys, ?_, ?_⟩
    · rw [List.forall₂_map_right_iff, List.forall₂_same]
      exact fun slot _ => ⟨rfl, rfl, rfl⟩
    · rw [Report.isSuccess_iff, List.forall_mem_map]
      exact forall₂_congr fun slot hslot => Examiner.ownResult_of_all (hexpects slot hslot)
    · rw [← hmessages, ← htitles, List.length_map, List.length_map]
    · rw [← hmessages, ← htitles, List.zip_map']
      exact hstored

theorem expects_rejections_failureRuns :
    ∃ declared runs,
      Path.startsWith (Sample.settings.relative "misc/errors") Area.errorsDirectory = true ∧
      readSpecification Sample.failureTree "misc/errors" = .ok declared ∧
      (∀ run ∈ declared, run.options.errors = none) ∧
      prepareDirectory {} Sample.settings Sample.failureTree "misc/errors" = .ok runs ∧
      (schedule {} runs).length = 6 ∧
      let slots := schedule {} runs
      let outcome := (inMemory Sample.demanding {} Sample.settings).runDirectory Sample.failureTree
        "misc/errors" []
      let messages := slots.filterMap fun slot => Sample.demanding.rejection? slot.attemptCall
      let rejected := slots.filter fun slot =>
        (Sample.demanding.rejection? slot.attemptCall).isSome
      let keys := KeyCounter.handOut [] (rejected.map fun slot => (slot.title, slot.entry.title))
      outcome.calls = slots.map Slot.attemptCall ∧
      ∃ (report : Report) (stored : Baselines), outcome.value = (.ok report, stored) ∧
        (report.isSuccess = true ↔
          ∀ slot ∈ slots, Sample.demanding.rejection? slot.attemptCall ≠ none) ∧
        keys.Nodup ∧ keys.length = messages.length ∧ stored.Perm (keys.zip messages) := by
  obtain ⟨declared, runs, hread, hunset, hruns, hlength⟩ := Sample.exists_failureRuns
  have hbelow : Path.startsWith (Sample.settings.relative "misc/errors") Area.errorsDirectory =
      true := by decide +kernel
  obtain ⟨-, hcalls, report, stored, hvalue, -, hstored⟩ :=
    runDirectory_expects_rejections Sample.demanding hbelow hread hunset hruns
  exact ⟨declared, runs, hbelow, hread, hunset, hruns, hlength, hcalls, report, stored, hvalue,
    hstored⟩

end Harness

end FormatConformance
