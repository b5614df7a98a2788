import FormatConformance.Proofs.Harness.Settlement

/-!
The schedule of a directory: one slot for each declared run, each of its fixtures and each entry of
the plan for that fixture, in this order. It is known before anything is formatted. What is examined
and reported are the slots of the schedule, one after the other.
-/

namespace FormatConformance

namespace Report

theorem isSuccess_iff {report : Report} :
    report.isSuccess = true ↔ ∀ outcome ∈ report, outcome.result = .ok () := by
  rw [isSuccess, List.isEmpty_iff, failures, List.filterMap_eq_nil_iff]
  refine forall₂_congr fun outcome _ => ?_
  cases outcome.result <;> simp

end Report

structure Slot where
  plan : Plan
  fixture : Fixture
  entry : Entry

namespace Slot

def options (s : Slot) : Options := s.plan.optionsFor s.fixture

def optionsUnder (s : Slot) (grammar : Option Grammar) : Options := s.options.withParser grammar

def expectsFailure (s : Slot) (grammar : Option Grammar) : Bool :=
  (s.optionsUnder grammar).expectsFailure s.fixture.name

def relative (s : Slot) : Option String := s.plan.relativePath s.fixture

def title (s : Slot) : String :=
  if s.plan.options.title = "" then s.fixture.name
  else s.fixture.name ++ " - " ++ s.plan.options.title

theorem optionsUnder_primary (s : Slot) : s.optionsUnder s.plan.primary = s.options := rfl

theorem expectsFailure_primary (s : Slot) :
    s.expectsFailure s.plan.primary = s.options.expectsFailure s.fixture.name := rfl

end Slot

def Plan.slots (exceptions : Exceptions) (plan : Plan) (fixture : Fixture) : List Slot :=
  (plan.entries (plan.relativePath fixture)
    ((plan.optionsFor fixture).expectsFailure fixture.name) exceptions).map (Slot.mk plan fixture)

def PreparedRun.slots (exceptions : Exceptions) (run : PreparedRun) : List Slot :=
  run.fixtures.flatMap (run.plan.slots exceptions)

def schedule (exceptions : Exceptions) (runs : List PreparedRun) : List Slot :=
  runs.flatMap (PreparedRun.slots exceptions)

variable {exceptions : Exceptions} {runs : List PreparedRun} {slot : Slot}

theorem schedule_append (exceptions : Exceptions) (as bs : List PreparedRun) :
    schedule exceptions (as ++ bs) = schedule exceptions as ++ schedule exceptions bs := by
  simp [schedule]

theorem schedule_cons (exceptions : Exceptions) (run : PreparedRun) (rest : List PreparedRun) :
    schedule exceptions (run :: rest) = run.slots exceptions ++ schedule exceptions rest := by
  simp [schedule]

theorem mem_schedule :
    slot ∈ schedule exceptions runs ↔ ∃ run ∈ runs, ∃ fixture ∈ run.fixtures,
      slot ∈ run.plan.slots exceptions fixture := by
  simp [schedule, PreparedRun.slots]

theorem Plan.entry_of_mem_slots {plan : Plan} {fixture : Fixture}
    (h : slot ∈ plan.slots exceptions fixture) :
    slot.plan = plan ∧ slot.fixture = fixture ∧ EndsPlain slot.entry.title.toList ∧
      (slot.entry.role = .primary ↔
        slot.entry.grammar = plan.primary ∧ slot.expectsFailure plan.primary = false) := by
  obtain ⟨entry, hentry, rfl⟩ := List.mem_map.1 h
  refine ⟨rfl, rfl, endsPlain_title hentry, ?_⟩
  obtain ⟨grammar, -, rfl⟩ := List.mem_map.1 hentry
  rw [Slot.expectsFailure_primary]
  by_cases hfails : (plan.optionsFor fixture).expectsFailure fixture.name = true
  · simp [Slot.options, hfails]
  · by_cases hg : grammar = plan.primary <;> simp [Slot.options, hfails, hg]

theorem endsPlain_of_mem_schedule (h : slot ∈ schedule exceptions runs) :
    EndsPlain slot.entry.title.toList := by
  obtain ⟨run, -, fixture, -, hslot⟩ := mem_schedule.1 h
  exact (Plan.entry_of_mem_slots hslot).2.2.1

namespace Examiner

/-- What is found for a slot, whatever was found for other slots. -/
def examined (x : Examiner) (s : Slot) : Examined :=
  ⟨s.title, s.entry, (x.examineEntry (x.trial s.plan s.fixture).value s.entry).value⟩

theorem examineFixture_value (x : Examiner) (plan : Plan) (fixture : Fixture) :
    (x.examineFixture plan fixture).value =
      (plan.slots x.exceptions fixture).map x.examined := by
  simp only [examineFixture, Logged.bind_value, Logged.gather, List.flatMap_map, Plan.slots,
    List.map_map]
  exact List.map_eq_flatMap.symm

theorem examineRun_value (x : Examiner) (run : PreparedRun) :
    (x.examineRun run).value = (run.slots x.exceptions).map x.examined := by
  simp only [examineRun, Logged.gather, List.flatMap_map, examineFixture_value,
    PreparedRun.slots, List.map_flatMap]

def callsOf (x : Examiner) (s : Slot) : List Call :=
  (x.examineEntry (x.trial s.plan s.fixture).value s.entry).calls

theorem examineFixture_calls (x : Examiner) (plan : Plan) (fixture : Fixture) :
    (x.examineFixture plan fixture).calls =
      (x.trial plan fixture).calls ++ (plan.slots x.exceptions fixture).flatMap x.callsOf := by
  simp only [examineFixture, Logged.bind_calls, Logged.gather, List.flatMap_map, Plan.slots]
  rfl

theorem examineRun_calls (x : Examiner) (run : PreparedRun) :
    (x.examineRun run).calls = run.fixtures.flatMap fun fixture =>
      (x.trial run.plan fixture).calls ++
        (run.plan.slots x.exceptions fixture).flatMap x.callsOf := by
  simp only [examineRun, Logged.gather, List.flatMap_map, examineFixture_calls]

theorem endsPlain_key_of_mem (x : Examiner) {e : Examined}
    (h : e ∈ (schedule exceptions runs).map x.examined) : EndsPlain e.key.toList := by
  obtain ⟨slot, hslot, rfl⟩ := List.mem_map.1 h
  exact KeyCounter.endsPlain_baseKey _ (endsPlain_of_mem_schedule hslot)

theorem execute_value {σ : Type} (x : Examiner) (store : SnapshotStore σ)
    (runs : List PreparedRun) (state : σ) :
    (x.execute store runs state).value =
      let settled := settleAll store ⟨[], state⟩ ((schedule x.exceptions runs).map x.examined)
      (settled.1, settled.2.state) := by
  simp only [execute, Logged.map_value, Logged.gather, List.flatMap_map, examineRun_value,
    schedule, List.map_flatMap]

end Examiner

namespace Harness

def inMemory (engine : Engine) (exceptions : Exceptions) (settings : Settings) :
    Harness Baselines :=
  ⟨engine, Baselines.store, exceptions, settings⟩

variable {σ : Type} {tree : FileTree} {dir : String}

theorem runDirectory_value (h : Harness σ)
    (hruns : prepareDirectory h.exceptions h.settings tree dir = .ok runs) (state : σ) :
    (h.runDirectory tree dir state).value =
      let settled := Examiner.settleAll h.store ⟨[], state⟩
        ((schedule h.exceptions runs).map h.examiner.examined)
      (.ok settled.1, settled.2.state) := by
  simp only [runDirectory, hruns, runPrepared, Logged.map_value, Examiner.execute_value]
  rfl

theorem runDirectory_calls (h : Harness σ)
    (hruns : prepareDirectory h.exceptions h.settings tree dir = .ok runs) (state : σ) :
    (h.runDirectory tree dir state).calls =
      runs.flatMap fun run => run.fixtures.flatMap fun fixture =>
        (h.examiner.trial run.plan fixture).calls ++
          (run.plan.slots h.exceptions fixture).flatMap h.examiner.callsOf := by
  simp only [runDirectory, hruns, runPrepared, Examiner.execute, Logged.map_calls, Logged.gather,
    List.flatMap_map, Examiner.examineRun_calls]
  rfl

/-- A run over baselines in memory: every slot has the result that the baselines at the start give
it, and the baselines at the end are those at the start and the texts that were handed over. -/
theorem runDirectory_inMemory (engine : Engine) {settings : Settings}
    (hruns : prepareDirectory exceptions settings tree dir = .ok runs) (s : Baselines) :
    let h := inMemory engine exceptions settings
    let es := (schedule exceptions runs).map h.examiner.examined
    ∃ ledger, (h.runDirectory tree dir s).value =
        (.ok (Examiner.outcomesAfter s [] es), ledger.state) ∧ Examiner.Settled s es ledger := by
  intro h es
  obtain ⟨hreport, hsettled⟩ :=
    (Examiner.Settled.start s).settleAll es fun _ => h.examiner.endsPlain_key_of_mem
  refine ⟨_, ?_, hsettled⟩
  rw [h.runDirectory_value hruns s, ← hreport]
  rfl

end Harness

namespace Sample

def tree (specification : String) : FileTree :=
  [(["work", "d"], .directory),
    (["work", "d", "format.spec.json"], .text specification),
    (["work", "d", "a.js"], .text "<|>a;\n<<<PRETTIER_RANGE_END>>><|>b;\n")]

def settings : Settings := { root := "", deep := true }

def failingRuns : String :=
  "[\x7b\"parsers\":[\"flow\",\"meriyah\"]," ++
    "\"options\":\x7b\"errors\":\x7b\"meriyah\":[\"a.js\"]\x7d\x7d\x7d," ++
    "\x7b\"parsers\":[\"babel\"],\"options\":\x7b\"errors\":true\x7d\x7d]"

def repeatedRuns : String :=
  "[\x7b\"parsers\":[\"flow\"],\"options\":\x7b\"endOfLine\":\"auto\"\x7d\x7d," ++
    "\x7b\"parsers\":[\"meriyah\"],\"options\":\x7b\"endOfLine\":\"auto\"\x7d\x7d]"

def hasSlots (specification : String) (length : Nat) : Bool :=
  (prepareDirectory {} settings (tree specification) "d").toOption.any fun runs =>
    (schedule {} runs).length == length

theorem exists_runs {specification : String} {length : Nat}
    (h : hasSlots specification length = true) :
    ∃ runs, prepareDirectory {} settings (tree specification) "d" = .ok runs ∧
      (schedule {} runs).length = length := by
  unfold hasSlots at h
  cases hruns : prepareDirectory {} settings (tree specification) "d" with
  | error error => rw [hruns] at h; cases h
  | ok runs => exact ⟨runs, rfl, by simpa [hruns, Except.toOption] using h⟩

end Sample

end FormatConformance
