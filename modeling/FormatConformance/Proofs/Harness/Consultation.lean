import FormatConformance.Proofs.Harness.Verdicts
import FormatConformance.Proofs.Snapshot.Numbering

/-!
Consulting the store. An entry hands at most one text over: the message of a failure that was
expected, or the record of a pass for which no output is expected and which went through all checks
of a deep run. A watched store answers as the store does and notes what it is asked, so that its
notes tell for each slot of a schedule what became of it.
-/

namespace FormatConformance

variable {σ : Type}

namespace SnapshotStore

/-- Answers as the store does and notes what it is asked. -/
def watched (store : SnapshotStore σ) : SnapshotStore (List Consultation × σ) where
  assertRecord key text s :=
    let (result, state) := store.assertRecord key text s.2
    (result, s.1 ++ [⟨key, .record text⟩], state)
  assertError key text s :=
    let (result, state) := store.assertError key text s.2
    (result, s.1 ++ [⟨key, .message text⟩], state)

theorem watched_ask (store : SnapshotStore σ) (key : String) (question : Question)
    (log : List Consultation) (state : σ) :
    store.watched.ask key question (log, state) =
      ((store.ask key question state).1, log ++ [⟨key, question⟩],
        (store.ask key question state).2) := by
  cases question <;> rfl

end SnapshotStore

namespace Examiner

section Settling

variable (store : SnapshotStore σ)

def consultations : KeyCounter → List Examined → List Consultation
  | _, [] => []
  | counter, e :: rest =>
    match e.finding.question? with
    | none => consultations counter rest
    | some question =>
      let (key, counter) := counter.next e.title e.entry.title
      ⟨key, question⟩ :: consultations counter rest

theorem consultations_of_none (counter : KeyCounter) {e : Examined} (rest : List Examined)
    (h : e.finding.question? = none) :
    consultations counter (e :: rest) = consultations counter rest := by
  simp [consultations, h]

theorem consultations_of_some (counter : KeyCounter) {e : Examined} (rest : List Examined)
    {question : Question} (h : e.finding.question? = some question) :
    consultations counter (e :: rest) =
      ⟨(counter.next e.title e.entry.title).1, question⟩ ::
        consultations (counter.next e.title e.entry.title).2 rest := by
  simp [consultations, h]

theorem consultations_questions (counter : KeyCounter) (es : List Examined) :
    (consultations counter es).map Consultation.question =
      es.filterMap fun e => e.finding.question? := by
  induction es generalizing counter with
  | nil => rfl
  | cons e rest ih =>
    cases h : e.finding.question? with
    | none => simp [consultations_of_none counter rest h, ih, h]
    | some question => simp [consultations_of_some counter rest h, ih, h]

def titlesAsked (es : List Examined) : List (String × String) :=
  (es.filter fun e => e.finding.question?.isSome).map fun e => (e.title, e.entry.title)

theorem consultations_keys (counter : KeyCounter) (es : List Examined) :
    (consultations counter es).map Consultation.key = counter.handOut (titlesAsked es) := by
  induction es generalizing counter with
  | nil => rfl
  | cons e rest ih =>
    cases h : e.finding.question? with
    | none =>
      have hfilter : titlesAsked (e :: rest) = titlesAsked rest := by simp [titlesAsked, h]
      rw [consultations_of_none counter rest h, hfilter, ih]
    | some question =>
      have hfilter : titlesAsked (e :: rest) = (e.title, e.entry.title) :: titlesAsked rest := by
        simp [titlesAsked, h]
      rw [consultations_of_some counter rest h, hfilter, KeyCounter.handOut_cons, List.map_cons, ih]

theorem settleAll_watched (counter : KeyCounter) (log : List Consultation) (state : σ)
    (es : List Examined) :
    settleAll store.watched ⟨counter, log, state⟩ es =
      let settled := settleAll store ⟨counter, state⟩ es
      (settled.1, ⟨settled.2.counter, log ++ consultations counter es, settled.2.state⟩) := by
  induction es generalizing counter log state with
  | nil => simp [settleAll, consultations]
  | cons e rest ih =>
    cases h : e.finding.question? with
    | none =>
      simp only [settleAll, settle_of_question?_none _ _ h, consultations_of_none counter rest h,
        ih]
    | some question =>
      simp only [settleAll, settle_of_question?_some _ _ h, Ledger.compare,
        SnapshotStore.watched_ask, consultations_of_some counter rest h, ih,
        List.append_assoc, List.singleton_append]

theorem settleAll_of_silent (ledger : Ledger σ) {es : List Examined}
    (h : ∀ e ∈ es, e.finding.question? = none) : (settleAll store ledger es).2 = ledger := by
  induction es generalizing ledger with
  | nil => rfl
  | cons e rest ih =>
    obtain ⟨he, hrest⟩ := List.forall_mem_cons.1 h
    simp only [settleAll, settle_of_question?_none store ledger he]
    exact ih ledger hrest

end Settling

end Examiner

def Slot.ExpectsNoOutput (s : Slot) : Prop :=
  s.entry.role = .primary ∧ s.fixture.output = none ∨ s.expectsFailure s.plan.primary = true

namespace Examiner

def Records (x : Examiner) (s : Slot) (grammar : Option Grammar) (pass : Pass)
    (question : Question) : Prop :=
  x.deep = true ∧ pass.checkEndOfLine = .ok () ∧ x.PassesDeepChecks s grammar pass ∧
    question = .record (Record.ofPass pass s.plan.requested (s.optionsUnder grammar))

/-- What the store is asked about a slot. -/
inductive Consults (x : Examiner) (s : Slot) : Question → Prop
  | message {cause : Rejection} (expected : s.expectsFailure s.entry.grammar = true)
      (rejected : x.attempt s s.entry.grammar = .error cause) :
      x.Consults s (.message cause.message.toList)
  | record {pass : Pass} {question : Question}
      (accepted : s.expectsFailure s.entry.grammar = false) (free : s.ExpectsNoOutput)
      (formatted : x.attempt s s.entry.grammar = .ok pass)
      (records : x.Records s s.entry.grammar pass question) : x.Consults s question

variable {x : Examiner} {s : Slot} {question : Question}

theorem consults_of_expected (h : s.expectsFailure s.entry.grammar = true) :
    x.Consults s question ↔ ∃ cause, x.attempt s s.entry.grammar = .error cause ∧
      question = .message cause.message.toList := by
  constructor
  · rintro (⟨_, hrejected⟩ | ⟨haccepted, _, _, _⟩)
    · exact ⟨_, hrejected, rfl⟩
    · rw [h] at haccepted
      cases haccepted
  · rintro ⟨cause, hrejected, rfl⟩
    exact .message h hrejected

theorem consults_of_not_expected (h : s.expectsFailure s.entry.grammar = false) :
    x.Consults s question ↔ s.ExpectsNoOutput ∧
      ∃ pass, x.attempt s s.entry.grammar = .ok pass ∧
        x.Records s s.entry.grammar pass question := by
  constructor
  · rintro (⟨hexpected, _⟩ | ⟨_, hfree, hformatted, hrecords⟩)
    · rw [h] at hexpected
      cases hexpected
    · exact ⟨hfree, _, hformatted, hrecords⟩
  · rintro ⟨hfree, pass, hformatted, hrecords⟩
    exact .record h hfree hformatted hrecords

theorem question?_findingOf_eq_some_iff {grammar : Option Grammar} {pass : Pass}
    {expected : Option Text} :
    (x.findingOf s grammar pass expected).question? = some question ↔
      x.deep = true ∧ expected = none ∧
        question = .record (Record.ofPass pass s.plan.requested (s.optionsUnder grammar)) := by
  cases hdeep : x.deep <;> cases expected <;> simp [findingOf, hdeep, Finding.question?, eq_comm]

theorem sound_and_question?_iff {grammar : Option Grammar} {pass : Pass}
    {expected : Option Text} :
    x.Sound s grammar pass expected ∧
        (x.findingOf s grammar pass expected).question? = some question ↔
      expected = none ∧ x.Records s grammar pass question := by
  rw [question?_findingOf_eq_some_iff]
  constructor
  · rintro ⟨⟨hline, hchecks⟩, hdeep, rfl, hrecord⟩
    exact ⟨rfl, hdeep, hline, hchecks hdeep, hrecord⟩
  · rintro ⟨rfl, hdeep, hline, hchecks, hrecord⟩
    exact ⟨⟨hline, fun _ => hchecks⟩, hdeep, rfl, hrecord⟩

theorem wants_none_iff (hrole : s.entry.role = .primary ↔
    s.entry.grammar = s.plan.primary ∧ s.expectsFailure s.plan.primary = false) :
    x.Wants s none ↔ s.ExpectsNoOutput := by
  unfold Wants Slot.ExpectsNoOutput
  rw [hrole]
  cases s.expectsFailure s.plan.primary with
  | true => simp
  | false => by_cases h : s.entry.grammar = s.plan.primary <;> simp [h, eq_comm]

theorem question?_examined_iff {runs : List PreparedRun} (hs : s ∈ schedule x.exceptions runs) :
    (x.examined s).finding.question? = some question ↔ x.Consults s question := by
  obtain ⟨run, -, fixture, -, hslot⟩ := mem_schedule.1 hs
  obtain ⟨hplan, -, -, hrole⟩ := Plan.entry_of_mem_slots hslot
  rw [← hplan] at hrole
  have hexists : (x.examined s).finding.question? = some question ↔
      ∃ finding, x.Finds s finding ∧ finding.question? = some question :=
    examined_iff_exists_finds hs (p := fun finding => finding.question? = some question)
      fun _ h => Finding.ownResult_of_question?_some h
  rw [hexists]
  unfold Finds
  cases hexpects : s.expectsFailure s.entry.grammar with
  | true =>
    rw [consults_of_expected hexpects]
    constructor
    · rintro ⟨_, ⟨cause, hrejected, rfl⟩, h⟩
      exact ⟨cause, hrejected, (Option.some.inj h).symm⟩
    · rintro ⟨cause, hrejected, rfl⟩
      exact ⟨_, ⟨cause, hrejected, rfl⟩, rfl⟩
  | false =>
    rw [consults_of_not_expected hexpects, ← wants_none_iff hrole]
    constructor
    · rintro ⟨_, ⟨expected, pass, hwants, hformatted, hsound, rfl⟩, h⟩
      obtain ⟨rfl, hrecords⟩ := sound_and_question?_iff.1 ⟨hsound, h⟩
      exact ⟨hwants, pass, hformatted, hrecords⟩
    · rintro ⟨hwants, pass, hformatted, hrecords⟩
      obtain ⟨hsound, h⟩ := sound_and_question?_iff.2 ⟨rfl, hrecords⟩
      exact ⟨_, ⟨none, pass, hwants, hformatted, hsound, rfl⟩, h⟩

end Examiner

namespace Harness

def watched (h : Harness σ) : Harness (List Consultation × σ) :=
  ⟨h.engine, h.store.watched, h.exceptions, h.settings⟩

theorem runDirectory_watched (h : Harness σ) {tree : FileTree} {dir : String}
    {runs : List PreparedRun}
    (hruns : prepareDirectory h.exceptions h.settings tree dir = .ok runs) (state : σ) :
    let es := (schedule h.exceptions runs).map h.examiner.examined
    let settled := Examiner.settleAll h.store ⟨[], state⟩ es
    (h.watched.runDirectory tree dir ([], state)).value =
      (.ok settled.1, Examiner.consultations [] es, settled.2.state) := by
  intro es settled
  have hsettled := Examiner.settleAll_watched h.store [] [] state es
  rw [h.watched.runDirectory_value hruns]
  exact congrArg (fun r : Report × Ledger (List Consultation × σ) =>
    ((.ok r.1, r.2.state) : Except SetupError Report × List Consultation × σ)) hsettled

/-- The store is consulted once for each slot that there is a question about, in the order of the
schedule, and for no other slot. So a shallow run in which no failure is expected leaves it as it
is, and it is never consulted for a companion that is not expected to fail unless the primary
grammar is. -/
theorem runDirectory_consults (h : Harness σ) {tree : FileTree} {dir : String}
    {runs : List PreparedRun}
    (hruns : prepareDirectory h.exceptions h.settings tree dir = .ok runs) (state : σ) :
    let x := h.examiner
    let slots := schedule h.exceptions runs
    ∃ report after log asked,
      (h.runDirectory tree dir state).value = (.ok report, after) ∧
      (h.watched.runDirectory tree dir ([], state)).value = (.ok report, log, after) ∧
      List.Forall₂ (fun slot asked => ∀ question, asked = some question ↔
        x.Consults slot question) slots asked ∧
      log.map Consultation.question = asked.filterMap id ∧
      (h.settings.deep = false → (∀ slot ∈ slots, slot.expectsFailure slot.entry.grammar = false) →
        log = [] ∧ after = state) ∧
      ∀ slot ∈ slots, slot.entry.role = .crossCheck →
        slot.expectsFailure slot.entry.grammar = false →
        slot.expectsFailure slot.plan.primary = false → ∀ question, ¬ x.Consults slot question := by
  intro x slots
  let es := slots.map x.examined
  refine ⟨_, _, _, es.map fun e => e.finding.question?, h.runDirectory_value hruns state,
    h.runDirectory_watched hruns state, ?_, ?_, fun hshallow haccepted => ?_, ?_⟩
  · rw [List.map_map, List.forall₂_map_right_iff, List.forall₂_same]
    intro slot hslot question
    exact Examiner.question?_examined_iff hslot
  · have hquestions := Examiner.consultations_questions [] es
    exact hquestions.trans (List.filterMap_map (g := id)).symm
  · have hsilent : ∀ e ∈ es, e.finding.question? = none := by
      intro e he
      obtain ⟨slot, hslot, rfl⟩ := List.mem_map.1 he
      cases hasked : (x.examined slot).finding.question? with
      | none => rfl
      | some question =>
        have hexamined : (x.examined slot).finding.question? = some question ↔
            x.Consults slot question := Examiner.question?_examined_iff hslot
        have hconsults := hexamined.1 hasked
        rw [Examiner.consults_of_not_expected (haccepted slot hslot)] at hconsults
        obtain ⟨-, _, -, hdeep, -⟩ := hconsults
        exact absurd (hshallow.symm.trans hdeep) Bool.false_ne_true
    have hlog := Examiner.consultations_questions [] es
    rw [List.filterMap_eq_nil_iff.2 hsilent] at hlog
    refine ⟨List.map_eq_nil_iff.1 hlog, ?_⟩
    exact congrArg Ledger.state (Examiner.settleAll_of_silent h.store ⟨[], state⟩ hsilent)
  · intro slot hslot hcross haccepted hprimary question hconsults
    obtain ⟨hfree, -⟩ := (Examiner.consults_of_not_expected haccepted).1 hconsults
    rcases hfree with ⟨hrole, -⟩ | hexpected
    · rw [hcross] at hrole
      cases hrole
    · rw [hprimary] at hexpected
      cases hexpected

theorem consults_failingRuns :
    let store : SnapshotStore Nat :=
      ⟨fun key _ n => (.error ⟨key, none⟩, n + 1), fun key _ n => (.error ⟨key, none⟩, n + 1)⟩
    let h : Harness Nat := ⟨.echo, store, {}, Sample.settings⟩
    let x := h.examiner
    let tree := Sample.tree Sample.failingRuns
    ∃ runs, prepareDirectory {} Sample.settings tree "d" = .ok runs ∧
      (schedule {} runs).length = 4 ∧ ∃ report after log asked,
      (h.runDirectory tree "d" 0).value = (.ok report, after) ∧
      (h.watched.runDirectory tree "d" ([], 0)).value = (.ok report, log, after) ∧
      List.Forall₂ (fun slot asked => ∀ question, asked = some question ↔
        x.Consults slot question) (schedule {} runs) asked ∧
      log.map Consultation.question = asked.filterMap id := by
  intro store h x tree
  obtain ⟨runs, hruns, hlength⟩ :=
    Sample.exists_runs (show Sample.hasSlots Sample.failingRuns 4 = true by decide +kernel)
  obtain ⟨report, after, log, asked, hreport, hwatched, hasked, hlog, -⟩ :=
    runDirectory_consults h hruns 0
  exact ⟨runs, hruns, hlength, report, after, log, asked, hreport, hwatched, hasked, hlog⟩

end Harness

end FormatConformance
