import FormatConformance.Engine.Ruled
import FormatConformance.Proofs.Engine.Agreement
import FormatConformance.Proofs.Harness.Preparation
import FormatConformance.Proofs.Harness.Schedule

/-!
What the entries of one run owe to those of another one. What is found for an entry depends on the
calls of its own run only. The number of the key that it is compared under counts the texts handed
over earlier in the directory, which any other run with the same titles may change.
-/

namespace FormatConformance

namespace Examiner

variable {s : Baselines} {before : List Examined} {e : Examined}

theorem getElem?_outcomesAfter (s : Baselines) (front back : List Examined) (e : Examined) :
    (outcomesAfter s [] (front ++ e :: back))[front.length]? =
      some (e.outcome (resultAfter s front e)) := by
  have hlength : (outcomesAfter s [] front).length = front.length := length_outcomesAfter _ _ _
  rw [outcomesAfter_append, List.getElem?_append_right (by omega), hlength, Nat.sub_self]
  rfl

theorem resultAfter_eq_ok_iff :
    resultAfter s before e = .ok () ↔ e.finding.ownResult = .ok () ∧
      ∀ question, e.finding.question? = some question →
        ∀ other, s.lookup (keyAfter before e) = some other → other = question.text := by
  cases hq : e.finding.question? with
  | none => simp [resultAfter, hq]
  | some question =>
    simp only [resultAfter, hq, mapError_eq_ok_iff, Baselines.verdict_eq_ok_iff,
      Finding.ownResult_of_question?_some hq, true_and, Option.some.injEq, forall_eq']

theorem Settled.lookup_keyAfter_of_ok {front back : List Examined} {ledger : Ledger Baselines}
    (h : Settled s (front ++ e :: back) ledger) (he : EndsPlain e.key.toList)
    (hok : resultAfter s front e = .ok ()) {question : Question}
    (hq : e.finding.question? = some question) :
    ledger.state.lookup (keyAfter front e) = some question.text := by
  have hstart := (resultAfter_eq_ok_iff.1 hok).2 question hq
  rw [keyAfter, h.held e.key he, getElem?_handed hq]
  cases hfirst : s.lookup (KeyCounter.numbered e.key ((handed e.key front).length + 1)) with
  | none => rfl
  | some other => rw [hstart other hfirst]; rfl

theorem Examined.outcome_inj {r r' : Except Failure Unit} :
    e.outcome r = e.outcome r' ↔ r = r' := by
  simp [Examined.outcome]

theorem Settled.getElem?_again {front back : List Examined} {ledger : Ledger Baselines}
    (h : Settled s (front ++ e :: back) ledger) (he : EndsPlain e.key.toList)
    (hok : resultAfter s front e = .ok ()) (front' back' : List Examined) :
    ((outcomesAfter ledger.state [] (front' ++ e :: back'))[front'.length]? =
        (outcomesAfter s [] (front ++ e :: back))[front.length]? ↔
      ∀ question, e.finding.question? = some question → ∀ other,
        ledger.state.lookup (keyAfter front' e) = some other → other = question.text) ∧
    ((handed e.key front').length = (handed e.key front).length →
      (outcomesAfter ledger.state [] (front' ++ e :: back'))[front'.length]? =
        (outcomesAfter s [] (front ++ e :: back))[front.length]?) := by
  have hown := (resultAfter_eq_ok_iff.1 hok).1
  rw [getElem?_outcomesAfter, getElem?_outcomesAfter, Option.some.injEq, Examined.outcome_inj, hok,
    resultAfter_eq_ok_iff]
  refine ⟨and_iff_right hown, fun hcount => ⟨hown, fun question hq other hother => ?_⟩⟩
  have hkey : keyAfter front' e = keyAfter front e := by rw [keyAfter, keyAfter, hcount]
  rw [hkey, h.lookup_keyAfter_of_ok he hok hq] at hother
  exact (Option.some.inj hother).symm

theorem examined_eq_of_agrees {a b : Engine} {exceptions : Exceptions} {deep : Bool}
    {run : PreparedRun}
    (h : ∀ call ∈ ((Examiner.mk a exceptions deep).examineRun run).calls, a.AgreesOn b call)
    {slot : Slot} (hslot : slot ∈ run.slots exceptions) :
    (Examiner.mk a exceptions deep).examined slot =
      (Examiner.mk b exceptions deep).examined slot := by
  have hrun := congrArg Logged.value (determined_examineRun exceptions deep run a b h)
  rw [examineRun_value, examineRun_value] at hrun
  exact List.map_inj_left.1 hrun slot hslot

end Examiner

theorem Engine.agreesOn_ruled (base : Engine) (rules : List Rule) {call : Call}
    (h : ∀ rule ∈ rules, rule.trigger.applies call = false) :
    base.AgreesOn (.ruled base rules) call := by
  have hnone : rules.find? (fun rule => rule.trigger.applies call) = none := by
    rw [List.find?_eq_none]
    intro rule hrule
    rw [h rule hrule]
    exact Bool.false_ne_true
  obtain ⟨kind, text, options⟩ := call
  cases kind <;> simp only [AgreesOn, ruled, hnone]

namespace Sample

def refusing : Engine :=
  .ruled .echo [{ trigger := { kind := .format, parser := some (some "flow") }
                  error := some "refused" }]

theorem echo_agreesOn_refusing {call : Call} (h : call.options.parser = some .meriyah) :
    Engine.echo.AgreesOn refusing call := by
  apply Engine.agreesOn_ruled
  intro rule hrule
  obtain rfl := List.mem_singleton.1 hrule
  have hname : (some "flow" == some (Grammar.name .meriyah)) = false := by decide
  have hparser : (some "flow" == call.options.parser.map Grammar.name) = false := by
    rw [h, Option.map_some, hname]
  rw [Trigger.applies, Option.all_some, hparser, Bool.and_false]

def echoing : Harness Baselines := .inMemory .echo {} settings

def bothReports : Except SetupError Report × Except SetupError Report :=
  let first := (echoing.runDirectory (tree repeatedRuns) "d" []).value
  (first.1,
    ((Harness.inMemory refusing {} settings).runDirectory (tree repeatedRuns) "d" first.2).value.1)

def passes (report : Except SetupError Report) : List Bool :=
  match report with
  | .ok report => report.map fun outcome => outcome.result.isOk
  | .error _ => []

def hasRepeatedSlots : Bool :=
  match prepareDirectory {} settings (tree repeatedRuns) "d" with
  | .ok [first, second] =>
    (first.slots {}).length == 1 && (second.slots {}).length == 1 &&
      (echoing.examiner.examineRun second).calls.all fun call =>
        call.options.parser == some .meriyah
  | _ => false

theorem exists_repeatedSlots : ∃ first second slot slot',
    prepareDirectory {} settings (tree repeatedRuns) "d" = .ok [first, second] ∧
      first.slots {} = [slot] ∧ second.slots {} = [slot'] ∧
      ∀ call ∈ (echoing.examiner.examineRun second).calls, Engine.echo.AgreesOn refusing call := by
  have h : hasRepeatedSlots = true := by decide +kernel
  unfold hasRepeatedSlots at h
  split at h
  · rename_i first second hruns
    simp only [Bool.and_eq_true, beq_iff_eq, List.all_eq_true] at h
    obtain ⟨⟨hfirst, hsecond⟩, hcalls⟩ := h
    obtain ⟨slot, hslot⟩ := List.length_eq_one_iff.1 hfirst
    obtain ⟨slot', hslot'⟩ := List.length_eq_one_iff.1 hsecond
    exact ⟨first, second, slot, slot', hruns, hslot, hslot',
      fun call hcall => echo_agreesOn_refusing (hcalls call hcall)⟩
  · cases h

theorem passes_bothReports :
    passes bothReports.1 = [true, true] ∧ passes bothReports.2 = [false, false] := by
  decide +kernel

theorem eq_ok_of_passes {result : Except SetupError Report} {flags : List Bool}
    (h : passes result = flags) (hflags : flags ≠ []) :
    ∃ report, result = .ok report ∧ report.map (fun outcome => outcome.result.isOk) = flags := by
  cases result with
  | ok report => exact ⟨report, rfl, h⟩
  | error error => exact absurd h.symm hflags

theorem exists_reports : ∃ report stored report',
    (echoing.runDirectory (tree repeatedRuns) "d" []).value = (.ok report, stored) ∧
      (∀ outcome ∈ report, outcome.result = .ok ()) ∧
      ((Harness.inMemory refusing {} settings).runDirectory (tree repeatedRuns) "d"
        stored).value.1 = .ok report' ∧
      report'[1]? ≠ report[1]? := by
  obtain ⟨hfirst, hsecond⟩ := passes_bothReports
  obtain ⟨report, hreport, hpasses⟩ := eq_ok_of_passes hfirst (List.cons_ne_nil _ _)
  obtain ⟨report', hreport', hpasses'⟩ := eq_ok_of_passes hsecond (List.cons_ne_nil _ _)
  refine ⟨report, _, report', Prod.ext hreport rfl, fun outcome houtcome => ?_, hreport', ?_⟩
  · have hflag : outcome.result.isOk ∈ [true, true] := by
      rw [← hpasses]
      exact List.mem_map_of_mem houtcome
    cases hresult : outcome.result with
    | ok => rfl
    | error failure => simp [hresult, Except.isOk, Except.toBool] at hflag
  · intro hsame
    have hflags := congrArg (Option.map fun outcome : Outcome => outcome.result.isOk) hsame
    rw [← List.getElem?_map, ← List.getElem?_map, hpasses, hpasses'] at hflags
    cases hflags

end Sample

namespace Harness

/-- Over baselines that a run with engine `a` left behind and in which every entry passed, an entry
of a run for which engine `b` agrees with `a` keeps its outcome exactly if it has no text to compare
or nothing else is stored under the key whose number counts the texts that `b` has handed over under
the same titles before. That is so if `a` has handed over as many of them. -/
theorem runDirectory_keeps_outcome_iff {a b : Engine} {exceptions : Exceptions}
    {settings : Settings} {tree : FileTree} {dir : String} {before after : List PreparedRun}
    {run : PreparedRun} {start stored : Baselines} {report : Report} {front back : List Slot}
    {slot : Slot}
    (hruns : prepareDirectory exceptions settings tree dir = .ok (before ++ run :: after))
    (ha : ((inMemory a exceptions settings).runDirectory tree dir start).value =
      (.ok report, stored))
    (hpassed : ∀ outcome ∈ report, outcome.result = .ok ())
    (hagree : ∀ call ∈ ((inMemory a exceptions settings).examiner.examineRun run).calls,
      a.AgreesOn b call)
    (hslot : run.slots exceptions = front ++ slot :: back) :
    let x := (inMemory a exceptions settings).examiner
    let y := (inMemory b exceptions settings).examiner
    let earlier := schedule exceptions before ++ front
    let key := KeyCounter.baseKey slot.title slot.entry.title
    let used := (Examiner.handed key (earlier.map x.examined)).length
    let used' := (Examiner.handed key (earlier.map y.examined)).length
    ∃ report',
      ((inMemory b exceptions settings).runDirectory tree dir stored).value.1 = .ok report' ∧
      (report'[earlier.length]? = report[earlier.length]? ↔
        ∀ question, (x.examined slot).finding.question? = some question →
          ∀ other, stored.lookup (KeyCounter.numbered key (used' + 1)) = some other →
            other = question.text) ∧
      (used' = used → report'[earlier.length]? = report[earlier.length]?) := by
  intro x y earlier key used used'
  have hschedule : schedule exceptions (before ++ run :: after) =
      earlier ++ slot :: (back ++ schedule exceptions after) := by
    simp [earlier, schedule_append, schedule_cons, hslot]
  have hrunSlot : slot ∈ run.slots exceptions := by
    rw [hslot]
    exact List.mem_append_right _ List.mem_cons_self
  have hsame : x.examined slot = y.examined slot :=
    Examiner.examined_eq_of_agrees hagree hrunSlot
  have hmem : x.examined slot ∈
      (schedule exceptions (before ++ run :: after)).map x.examined := by
    rw [hschedule]
    simp
  have hplain : EndsPlain (x.examined slot).key.toList := x.endsPlain_key_of_mem hmem
  obtain ⟨ledger, hrun, hsettled⟩ := runDirectory_inMemory a hruns start
  obtain ⟨ledger', hrun', -⟩ := runDirectory_inMemory b hruns stored
  rw [hschedule, List.map_append, List.map_cons] at hrun hrun' hsettled
  rw [ha, Prod.mk.injEq, Except.ok.injEq] at hrun
  obtain ⟨rfl, rfl⟩ := hrun
  -- The slot stands at the same place of both reports; only what was handed over before differs.
  have hplace : Examiner.resultAfter start (earlier.map x.examined) (x.examined slot) = .ok () := by
    have hentry := Examiner.getElem?_outcomesAfter start (earlier.map x.examined)
      ((back ++ schedule exceptions after).map x.examined) (x.examined slot)
    exact hpassed _ (List.mem_of_getElem? hentry)
  refine ⟨_, congrArg Prod.fst hrun', ?_⟩
  have hagain := hsettled.getElem?_again hplain hplace (earlier.map y.examined)
    ((back ++ schedule exceptions after).map y.examined)
  rw [hsame, List.length_map, List.length_map] at hagain
  rw [hsame]
  exact hagain

theorem keeps_outcome_iff_repeatedRuns :
    ∃ first second slot report stored,
      prepareDirectory {} Sample.settings (Sample.tree Sample.repeatedRuns) "d" =
        .ok [first, second] ∧
      (Sample.echoing.runDirectory (Sample.tree Sample.repeatedRuns) "d" []).value =
        (.ok report, stored) ∧
      let x := Sample.echoing.examiner
      let y := (inMemory Sample.refusing {} Sample.settings).examiner
      let earlier := schedule {} [first] ++ []
      let key := KeyCounter.baseKey slot.title slot.entry.title
      let used := (Examiner.handed key (earlier.map x.examined)).length
      let used' := (Examiner.handed key (earlier.map y.examined)).length
      ∃ report',
        ((inMemory Sample.refusing {} Sample.settings).runDirectory
          (Sample.tree Sample.repeatedRuns) "d" stored).value.1 = .ok report' ∧
        (report'[earlier.length]? = report[earlier.length]? ↔
          ∀ question, (x.examined slot).finding.question? = some question →
            ∀ other, stored.lookup (KeyCounter.numbered key (used' + 1)) = some other →
              other = question.text) ∧
        (used' = used → report'[earlier.length]? = report[earlier.length]?) := by
  obtain ⟨first, second, -, slot, hruns, -, hslot, hagree⟩ := Sample.exists_repeatedSlots
  obtain ⟨report, stored, -, hreport, hpassed, -, -⟩ := Sample.exists_reports
  have hsplit : prepareDirectory {} Sample.settings (Sample.tree Sample.repeatedRuns) "d" =
      .ok ([first] ++ second :: []) := hruns
  have hplace : second.slots {} = [] ++ slot :: [] := hslot
  refine ⟨first, second, slot, report, stored, hruns, hreport, ?_⟩
  exact runDirectory_keeps_outcome_iff hsplit hreport hpassed hagree hplace

/-- The outcome of an entry may depend on another run: the engine answers all calls of the second
run as it did when the baselines were recorded, and yet the entry of that run is not reported as it
was, because the first run does not get as far as handing its text over. -/
theorem runDirectory_outcome_depends_on_other_run :
    ∃ first second slot slot' report stored report',
      prepareDirectory {} Sample.settings (Sample.tree Sample.repeatedRuns) "d" =
        .ok [first, second] ∧
      first.slots {} = [slot] ∧ second.slots {} = [slot'] ∧
      ((inMemory .echo {} Sample.settings).runDirectory (Sample.tree Sample.repeatedRuns) "d"
        []).value = (.ok report, stored) ∧
      (∀ outcome ∈ report, outcome.result = .ok ()) ∧
      (∀ call ∈ ((inMemory .echo {} Sample.settings).examiner.examineRun second).calls,
        Engine.echo.AgreesOn Sample.refusing call) ∧
      ((inMemory Sample.refusing {} Sample.settings).runDirectory
        (Sample.tree Sample.repeatedRuns) "d" stored).value.1 = .ok report' ∧
      report'[1]? ≠ report[1]? := by
  obtain ⟨first, second, slot, slot', hruns, hslot, hslot', hagree⟩ := Sample.exists_repeatedSlots
  obtain ⟨report, stored, report', hreport, hpassed, hreport', hne⟩ := Sample.exists_reports
  exact ⟨first, second, slot, slot', report, stored, report', hruns, hslot, hslot', hreport,
    hpassed, hagree, hreport', hne⟩

end Harness

end FormatConformance
