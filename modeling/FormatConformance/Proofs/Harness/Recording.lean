import FormatConformance.Proofs.Check.Reasons
import FormatConformance.Proofs.Harness.Schedule

/-!
Recording and comparing. A run over an empty store records every text that it has to compare, so it
complains about no baseline. A run over the store that it leaves behind hands the same texts over
under the same keys: it has the same results and records nothing.
-/

namespace FormatConformance

namespace Finding

def Unstored (finding : Finding) : Prop := ∀ failure, finding = .failed failure → failure.Unstored

theorem Unstored.ownResult_ne {finding : Finding} (h : finding.Unstored)
    (mismatch : SnapshotMismatch) : finding.ownResult ≠ .error (.snapshot mismatch) := by
  cases finding with
  | failed failure =>
    intro hresult
    exact h failure rfl mismatch (Except.error.inj hresult)
  | passed | rejected message | recorded record => exact nofun

theorem unstored_bind {α : Type} {check : Check α} {next : α → Check Finding}
    (h : Check.FailsOnly Failure.Unstored check)
    (hnext : ∀ a, (ofCheck (next a).run.value).Unstored) :
    (ofCheck (check >>= next).run.value).Unstored := by
  rw [ExceptT.run_bind, Logged.bind_value]
  cases hvalue : check.run.value with
  | ok a => exact hnext a
  | error failure =>
    rintro _ ⟨⟩
    exact h failure hvalue

end Finding

namespace Examiner

section Findings

variable (x : Examiner) (t : Trial) (entry : Entry)

theorem verify_unstored (pass : Pass) (expected : Option Text) (options : Options) :
    (Finding.ofCheck (x.verify t entry pass expected options).run.value).Unstored := by
  refine Finding.unstored_bind (Subject.checkEndOfLine_unstored pass) fun _ => ?_
  split
  · exact Finding.unstored_bind (Subject.checkOutput_unstored pass _ _) fun _ => nofun
  · split
    · exact nofun
    · exact Finding.unstored_bind (Subject.checkDeeply_unstored _ _ _) fun _ => nofun

theorem checkRejection_unstored (options : Options) :
    (x.checkRejection t entry options).value.Unstored := by
  unfold checkRejection
  rw [Logged.bind_value]
  split
  · rintro _ ⟨⟩
    exact nofun
  · exact nofun

theorem checkAgreement_unstored (options : Options) (expected : Option Text) :
    (x.checkAgreement t entry options expected).value.Unstored := by
  unfold checkAgreement
  rw [Logged.bind_value]
  split
  · rintro _ ⟨⟩
    exact nofun
  · exact x.verify_unstored t entry _ _ _

theorem crossCheck_unstored : (x.crossCheck t entry).value.Unstored := by
  unfold crossCheck
  split
  · exact x.checkRejection_unstored t entry _
  · split
    · exact x.checkAgreement_unstored t entry _ _
    · exact x.checkAgreement_unstored t entry _ _
    · rintro _ ⟨⟩
      exact nofun

theorem examineEntry_unstored : (x.examineEntry t entry).value.Unstored := by
  unfold examineEntry
  split
  · exact x.verify_unstored t entry _ _ _
  · rintro _ ⟨⟩
    exact nofun
  · exact x.crossCheck_unstored t entry

end Findings

/-- The store holds the texts of the entries under their keys, `before` being settled first. -/
def Held (s : Baselines) : List Examined → List Examined → Prop
  | _, [] => True
  | before, e :: rest =>
    (∀ question, e.finding.question? = some question →
        s.lookup (keyAfter before e) = some question.text) ∧
      Held s (before ++ [e]) rest

variable {s : Baselines} {before : List Examined} {ledger : Ledger Baselines} {e : Examined}

theorem Settled.recorded (before es : List Examined) (h : Settled [] (before ++ es) ledger)
    (hes : ∀ e ∈ es, EndsPlain e.key.toList) : Held ledger.state before es := by
  induction es generalizing before with
  | nil => trivial
  | cons e rest ih =>
    refine ⟨fun question hq => ?_,
      ih _ (by simpa using h) fun a ha => hes a (List.mem_cons_of_mem _ ha)⟩
    rw [keyAfter, h.held e.key (hes e List.mem_cons_self), getElem?_handed hq]
    rfl

theorem Settled.settle_held (h : Settled s before ledger) (hs : ledger.state = s)
    (he : ∀ question, e.finding.question? = some question →
      s.lookup (keyAfter before e) = some question.text) :
    resultAfter s before e = e.finding.ownResult ∧
      (Examiner.settle Baselines.store ledger e).2.state = s := by
  cases hq : e.finding.question? with
  | none => simp [resultAfter, settle_of_question?_none _ ledger hq, hq, hs]
  | some question =>
    have hheld := he question hq
    rw [settle_of_question?_some _ ledger hq]
    simp only [Ledger.compare, h.next_key e, hs, Baselines.ask_eq,
      Baselines.assertMatches_of_stored hheld, resultAfter, hq, hheld, Baselines.verdict_self,
      Finding.ownResult_of_question?_some hq, and_true]
    rfl

theorem Settled.settleAll_held {es : List Examined} (h : Settled s before ledger)
    (hs : ledger.state = s) (hes : ∀ e ∈ es, EndsPlain e.key.toList) (hheld : Held s before es) :
    outcomesAfter s before es = es.map (fun e => e.outcome e.finding.ownResult) ∧
      (Examiner.settleAll Baselines.store ledger es).2.state = s := by
  induction es generalizing before ledger with
  | nil => exact ⟨rfl, hs⟩
  | cons e rest ih =>
    obtain ⟨hresult, hstate⟩ := h.settle_held hs hheld.1
    have hnext := (h.settle (hes e List.mem_cons_self)).2
    obtain ⟨hrest, hlast⟩ := ih hnext hstate (fun a ha => hes a (List.mem_cons_of_mem _ ha)) hheld.2
    exact ⟨by rw [outcomesAfter, hresult, hrest, List.map_cons], hlast⟩

end Examiner

namespace Harness

/-- Record, then compare: a run over an empty store complains about no baseline, and a second run
over the store that it leaves behind has the same report and leaves that store as it is. -/
theorem runDirectory_records_then_compares (engine : Engine) {exceptions : Exceptions}
    {settings : Settings} {tree : FileTree} {dir : String} {runs : List PreparedRun}
    (hruns : prepareDirectory exceptions settings tree dir = .ok runs) :
    let h := inMemory engine exceptions settings
    ∃ report stored,
      (h.runDirectory tree dir []).value = (.ok report, stored) ∧
      (∀ outcome ∈ report, ∀ mismatch, outcome.result ≠ .error (.snapshot mismatch)) ∧
      (h.runDirectory tree dir stored).value = (.ok report, stored) := by
  intro h
  have hplain : ∀ e ∈ (schedule exceptions runs).map h.examiner.examined,
      EndsPlain e.key.toList := fun _ => h.examiner.endsPlain_key_of_mem
  obtain ⟨first, hfirst, hsettled⟩ := runDirectory_inMemory engine hruns []
  rw [Examiner.outcomesAfter_nil] at hfirst
  have hheld := Examiner.Settled.recorded [] _ hsettled hplain
  refine ⟨_, first.state, hfirst, ?_, ?_⟩
  · intro outcome houtcome
    rw [List.map_map, List.mem_map] at houtcome
    obtain ⟨slot, -, rfl⟩ := houtcome
    exact (h.examiner.examineEntry_unstored _ _).ownResult_ne
  · have hstart := Examiner.Settled.start first.state
    obtain ⟨hreport, hstate⟩ := hstart.settleAll_held rfl hplain hheld
    rw [h.runDirectory_value hruns, ← hreport]
    exact Prod.ext (congrArg Except.ok (hstart.settleAll _ hplain).1) hstate

theorem records_then_compares_repeatedRuns :
    let h := inMemory .echo {} Sample.settings
    ∃ report stored,
      (h.runDirectory (Sample.tree Sample.repeatedRuns) "d" []).value = (.ok report, stored) ∧
      (∀ outcome ∈ report, ∀ mismatch, outcome.result ≠ .error (.snapshot mismatch)) ∧
      (h.runDirectory (Sample.tree Sample.repeatedRuns) "d" stored).value =
        (.ok report, stored) := by
  obtain ⟨runs, hruns, -⟩ :=
    Sample.exists_runs (show Sample.hasSlots Sample.repeatedRuns 2 = true by decide +kernel)
  exact runDirectory_records_then_compares .echo hruns

end Harness

end FormatConformance
