import Mathlib.Data.List.Forall2
import FormatConformance.Proofs.Harness.Schedule

/-!
Shallow and deep runs. A shallow run stops where a deep one goes on to format and parse again, so it
finds for each entry what the deep run finds, or nothing. Over empty stores no baseline decides
anything, whatever keys the two runs hand out, so this carries over from findings to outcomes.
-/

namespace FormatConformance

namespace Finding

variable {α : Type} {full quick : Finding}

/-- What a shallow examination finds is what the deep one finds, or nothing. -/
def Refines (full quick : Finding) : Prop := quick = full ∨ quick = .passed

theorem Refines.refl (finding : Finding) : finding.Refines finding := .inl rfl

theorem Refines.passed (full : Finding) : full.Refines .passed := .inr rfl

theorem Refines.ownResult_error (h : full.Refines quick) {failure : Failure}
    (hquick : quick.ownResult = .error failure) : full.ownResult = .error failure := by
  rcases h with rfl | rfl
  · exact hquick
  · cases hquick

theorem Refines.ownResult_ok (h : full.Refines quick) (hfull : full.ownResult = .ok ()) :
    quick.ownResult = .ok () := by
  rcases h with rfl | rfl
  · exact hfull
  · rfl

theorem refines_bind {c : Check α} {f g : α → Check Finding}
    (h : ∀ a, (ofCheck (f a).run.value).Refines (ofCheck (g a).run.value)) :
    (ofCheck (c >>= f).run.value).Refines (ofCheck (c >>= g).run.value) := by
  rw [ExceptT.run_bind, ExceptT.run_bind, Logged.bind_value, Logged.bind_value]
  cases c.run.value with
  | ok a => exact h a
  | error failure => exact .refl _

end Finding

namespace Examiner

variable (engine : Engine) (exceptions : Exceptions) (t : Trial) (entry : Entry)

theorem verify_refines (pass : Pass) (expected : Option Text) (options : Options) :
    (Finding.ofCheck ((Examiner.mk engine exceptions true).verify t entry pass expected
        options).run.value).Refines
      (Finding.ofCheck ((Examiner.mk engine exceptions false).verify t entry pass expected
        options).run.value) := by
  unfold verify
  refine Finding.refines_bind fun _ => ?_
  cases expected with
  | some text => exact .refl _
  | none => exact .passed _

theorem checkAgreement_refines (options : Options) (expected : Option Text) :
    ((Examiner.mk engine exceptions true).checkAgreement t entry options expected).value.Refines
      ((Examiner.mk engine exceptions false).checkAgreement t entry options expected).value := by
  unfold checkAgreement
  rw [Logged.bind_value, Logged.bind_value]
  cases (Pass.run engine t.fixture.code options).value with
  | error cause => exact .refl _
  | ok pass => exact verify_refines engine exceptions t entry pass expected options

theorem crossCheck_refines :
    ((Examiner.mk engine exceptions true).crossCheck t entry).value.Refines
      ((Examiner.mk engine exceptions false).crossCheck t entry).value := by
  unfold crossCheck
  dsimp only
  split
  · exact .refl _
  · cases t.primary with
    | formatted main => exact checkAgreement_refines engine exceptions t entry _ _
    | expectedFailure => exact checkAgreement_refines engine exceptions t entry _ _
    | failed cause => exact .refl _

theorem examineEntry_refines :
    ((Examiner.mk engine exceptions true).examineEntry t entry).value.Refines
      ((Examiner.mk engine exceptions false).examineEntry t entry).value := by
  unfold examineEntry
  split
  · exact verify_refines engine exceptions t entry _ _ _
  · exact .refl _
  · exact crossCheck_refines engine exceptions t entry

theorem examined_refines (slot : Slot) :
    ((Examiner.mk engine exceptions true).examined slot).finding.Refines
      ((Examiner.mk engine exceptions false).examined slot).finding :=
  examineEntry_refines engine exceptions
    ((Examiner.mk engine exceptions false).trial slot.plan slot.fixture).value slot.entry

end Examiner

theorem prepareDirectory_of_depth {exceptions : Exceptions} {settings : Settings} {tree : FileTree}
    {dir : String} {runs : List PreparedRun}
    (hruns : prepareDirectory exceptions settings tree dir = .ok runs) (deep : Bool) :
    prepareDirectory exceptions { settings with deep } tree dir = .ok runs := hruns

namespace Harness

/-- Deep runs refine shallow ones: over empty stores both have outcomes for the same entries in the
same order, an entry that fails in the shallow run fails in the deep one for the same reason, and an
entry that passes in the deep run passes in the shallow one. -/
theorem runDirectory_deep_refines_shallow (engine : Engine) {exceptions : Exceptions}
    {settings : Settings} {tree : FileTree} {dir : String} {runs : List PreparedRun}
    (hruns : prepareDirectory exceptions settings tree dir = .ok runs) :
    ∃ quick full,
      ((inMemory engine exceptions { settings with deep := false }).runDirectory tree dir
        []).value.1 = .ok quick ∧
      ((inMemory engine exceptions { settings with deep := true }).runDirectory tree dir
        []).value.1 = .ok full ∧
      List.Forall₂ (fun (shallow deep : Outcome) =>
          shallow.fixture = deep.fixture ∧ shallow.title = deep.title ∧
          shallow.grammar = deep.grammar ∧
          (∀ failure, shallow.result = .error failure → deep.result = .error failure) ∧
          (deep.result = .ok () → shallow.result = .ok ()))
        quick full := by
  obtain ⟨_, hquick, -⟩ := runDirectory_inMemory engine (prepareDirectory_of_depth hruns false) []
  obtain ⟨_, hfull, -⟩ := runDirectory_inMemory engine (prepareDirectory_of_depth hruns true) []
  rw [Examiner.outcomesAfter_nil] at hquick hfull
  refine ⟨_, _, congrArg Prod.fst hquick, congrArg Prod.fst hfull, ?_⟩
  rw [List.map_map, List.map_map, List.forall₂_map_left_iff, List.forall₂_map_right_iff,
    List.forall₂_same]
  intro slot _
  have hrefines := Examiner.examined_refines engine exceptions slot
  exact ⟨rfl, rfl, rfl, fun _ => hrefines.ownResult_error, hrefines.ownResult_ok⟩

theorem deep_refines_shallow_failingRuns :
    ∃ runs, prepareDirectory {} Sample.settings (Sample.tree Sample.failingRuns) "d" = .ok runs ∧
      (schedule {} runs).length = 4 ∧ ∃ quick full,
      ((inMemory .echo {} { Sample.settings with deep := false }).runDirectory
        (Sample.tree Sample.failingRuns) "d" []).value.1 = .ok quick ∧
      ((inMemory .echo {} { Sample.settings with deep := true }).runDirectory
        (Sample.tree Sample.failingRuns) "d" []).value.1 = .ok full ∧
      List.Forall₂ (fun (shallow deep : Outcome) =>
          shallow.fixture = deep.fixture ∧ shallow.title = deep.title ∧
          shallow.grammar = deep.grammar ∧
          (∀ failure, shallow.result = .error failure → deep.result = .error failure) ∧
          (deep.result = .ok () → shallow.result = .ok ()))
        quick full := by
  obtain ⟨runs, hruns, hlength⟩ :=
    Sample.exists_runs (show Sample.hasSlots Sample.failingRuns 4 = true by decide +kernel)
  exact ⟨runs, hruns, hlength, runDirectory_deep_refines_shallow .echo hruns⟩

end Harness

end FormatConformance
