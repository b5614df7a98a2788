import FormatConformance.Check.Deep

/-!
Why checks fail. Checks see the engine and the options only, so none of them complains about a
baseline.
-/

namespace FormatConformance

def Failure.Unstored (failure : Failure) : Prop := ∀ mismatch, failure ≠ .snapshot mismatch

theorem agree_error {expected actual : Text} {failure : String → Failure} {found : Failure}
    (h : agree expected actual failure = .error found) :
    ∃ difference, found = failure difference := by
  unfold agree at h
  split at h
  · rename_i difference _
    exact ⟨difference, (Except.error.inj h).symm⟩
  · cases h

namespace Check

variable {α β : Type} {p : Failure → Prop}

def FailsOnly (p : Failure → Prop) (check : Check α) : Prop :=
  ∀ failure, check.run.value = .error failure → p failure

theorem failsOnly_pure (a : α) : FailsOnly p (pure a) := nofun

theorem failsOnly_throw {failure : Failure} (h : p failure) :
    FailsOnly p (throw failure : Check α) := by
  rintro _ ⟨⟩
  exact h

theorem failsOnly_require {result : Except Failure Unit}
    (h : ∀ failure, result = .error failure → p failure) : FailsOnly p (Subject.require result) := h

theorem FailsOnly.bind {c : Check α} {f : α → Check β} (hc : FailsOnly p c)
    (hf : ∀ a, FailsOnly p (f a)) : FailsOnly p (c >>= f) := by
  intro failure h
  rw [ExceptT.run_bind, Logged.bind_value] at h
  cases hvalue : c.run.value with
  | ok a => exact hf a failure (by simpa [hvalue] using h)
  | error first =>
    obtain rfl : first = failure := by simpa [hvalue] using h
    exact hc first hvalue

theorem FailsOnly.forM {xs : List α} {f : α → Check Unit} (h : ∀ a, FailsOnly p (f a)) :
    FailsOnly p (xs.forM f) := by
  induction xs with
  | nil => exact failsOnly_pure ()
  | cons a rest ih => exact (h a).bind fun _ => ih

end Check

namespace Subject

open Check

variable (s : Subject)

theorem refused_unstored {α : Type} (answer : Logged (Except Rejection α)) :
    FailsOnly Failure.Unstored (ExceptT.mk (answer.map s.refused)) := by
  intro failure h
  have hrefused : s.refused answer.value = .error failure := h
  cases hanswer : answer.value with
  | ok a =>
    rw [hanswer] at hrefused
    cases hrefused
  | error cause =>
    rw [hanswer] at hrefused
    cases hrefused
    exact nofun

theorem format_unstored (text : Text) : FailsOnly Failure.Unstored (s.format text) :=
  s.refused_unstored _

theorem parse_unstored (text : Text) : FailsOnly Failure.Unstored (s.parse text) :=
  s.refused_unstored _

theorem agree_unstored {expected actual : Text} {failure : String → Failure}
    (h : ∀ difference, (failure difference).Unstored) :
    FailsOnly Failure.Unstored (require (agree expected actual failure)) := by
  refine failsOnly_require fun found hfound => ?_
  obtain ⟨difference, rfl⟩ := agree_error hfound
  exact h difference

theorem checkEndOfLine_unstored (pass : Pass) :
    FailsOnly Failure.Unstored (require pass.checkEndOfLine) := agree_unstored fun _ => nofun

theorem checkOutput_unstored (pass : Pass) (expected : Text) (label : String) :
    FailsOnly Failure.Unstored (require (pass.checkOutput expected label)) :=
  agree_unstored fun _ => nofun

theorem checkSettled_unstored (unstable : Bool) :
    FailsOnly Failure.Unstored (s.checkSettled unstable) := by
  unfold checkSettled
  split
  · exact failsOnly_pure ()
  · refine (s.format_unstored _).bind fun second => ?_
    split
    · exact failsOnly_throw nofun
    · exact failsOnly_throw nofun
    · exact failsOnly_pure ()

theorem checkTree_unstored (unstable : Bool) :
    FailsOnly Failure.Unstored (s.checkTree unstable) := by
  unfold checkTree
  split
  · exact failsOnly_pure ()
  · refine (s.parse_unstored _).bind fun before => (s.parse_unstored _).bind fun after => ?_
    split
    · exact failsOnly_throw nofun
    · exact failsOnly_throw nofun
    · exact failsOnly_pure ()

theorem checkEndings_unstored : FailsOnly Failure.Unstored s.checkEndings := by
  unfold checkEndings
  split
  · exact failsOnly_pure ()
  · exact FailsOnly.forM fun _ => (s.format_unstored _).bind fun _ => agree_unstored fun _ => nofun

theorem checkByteOrderMark_unstored : FailsOnly Failure.Unstored s.checkByteOrderMark := by
  unfold checkByteOrderMark
  split
  · exact failsOnly_pure ()
  · exact (s.format_unstored _).bind fun _ => agree_unstored fun _ => nofun

theorem checkDeeply_unstored (unstable treeUnstable : Bool) :
    FailsOnly Failure.Unstored (s.checkDeeply unstable treeUnstable) :=
  (s.checkSettled_unstored unstable).bind fun _ => (s.checkTree_unstored treeUnstable).bind
    fun _ => s.checkEndings_unstored.bind fun _ => s.checkByteOrderMark_unstored

end Subject

end FormatConformance
