import FormatConformance.Check.Deep

/-! When checks pass: a sequence of checks passes if each of them does, two texts agree if they are
equal, a probe passes if what comes out is what it expects. -/

namespace FormatConformance

theorem agree_eq_ok_iff {expected actual : Text} {failure : String → Failure} :
    agree expected actual failure = .ok () ↔ expected = actual := by
  rw [← diff_eq_none_iff, agree]
  cases diff expected actual <;> simp

namespace Check

variable {α β : Type}

def Passes (check : Check Unit) : Prop := check.run.value = .ok ()

theorem run_value_bind_eq_ok_iff {c : Check α} {f : α → Check β} {b : β} :
    (c >>= f).run.value = .ok b ↔ ∃ a, c.run.value = .ok a ∧ (f a).run.value = .ok b := by
  rw [ExceptT.run_bind, Logged.bind_value]
  cases h : c.run.value with
  | ok a => simp
  | error failure => simp

@[simp] theorem passes_pure : Passes (pure ()) := rfl

@[simp] theorem passes_require_iff {result : Except Failure Unit} :
    Passes (Subject.require result) ↔ result = .ok () := Iff.rfl

theorem passes_bind_iff {c : Check α} {f : α → Check Unit} :
    Passes (c >>= f) ↔ ∃ a, c.run.value = .ok a ∧ (f a).Passes :=
  run_value_bind_eq_ok_iff

theorem passes_seq_iff {c : Check Unit} {f : Unit → Check Unit} :
    Passes (c >>= f) ↔ c.Passes ∧ (f ()).Passes := by
  rw [passes_bind_iff]
  exact ⟨fun ⟨(), hc, hf⟩ => ⟨hc, hf⟩, fun ⟨hc, hf⟩ => ⟨(), hc, hf⟩⟩

theorem passes_forM_iff {xs : List α} {f : α → Check Unit} :
    Passes (xs.forM f) ↔ ∀ a ∈ xs, (f a).Passes := by
  induction xs with
  | nil => exact iff_of_true passes_pure nofun
  | cons a rest ih =>
    rw [List.forall_mem_cons, ← ih]
    exact passes_seq_iff

theorem calls_bind_of_silent (c : Check α) {f : α → Check β} (h : ∀ a, (f a).run.calls = []) :
    (c >>= f).run.calls = c.run.calls := by
  rw [ExceptT.run_bind, Logged.bind_calls]
  cases c.run.value with
  | ok a => exact (congrArg (c.run.calls ++ ·) (h a)).trans (List.append_nil _)
  | error failure => exact List.append_nil _

end Check

namespace Pass

variable {engine : Engine} {text : Text} {options : Options} {pass : Pass}

theorem exists_answer_of_run (h : (run engine text options).value = .ok pass) :
    ∃ answer, engine.format (Offsets.strip text).1 (sent text options) = .ok answer ∧
      pass = ofAnswer text options answer := by
  have hmap : (engine.format (Offsets.strip text).1 (sent text options)).map
      (ofAnswer text options) = .ok pass := h
  cases hanswer : engine.format (Offsets.strip text).1 (sent text options) with
  | error cause =>
    rw [hanswer] at hmap
    cases hmap
  | ok answer =>
    rw [hanswer] at hmap
    exact ⟨answer, rfl, (Except.ok.inj hmap).symm⟩

theorem spelledOutput_of_run (h : (run engine text options).value = .ok pass) :
    pass.spelledOutput = LineEnding.spellOut pass.outputWithCursor := by
  obtain ⟨answer, -, rfl⟩ := exists_answer_of_run h
  rfl

theorem outputWithCursor_of_run (h : (run engine text options).value = .ok pass) :
    ∃ cursor, pass.outputWithCursor = withCursor pass.output cursor := by
  obtain ⟨answer, -, rfl⟩ := exists_answer_of_run h
  exact ⟨answer.cursor, rfl⟩

theorem changed_eq_false_iff (h : (run engine text options).value = .ok pass) :
    pass.changed = false ↔ pass.outputWithCursor = pass.inputWithCursor := by
  obtain ⟨answer, -, rfl⟩ := exists_answer_of_run h
  exact bne_eq_false_iff_eq

def echoed (code : Text) (options : Options) : Pass :=
  ofAnswer code options ⟨(Offsets.strip code).1, (sent code options).offsets.cursor⟩

theorem run_echo (code : Text) (options : Options) :
    (run .echo code options).value = .ok (echoed code options) := rfl

end Pass

namespace Subject

theorem format_value_of_run {s : Subject} {text : Text} {pass : Pass}
    (h : (Pass.run s.engine text s.options).value = .ok pass) :
    (s.format text).run.value = .ok pass := by
  have hrefused : (s.format text).run.value =
      s.refused (Pass.run s.engine text s.options).value := rfl
  rw [hrefused, h]
  rfl

theorem format_calls (s : Subject) (text : Text) : (s.format text).run.calls =
    [⟨.format, (Offsets.strip text).1, s.options.withOffsets (Offsets.strip text).2⟩] := rfl

theorem parse_value_of_ok {s : Subject} {text : Text} {tree : Json}
    (h : s.engine.parse text s.options = .ok tree) : (s.parse text).run.value = .ok tree := by
  have hrefused : (s.parse text).run.value = s.refused (s.engine.parse text s.options) := rfl
  rw [hrefused, h]
  rfl

theorem checkEnding_passes_iff {s : Subject} {ending : LineEnding} {probed : Pass}
    (h : (Pass.run s.engine (LineEnding.substitute ending s.code) s.options).value = .ok probed) :
    (s.checkEnding ending).Passes ↔
      s.probedOutput ending = LineEnding.spellOut probed.outputWithCursor := by
  unfold checkEnding
  rw [Check.passes_bind_iff]
  simp only [format_value_of_run h, Except.ok.injEq, exists_eq_left', Check.passes_require_iff,
    agree_eq_ok_iff, Pass.spelledOutput_of_run h]

theorem checkDeeply_passes_iff (s : Subject) (unstable treeUnstable : Bool) :
    (s.checkDeeply unstable treeUnstable).Passes ↔
      (s.checkSettled unstable).Passes ∧ (s.checkTree treeUnstable).Passes ∧
        s.checkEndings.Passes ∧ s.checkByteOrderMark.Passes := by
  simp only [checkDeeply, Check.passes_seq_iff]

end Subject

end FormatConformance
