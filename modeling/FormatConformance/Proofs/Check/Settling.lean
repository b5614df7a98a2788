import FormatConformance.Engine.Statements
import FormatConformance.Proofs.Check.Passing
import FormatConformance.Proofs.Marker.FirstTokens

/-!
Formatting and parsing again. A fixture is spared a second pass where the first one changed nothing
or took markers out. Without markers and offsets an unchanged output is the fixture itself, so what
is spared would have passed. Offsets that are declared among the options do not spare a fixture.
-/

namespace FormatConformance

variable {engine : Engine} {code : Text} {options : Options} {pass : Pass} {unstable : Bool}

theorem eq_of_withCursor_eq {t : Text} {cursor : Option Nat}
    (hcode : ¬ Marker.cursor.token <:+: code) (h : withCursor t cursor = code) : t = code := by
  cases cursor with
  | none => exact h
  | some n => exact absurd ⟨t.take n, t.drop n, h⟩ hcode

namespace Pass

theorem input_eq_code_iff (hrun : (run engine code options).value = .ok pass) :
    pass.input = code ↔ ∀ m : Marker, ¬ m.token <:+: code := by
  obtain ⟨answer, -, rfl⟩ := exists_answer_of_run hrun
  exact Offsets.strip_eq_self_iff

theorem isSome_get_offsets_iff (hrun : (run engine code options).value = .ok pass) (m : Marker) :
    (pass.options.offsets.get m).isSome = true ↔
      m.token <:+: code ∨ (options.offsets.get m).isSome = true := by
  obtain ⟨answer, -, rfl⟩ := exists_answer_of_run hrun
  have hsent : (sent code options).offsets.get m =
      ((Offsets.strip code).2.get m).or (options.offsets.get m) :=
    Options.get_offsets_withOffsets options (Offsets.strip code).2 m
  have hfound := Offsets.isSome_get_strip_iff (m := m) (t := code)
  change ((sent code options).offsets.get m).isSome = true ↔ _
  rw [hsent, Option.isSome_or, Bool.or_eq_true, hfound]

theorem output_eq_of_unchanged (hrun : (run engine code options).value = .ok pass)
    (hcode : ∀ m : Marker, ¬ m.token <:+: code) (hoptions : options.offsets = {})
    (hunchanged : pass.changed = false) : pass.output = code := by
  have hshown := (changed_eq_false_iff hrun).1 hunchanged
  obtain ⟨answer, -, rfl⟩ := exists_answer_of_run hrun
  have htext : (Offsets.strip code).1 = code := Offsets.strip_eq_self_iff.2 hcode
  have hnone : (Offsets.strip code).2 = {} := Offsets.strip_offsets_eq_empty_iff.2 hcode
  have hinput : (ofAnswer code options answer).inputWithCursor = code := by
    simp [ofAnswer, sent, Options.withOffsets, htext, hnone, hoptions, withCursor]
  rw [hinput] at hshown
  exact eq_of_withCursor_eq (hcode .cursor) hshown

end Pass

namespace Subject

variable {s : Subject}

def Spared (s : Subject) (unstable : Bool) : Prop :=
  s.pass.input ≠ s.code ∨ s.pass.changed = false ∧ unstable = false

theorem spared_iff : s.Spared unstable ↔
    (!(s.pass.changed || unstable) || s.pass.input != s.code) = true := by
  simp [Spared, or_comm]

theorem checkSettled_of_spared (h : s.Spared unstable) : s.checkSettled unstable = pure () :=
  if_pos (spared_iff.1 h)

theorem checkSettled_passes_iff {second : Pass}
    (hsecond : (Pass.run s.engine s.pass.output s.options).value = .ok second) :
    (s.checkSettled unstable).Passes ↔ s.Spared unstable ∨
      (s.pass.spelledOutput = second.spelledOutput ↔ unstable = false) := by
  by_cases hspared : s.Spared unstable
  · rw [checkSettled_of_spared hspared]
    exact iff_of_true Check.passes_pure (.inl hspared)
  · rw [checkSettled, if_neg (mt spared_iff.2 hspared), Check.passes_bind_iff, or_iff_right hspared]
    simp only [format_value_of_run hsecond, Except.ok.injEq, exists_eq_left']
    rw [← diff_eq_none_iff]
    cases diff s.pass.spelledOutput second.spelledOutput <;> cases unstable <;> simp [Check.Passes]

theorem checkSettled_calls (h : ¬ s.Spared unstable) :
    (s.checkSettled unstable).run.calls = (s.format s.pass.output).run.calls := by
  rw [checkSettled, if_neg (mt spared_iff.2 h)]
  refine Check.calls_bind_of_silent _ fun second => ?_
  split <;> rfl

theorem checkTree_passes_iff {before after : Json}
    (hbefore : s.engine.parse s.pass.input s.options = .ok before)
    (hafter : s.engine.parse s.pass.output s.options = .ok after) :
    (s.checkTree unstable).Passes ↔ s.pass.changed = false ∨ isVoid s.code = true ∨
      ((before == after) = true ↔ unstable = false) := by
  unfold checkTree
  by_cases hskips : (!s.pass.changed || isVoid s.code) = true
  · rw [if_pos hskips]
    rw [Bool.or_eq_true, Bool.not_eq_true'] at hskips
    exact iff_of_true Check.passes_pure (or_assoc.1 (.inl hskips))
  · rw [if_neg hskips, Check.passes_bind_iff]
    rw [Bool.or_eq_true, Bool.not_eq_true'] at hskips
    rw [← or_assoc, or_iff_right hskips]
    simp only [parse_value_of_ok hbefore, parse_value_of_ok hafter, Check.passes_bind_iff,
      Except.ok.injEq, exists_eq_left']
    cases before == after <;> cases unstable <;> simp [Check.Passes]

theorem spared_iff_of_run (hrun : (Pass.run engine code options).value = .ok pass) :
    (⟨engine, code, options, pass⟩ : Subject).Spared unstable ↔
      (∃ m : Marker, m.token <:+: code) ∨ pass.changed = false ∧ unstable = false := by
  have hinput := Pass.input_eq_code_iff hrun
  simp only [Spared, ne_eq, hinput, not_forall, not_not]

/-- A pass that changes nothing hides nothing: without markers and offsets its output is the text
itself. The check of settled output then decides whether a second pass gives the same output, and it
passes for a fixture that is known not to settle exactly if it fails for other ones; the check of
trees decides whether both trees are the same. -/
theorem unchanged_hides_nothing (hrun : (Pass.run engine code options).value = .ok pass)
    (hcode : ∀ m : Marker, ¬ m.token <:+: code) (hoptions : options.offsets = {}) :
    let s : Subject := ⟨engine, code, options, pass⟩
    (pass.changed = false → pass.output = code) ∧
    (∀ second, (Pass.run engine pass.output options).value = .ok second →
      ((s.checkSettled false).Passes ↔ second.spelledOutput = pass.spelledOutput) ∧
        ((s.checkSettled true).Passes ↔ ¬ (s.checkSettled false).Passes)) ∧
    ∀ before after, engine.parse pass.input options = .ok before →
      engine.parse pass.output options = .ok after → isVoid code = false →
        ((s.checkTree false).Passes ↔ (before == after) = true) := by
  intro s
  have houtput := Pass.output_eq_of_unchanged hrun hcode hoptions
  have hnone : ¬ ∃ m : Marker, m.token <:+: code := fun ⟨m, hm⟩ => hcode m hm
  refine ⟨houtput, fun second hsecond => ?_, fun before after hbefore hafter hvoid => ?_⟩
  · have hsame : pass.changed = false → pass.spelledOutput = second.spelledOutput := by
      intro hunchanged
      rw [houtput hunchanged, hrun] at hsecond
      rw [Except.ok.inj hsecond]
    have hsettled : (s.checkSettled false).Passes ↔ pass.spelledOutput = second.spelledOutput := by
      rw [checkSettled_passes_iff (s := s) hsecond, spared_iff_of_run hrun, or_iff_right hnone]
      simp only [and_true, iff_true]
      exact or_iff_right_of_imp hsame
    have hunsettled : (s.checkSettled true).Passes ↔
        pass.spelledOutput ≠ second.spelledOutput := by
      rw [checkSettled_passes_iff (s := s) hsecond, spared_iff_of_run hrun, or_iff_right hnone]
      simp [s]
    exact ⟨hsettled.trans eq_comm, hunsettled.trans hsettled.not.symm⟩
  · have hsame : pass.changed = false → (before == after) = true := by
      intro hunchanged
      have hinput : pass.input = code := (Pass.input_eq_code_iff hrun).2 hcode
      rw [houtput hunchanged, ← hinput, hbefore] at hafter
      rw [← Except.ok.inj hafter]
      exact beq_self_eq_true before
    rw [checkTree_passes_iff (s := s) hbefore hafter]
    simp only [s, hvoid, Bool.false_eq_true, false_or, iff_true]
    exact or_iff_right_of_imp hsame

def unseparated : Options := { parser := some .flow, rest := [("semi", .bool false)] }

def twoStatements : Text := ['a', ';', '\n', 'b', ';', '\n']

def firstPass : Pass := .ofAnswer twoStatements unseparated ⟨['a', '\n', 'b', '\n'], none⟩

def secondPass : Pass := .ofAnswer ['a', '\n', 'b', '\n'] unseparated ⟨['a', ' ', 'b', '\n'], none⟩

theorem unchanged_hides_nothing_unseparated :
    let s : Subject := ⟨Statements.engine, twoStatements, unseparated, firstPass⟩
    let before := Json.array [.array [.string "a"], .array [.string "b"]]
    let after := Json.array [.array [.string "a", .string "b"]]
    (Pass.run Statements.engine twoStatements unseparated).value = .ok firstPass ∧
      (∀ m : Marker, ¬ m.token <:+: twoStatements) ∧ unseparated.offsets = {} ∧
      (Pass.run Statements.engine firstPass.output unseparated).value = .ok secondPass ∧
      Statements.engine.parse firstPass.input unseparated = .ok before ∧
      Statements.engine.parse firstPass.output unseparated = .ok after ∧
      isVoid twoStatements = false ∧
      ¬ (s.checkSettled false).Passes ∧ (s.checkSettled true).Passes ∧
      ¬ (s.checkTree false).Passes := by
  intro s before after
  have hrun : (Pass.run Statements.engine twoStatements unseparated).value = .ok firstPass := rfl
  have hcode : ∀ m : Marker, ¬ m.token <:+: twoStatements := fun m => by cases m <;> decide
  have hsecond : (Pass.run Statements.engine firstPass.output unseparated).value =
      .ok secondPass := rfl
  have hdiffers : secondPass.spelledOutput ≠ firstPass.spelledOutput := by decide
  have hbefore : Statements.engine.parse firstPass.input unseparated = .ok before := rfl
  have hafter : Statements.engine.parse firstPass.output unseparated = .ok after := rfl
  have hvoid : isVoid twoStatements = false := by decide
  have htrees : ¬ (before == after) = true := by decide
  obtain ⟨-, hsettled, htree⟩ := unchanged_hides_nothing hrun hcode rfl
  obtain ⟨hstable, hunstable⟩ := hsettled secondPass hsecond
  have hfails := mt hstable.1 hdiffers
  exact ⟨hrun, hcode, rfl, hsecond, hbefore, hafter, hvoid, hfails, hunstable.2 hfails,
    mt (htree before after hbefore hafter hvoid).1 htrees⟩

/-- An offset is sent if a marker asks for it or the options declare it, but only markers spare a
fixture that the pass changes or that is known not to settle. Where no marker does, the output is
formatted again with the offsets that are declared. -/
theorem checkSettled_silent_iff (hrun : (Pass.run engine code options).value = .ok pass)
    (unstable : Bool) :
    let s : Subject := ⟨engine, code, options, pass⟩
    let calls := (s.checkSettled unstable).run.calls
    (∀ m : Marker, (pass.options.offsets.get m).isSome = true ↔
      m.token <:+: code ∨ (options.offsets.get m).isSome = true) ∧
    (calls = [] ↔ (∃ m : Marker, m.token <:+: code) ∨ pass.changed = false ∧ unstable = false) ∧
    (calls = [] → (s.checkSettled unstable).Passes) ∧
    (calls ≠ [] → calls = [⟨.format, (Offsets.strip pass.output).1,
      options.withOffsets (Offsets.strip pass.output).2⟩]) := by
  intro s calls
  have hspared : s.Spared unstable ↔ _ := spared_iff_of_run hrun
  have hsilent : s.Spared unstable → calls = [] ∧ (s.checkSettled unstable).Passes := by
    intro h
    simp only [calls, checkSettled_of_spared h]
    exact ⟨rfl, Check.passes_pure⟩
  have hcalls : ¬ s.Spared unstable → calls = [⟨.format, (Offsets.strip pass.output).1,
      options.withOffsets (Offsets.strip pass.output).2⟩] :=
    fun h => (checkSettled_calls h).trans (format_calls s pass.output)
  have hiff : calls = [] ↔ s.Spared unstable := by
    refine ⟨fun h => ?_, fun h => (hsilent h).1⟩
    by_contra hnot
    rw [hcalls hnot] at h
    cases h
  exact ⟨Pass.isSome_get_offsets_iff hrun, hiff.trans hspared, fun h => (hsilent (hiff.1 h)).2,
    fun h => hcalls (mt hiff.2 h)⟩

def withCursorBetween : Text := ['a', ';'] ++ Marker.cursor.token ++ ['\n', 'b', ';', '\n']

theorem checkSettled_silent_iff_cursor :
    let pass := Pass.ofAnswer withCursorBetween unseparated ⟨['a', '\n', 'b', '\n'], some 1⟩
    let s : Subject := ⟨Statements.engine, withCursorBetween, unseparated, pass⟩
    (Pass.run Statements.engine withCursorBetween unseparated).value = .ok pass ∧
      pass.changed = true ∧ (pass.options.offsets.get .cursor).isSome = true ∧
      (s.checkSettled true).run.calls = [] ∧ (s.checkSettled true).Passes := by
  intro pass s
  have hrun : (Pass.run Statements.engine withCursorBetween unseparated).value = .ok pass := rfl
  have hmarker : Marker.cursor.token <:+: withCursorBetween :=
    ⟨['a', ';'], ['\n', 'b', ';', '\n'], rfl⟩
  obtain ⟨hsent, hsilent, hpasses, -⟩ := checkSettled_silent_iff hrun true
  have hcalls := hsilent.2 (.inl ⟨.cursor, hmarker⟩)
  exact ⟨hrun, by decide, (hsent .cursor).2 (.inl hmarker), hcalls, hpasses hcalls⟩

def ranged : Options := { unseparated with offsets := { rangeStart := some 0, rangeEnd := some 2 } }

/-- A run that asks for a range among its options has its output formatted again. -/
theorem checkSettled_formats_declared_range :
    let pass := Pass.ofAnswer twoStatements ranged ⟨['a', '\n', 'b', '\n'], none⟩
    let s : Subject := ⟨Statements.engine, twoStatements, ranged, pass⟩
    (Pass.run Statements.engine twoStatements ranged).value = .ok pass ∧
      (pass.options.offsets.get .rangeStart).isSome = true ∧
      (pass.options.offsets.get .rangeEnd).isSome = true ∧
      (s.checkSettled false).run.calls ≠ [] ∧
      ∃ difference, (s.checkSettled false).run.value = .error (.notIdempotent difference) :=
  ⟨rfl, by decide, by decide, List.cons_ne_nil _ _, _, rfl⟩

end Subject

end FormatConformance
