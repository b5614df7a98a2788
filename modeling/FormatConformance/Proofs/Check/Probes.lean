import FormatConformance.Engine.Statements
import FormatConformance.Proofs.Check.Passing
import FormatConformance.Proofs.Marker.RoundTrips
import FormatConformance.Proofs.Marker.Substitution
import FormatConformance.Proofs.Text.SpelledOut

/-!
What the probes format and what they expect. Other terminators or a byte order mark in a fixture
change nothing else of what the engine is given: the text without markers is changed in the same way
and the offsets are those of the same places. A fixture without line feeds is given to it once more
as it is, but an engine that keeps terminators is still expected to write other ones.
-/

namespace FormatConformance

open LineEnding

theorem Offsets.strip_substitute_count (ending : LineEnding) (t : Text) :
    strip (substitute ending t) =
      (substitute ending (strip t).1,
        (strip t).2.map fun n =>
          n + ((strip t).1.take n).count '\n' * (ending.chars.length - 1)) := by
  rw [strip_substitute]
  congr 1
  refine map_congr fun m n hget => afterSubstitution_eq ending ?_
  have hwithin : n ≤ 0 + (strip t).1.length := (get_stripFrom_bounds 0 hget).2
  rwa [Nat.zero_add] at hwithin

namespace Subject

variable {engine : Engine} {code : Text} {options : Options} {pass : Pass} {ending : LineEnding}

theorem checkEnding_calls (s : Subject) (ending : LineEnding) :
    (s.checkEnding ending).run.calls = (s.format (substitute ending s.code)).run.calls :=
  Check.calls_bind_of_silent _ fun _ => rfl

theorem checkByteOrderMark_calls (s : Subject) :
    s.checkByteOrderMark.run.calls =
      if s.code.head? = some byteOrderMark then []
      else (s.format (byteOrderMark :: s.code)).run.calls := by
  unfold checkByteOrderMark
  by_cases h : s.code.head? = some byteOrderMark
  · rw [if_pos (beq_iff_eq.2 h), if_pos h]
    rfl
  · rw [if_neg (mt beq_iff_eq.1 h), if_neg h]
    exact Check.calls_bind_of_silent _ fun _ => rfl

/-- The fixture with other terminators is read as its text with other terminators and the offsets
of the same places, each line feed in front of one moving it by what the terminator has more; a byte
order mark moves them all by one. This is what the probes ask the engine to format. -/
theorem probes_format_changed_input (code : Text) :
    let input := (Offsets.strip code).1
    let found := (Offsets.strip code).2
    let moved (ending : LineEnding) := found.map fun n =>
      n + (input.take n).count '\n' * (ending.chars.length - 1)
    (∀ ending : LineEnding,
      Offsets.strip (substitute ending code) = (substitute ending input, moved ending)) ∧
    Offsets.strip (byteOrderMark :: code) = (byteOrderMark :: input, found.map (· + 1)) ∧
    ∀ (engine : Engine) (options : Options) (pass : Pass),
      let s : Subject := ⟨engine, code, options, pass⟩
      (∀ ending : LineEnding, (s.checkEnding ending).run.calls =
        [⟨.format, substitute ending input, options.withOffsets (moved ending)⟩]) ∧
      s.checkByteOrderMark.run.calls =
        if code.head? = some byteOrderMark then []
        else [⟨.format, byteOrderMark :: input, options.withOffsets (found.map (· + 1))⟩] := by
  intro input found moved
  have hending : ∀ ending : LineEnding,
      Offsets.strip (substitute ending code) = (substitute ending input, moved ending) :=
    fun ending => Offsets.strip_substitute_count ending code
  have hmark : Offsets.strip (byteOrderMark :: code) =
      (byteOrderMark :: input, found.map (· + 1)) := by
    rw [Offsets.strip_byteOrderMark]
    simp only [Nat.add_comm 1, input, found]
  refine ⟨hending, hmark, fun engine options pass => ⟨fun ending => ?_, ?_⟩⟩
  · rw [checkEnding_calls, format_calls, hending]
  · rw [checkByteOrderMark_calls, format_calls, hmark]

theorem checkEnding_without_feeds_iff (hrun : (Pass.run engine code options).value = .ok pass)
    (hcode : '\n' ∉ code) (hending : ending ≠ lf) :
    ((⟨engine, code, options, pass⟩ : Subject).checkEnding ending).Passes ↔
      options.keepsEndOfLine = false ∨ '\n' ∉ pass.output := by
  obtain ⟨cursor, hcursor⟩ := Pass.outputWithCursor_of_run hrun
  have hfeed : '\n' ∈ pass.outputWithCursor ↔ '\n' ∈ pass.output := by
    rw [hcursor]
    exact mem_withCursor_iff (by decide)
  have hprobe : (Pass.run engine (substitute ending code) options).value = .ok pass := by
    rw [substitute_of_no_feed ending hcode]
    exact hrun
  rw [checkEnding_passes_iff (s := ⟨engine, code, options, pass⟩) hprobe, probedOutput]
  cases options.keepsEndOfLine with
  | false => simp [Pass.spelledOutput_of_run hrun]
  | true =>
    simp only [if_true, Bool.true_eq_false, false_or]
    rw [spellOut_substitute_eq_iff hending, hfeed]

/-- The probes of a fixture without line feeds pass unless an engine that is told to keep
terminators writes a line feed. -/
theorem checkEndings_without_feeds_iff (hrun : (Pass.run engine code options).value = .ok pass)
    (hcode : '\n' ∉ code) :
    (⟨engine, code, options, pass⟩ : Subject).checkEndings.Passes ↔
      skipsEndOfLine code pass.options = true ∨ options.keepsEndOfLine = false ∨
        '\n' ∉ pass.output := by
  unfold checkEndings
  split
  · rename_i hskips
    exact iff_of_true Check.passes_pure (.inl hskips)
  · rename_i hprobed
    have hprobes : ∀ ending ∈ probes, ending ≠ lf := by decide
    rw [Check.passes_forM_iff, or_iff_right hprobed]
    constructor
    · intro h
      have hcrlf := h crlf List.mem_cons_self
      exact (checkEnding_without_feeds_iff hrun hcode (hprobes crlf List.mem_cons_self)).1 hcrlf
    · intro h ending hending
      exact (checkEnding_without_feeds_iff hrun hcode (hprobes ending hending)).2 h

def terminated (endOfLine : String) : Options :=
  { parser := some .flow, rest := [("endOfLine", .string endOfLine)] }

def statementPass (endOfLine : String) : Pass :=
  .ofAnswer ['a'] (terminated endOfLine) ⟨['a', ';', '\n'], none⟩

theorem checkEndings_without_feeds_iff_fixedEnding :
    (Pass.run Statements.engine ['a'] (terminated "lf")).value = .ok (statementPass "lf") ∧
      '\n' ∉ ['a'] ∧ '\n' ∈ (statementPass "lf").output ∧
      (⟨Statements.engine, ['a'], terminated "lf", statementPass "lf"⟩ :
        Subject).checkEndings.Passes := by
  have hrun : (Pass.run Statements.engine ['a'] (terminated "lf")).value =
      .ok (statementPass "lf") := rfl
  have hcode : '\n' ∉ ['a'] := by decide
  have hkeeps : (terminated "lf").keepsEndOfLine = false := by decide
  exact ⟨hrun, hcode, by decide, (checkEndings_without_feeds_iff hrun hcode).2 (.inr (.inl hkeeps))⟩

/-- An engine fails the probes although each of them is the fixture itself. -/
theorem checkEndings_blames_untouched_fixture :
    '\n' ∉ ['a'] ∧ (∀ ending : LineEnding, substitute ending ['a'] = ['a']) ∧
      (Pass.run Statements.engine ['a'] (terminated "auto")).value = .ok (statementPass "auto") ∧
      ∃ difference, (⟨Statements.engine, ['a'], terminated "auto", statementPass "auto"⟩ :
        Subject).checkEndings.run.value = .error (.endOfLineProbe .crlf difference) :=
  ⟨by decide, fun _ => rfl, rfl, _, rfl⟩

end Subject

end FormatConformance
