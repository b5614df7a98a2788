import FormatConformance.Proofs.Check.Passing
import FormatConformance.Proofs.Text.SpelledOut

/-!
What comparisons of spelled texts tell. The check of terminators passes exactly the outputs that use
one terminator, whatever they spell out themselves. Where neither text spells a terminator out, the
comparison with an expected output is one of the texts themselves.
-/

namespace FormatConformance

namespace LineEnding

variable {t : Text} {cursor : Option Nat}

theorem terminators_withCursor (n : Nat) :
    terminators (withCursor t (some n)) = terminators (t.take n) ++ terminators (t.drop n) := by
  have hfirst : (Marker.cursor.token ++ t.drop n).head? = some '<' := rfl
  have hlast : Marker.cursor.token.getLast? = some '>' := by decide
  have hnone : terminators Marker.cursor.token = [] := by decide
  rw [withCursor, Text.insertAt, List.append_assoc, terminators_append (by simp [hfirst]),
    terminators_append (by simp [hlast]), hnone, List.nil_append]

theorem Uniform.of_withCursor (h : Uniform (withCursor t cursor)) : Uniform t := by
  cases cursor with
  | none => exact h
  | some n =>
    have hshown := terminators_withCursor (t := t) n
    unfold Uniform at h ⊢
    rw [hshown] at h
    have hwhole : terminators (t.take n ++ t.drop n) =
        terminators (t.take n) ++ terminators (t.drop n) := by
      refine terminators_append fun hlast hhead => ?_
      have hcr := List.mem_append_left (terminators (t.drop n)) (cr_mem_terminators hlast)
      have hlf := List.mem_append_right (terminators (t.take n)) (lf_mem_terminators hhead)
      cases h cr hcr lf hlf
    rw [List.take_append_drop] at hwhole
    rw [hwhole]
    exact h

end LineEnding

namespace Pass

open LineEnding

variable {engine : Engine} {code expected : Text} {options : Options} {pass : Pass}

theorem checkEndOfLine_eq_ok_iff (h : (run engine code options).value = .ok pass) :
    pass.checkEndOfLine = .ok () ↔ Uniform pass.outputWithCursor := by
  rw [checkEndOfLine, agree_eq_ok_iff, spelledOutput_of_run h, spellOut_unify_eq_iff]

theorem uniform_output (h : (run engine code options).value = .ok pass)
    (huniform : Uniform pass.outputWithCursor) : Uniform pass.output := by
  obtain ⟨cursor, hcursor⟩ := outputWithCursor_of_run h
  rw [hcursor] at huniform
  exact huniform.of_withCursor

theorem checkOutput_eq_ok_iff (h : (run engine code options).value = .ok pass) (label : String) :
    pass.checkOutput expected label = .ok () ↔
      spellOut expected = spellOut pass.outputWithCursor := by
  rw [checkOutput, agree_eq_ok_iff, spelledOutput_of_run h]

/-- The check of terminators decides whether the output with its cursor uses one terminator only;
the output itself does so then. A text is its pieces with its terminators between them. Bringing
these into line keeps the pieces, how many terminators there are and the first one, is done once and
leaves just the uniform texts as they are. -/
theorem checkEndOfLine_decides_uniformity :
    (∀ {engine : Engine} {code : Text} {options : Options} {pass : Pass},
      (run engine code options).value = .ok pass →
        (pass.checkEndOfLine = .ok () ↔ Uniform pass.outputWithCursor) ∧
          (pass.checkEndOfLine = .ok () → Uniform pass.output)) ∧
    ∀ t : Text, joined (pieces t) (terminators t) = t ∧
      unify (unify t) = unify t ∧ pieces (unify t) = pieces t ∧
      (terminators (unify t)).length = (terminators t).length ∧ guess (unify t) = guess t ∧
      (unify t = t ↔ Uniform t) := by
  refine ⟨fun hrun => ?_, fun t => ?_⟩
  · have hiff := checkEndOfLine_eq_ok_iff hrun
    exact ⟨hiff, fun hok => uniform_output hrun (hiff.1 hok)⟩
  · have hlength : (terminators (unify t)).length = (terminators t).length := by
      rw [unify, terminators_setAll, List.length_map]
    exact ⟨joined_pieces t, unify_unify t, pieces_setAll _ t, hlength, guess_unify t,
      unify_eq_self_iff⟩

def lookalike : Text := "a<CR>\nb\r<|>c".toList

theorem checkEndOfLine_decides_uniformity_lookalike :
    (run .echo lookalike {}).value = .ok (echoed lookalike {}) ∧
      (echoed lookalike {}).spelledOutput = "a<CR>\nb<CR>\n<|>c".toList ∧
      ¬ Uniform (echoed lookalike {}).outputWithCursor ∧
      (echoed lookalike {}).checkEndOfLine ≠ .ok () := by
  have hrun := run_echo lookalike {}
  have hmixed : ¬ Uniform (echoed lookalike {}).outputWithCursor := by decide +kernel
  exact ⟨hrun, by decide +kernel, hmixed, fun hok =>
    hmixed ((checkEndOfLine_decides_uniformity.1 hrun).1.1 hok)⟩

/-- Texts that spell no terminator out themselves are told apart by their spelled forms, and an
output is then the expected one exactly if both are the same text. -/
theorem checkOutput_compares_texts :
    Set.InjOn spellOut {t | Unspelled t} ∧
    ∀ {engine : Engine} {code expected : Text} {options : Options} {pass : Pass},
      (run engine code options).value = .ok pass → Unspelled pass.outputWithCursor →
        Unspelled expected → ∀ label : String,
          (pass.checkOutput expected label = .ok () ↔ expected = pass.outputWithCursor) := by
  refine ⟨fun s hs t ht h => eq_of_spellOut hs ht h, fun hrun houtput hexpected label => ?_⟩
  rw [checkOutput_eq_ok_iff hrun]
  exact ⟨eq_of_spellOut hexpected houtput, congrArg spellOut⟩

def divided : Text := "<CR\r>\n<|>".toList

theorem checkOutput_compares_texts_fragments :
    (run .echo divided {}).value = .ok (echoed divided {}) ∧
      Unspelled (echoed divided {}).outputWithCursor ∧ Unspelled "<CR\n>\n<|>".toList ∧
      spellOut "<CR\n>\n<|>".toList ≠ spellOut (echoed divided {}).outputWithCursor ∧
      (echoed divided {}).checkOutput "<CR\n>\n<|>".toList "babel" ≠ .ok () ∧
      (echoed divided {}).checkOutput divided "babel" = .ok () := by
  have hrun := run_echo divided {}
  have houtput : (echoed divided {}).outputWithCursor = divided := by decide +kernel
  have hunspelled : Unspelled divided := by decide +kernel
  have hother : Unspelled "<CR\n>\n<|>".toList := by decide +kernel
  have hne : "<CR\n>\n<|>".toList ≠ divided := by decide
  obtain ⟨hinj, hcompares⟩ := checkOutput_compares_texts
  have hshown : Unspelled (echoed divided {}).outputWithCursor := by
    rw [houtput]
    exact hunspelled
  refine ⟨hrun, hshown, hother, fun h => hne ?_, fun hok => hne ?_, ?_⟩
  · rw [houtput] at h
    exact hinj hother hunspelled h
  · rw [← houtput]
    exact (hcompares hrun hshown hother "babel").1 hok
  · exact (hcompares hrun hshown hunspelled "babel").2 houtput.symm

end Pass

end FormatConformance
