import FormatConformance.Engine.Statements
import FormatConformance.Snapshot.Record
import FormatConformance.Proofs.Check.Passing
import FormatConformance.Proofs.Snapshot.Baselines
import FormatConformance.Proofs.Snapshot.Numbering

/-!
What a record tells. The texts in a record follow each other unescaped; an input ends where the
first line is that announces the output, unless it holds such a line itself. In front of the input,
two records of the same options differ at most in the terminator that was guessed, and the names of
terminators are told apart whatever stands behind them.
-/

namespace FormatConformance

namespace Text

variable {line s t s' t' : Text}

theorem intercalate_cons (separator first : Text) (rest : List Text) :
    separator.intercalate (first :: rest) = first ++ rest.flatMap (separator ++ ·) := by
  induction rest generalizing first with
  | nil => simp
  | cons second rest ih =>
    rw [List.intercalate_cons_cons, ih, List.flatMap_cons, List.append_assoc, List.append_assoc]

theorem append_line_inj (hline : '\n' ∉ line) (hs : line ∉ s.splitOn '\n')
    (ht : line ∉ t.splitOn '\n')
    (h : s ++ '\n' :: (line ++ '\n' :: s') = t ++ '\n' :: (line ++ '\n' :: t')) :
    s = t ∧ s' = t' := by
  have hlines := congrArg (List.splitOn '\n') h
  simp only [List.splitOn_append_cons_self, List.splitOn_append_cons_self_of_not_mem hline]
    at hlines
  obtain ⟨hfront, hback⟩ := append_cons_inj_of_first hs ht hlines
  exact ⟨splitOn_injective '\n' hfront, splitOn_injective '\n' hback⟩

end Text

namespace LineEnding

theorem quoted_append_inj {a b : LineEnding} {s t : Text}
    (h : (Json.string a.optionName).compactChars ++ s =
      (Json.string b.optionName).compactChars ++ t) : a = b ∧ s = t := by
  have hlf : (Json.string lf.optionName).compactChars = ['"', 'l', 'f', '"'] := by decide
  have hcrlf : (Json.string crlf.optionName).compactChars = ['"', 'c', 'r', 'l', 'f', '"'] := by
    decide
  have hcr : (Json.string cr.optionName).compactChars = ['"', 'c', 'r', '"'] := by decide
  cases a with
  | lf => cases b <;> simp_all
  | crlf => cases b <;> simp_all
  | cr => cases b <;> simp_all

end LineEnding

namespace Record

variable {requested : List (Option Grammar)} {options : Options} {pass other : Pass}
  {a b : LineEnding} {s t : Text}

theorem newline_notMem_separator {title : String} (h : '\n' ∉ title.toList) :
    '\n' ∉ separator title := by
  simp [separator, h]

def opening (requested : List (Option Grammar)) (options : Options) (ending : LineEnding) : Text :=
  separator "options" ++ (parsersLine requested :: (optionFields options ending).map optionLine ++
    rulerLines options ++ [separator "input"]).flatMap ('\n' :: ·)

theorem ofPass_eq (pass : Pass) (requested : List (Option Grammar)) (options : Options) :
    ofPass pass requested options = opening requested options (LineEnding.guess pass.input) ++
      '\n' :: (inputShown pass ++ '\n' :: (separator "output" ++ '\n' ::
        (pass.spelledOutput ++ '\n' :: separator ""))) := by
  simp [ofPass, lines, opening, Text.intercalate_cons]

theorem optionFields_of_declared (h : options.keepsEndOfLine = false) (a b : LineEnding) :
    optionFields options a = optionFields options b := by
  simp [optionFields, h]

theorem exists_optionFields_eq (h : options.keepsEndOfLine = true) : ∃ front back, ∀ ending,
    optionFields options ending = front ++ ("endOfLine", .string ending.optionName) :: back := by
  obtain ⟨front, back, hinsert⟩ := Fields.exists_insert_eq "endOfLine"
    ((Fields.ofPairs options.fields).filter fun field => !unrecorded.contains field.1)
  exact ⟨front, back, fun ending => by rw [← hinsert, optionFields, if_pos h]⟩

/-- No text behind it makes up for another terminator in front of the input. -/
theorem opening_append_inj
    (h : opening requested options a ++ s = opening requested options b ++ t) : s = t := by
  by_cases hkeeps : options.keepsEndOfLine = true
  · obtain ⟨front, back, hfields⟩ := exists_optionFields_eq hkeeps
    simp only [opening, hfields, optionLine, List.map_append, List.map_cons, List.flatMap_append,
      List.flatMap_cons, List.cons_append, List.append_assoc, List.cons.injEq, true_and,
      List.append_cancel_left_eq] at h
    obtain ⟨rfl, hback⟩ := LineEnding.quoted_append_inj h
    simpa using hback
  · rw [opening, opening, optionFields_of_declared (by simpa using hkeeps) a b] at h
    exact List.append_cancel_left h

theorem texts_eq_of_ofPass_eq (hpass : separator "output" ∉ (inputShown pass).splitOn '\n')
    (hother : separator "output" ∉ (inputShown other).splitOn '\n')
    (h : ofPass pass requested options = ofPass other requested options) :
    inputShown pass = inputShown other ∧ pass.spelledOutput = other.spelledOutput := by
  rw [ofPass_eq, ofPass_eq] at h
  have htexts := List.tail_eq_of_cons_eq (opening_append_inj h)
  have hbar : '\n' ∉ separator "output" := newline_notMem_separator (by decide)
  obtain ⟨hinput, houtput⟩ := Text.append_line_inj hbar hpass hother htexts
  exact ⟨hinput, List.append_cancel_right houtput⟩

theorem ofPass_inj_of_input (hinput : pass.input = other.input)
    (hoffsets : pass.options.offsets = other.options.offsets) :
    ofPass pass requested options = ofPass other requested options ↔
      pass.spelledOutput = other.spelledOutput := by
  have hshown : inputShown pass = inputShown other := by
    rw [inputShown, inputShown, hinput, hoffsets]
  rw [ofPass_eq, ofPass_eq, hshown, hinput]
  simp

/-- A record pins down what it records, and the records of one fixture by two engines its output. -/
theorem ofPass_pins_down (requested : List (Option Grammar)) (options : Options) :
    (∀ pass other : Pass, separator "output" ∉ (inputShown pass).splitOn '\n' →
      separator "output" ∉ (inputShown other).splitOn '\n' →
      ofPass pass requested options = ofPass other requested options →
      inputShown pass = inputShown other ∧ pass.spelledOutput = other.spelledOutput) ∧
    ∀ (engine rival : Engine) (code : Text) (pass other : Pass),
      (Pass.run engine code options).value = .ok pass →
      (Pass.run rival code options).value = .ok other →
      (ofPass pass requested options = ofPass other requested options ↔
        pass.spelledOutput = other.spelledOutput) := by
  refine ⟨fun pass other hpass hother h => texts_eq_of_ofPass_eq hpass hother h,
    fun engine rival code pass other hrun hrival => ?_⟩
  obtain ⟨answer, -, rfl⟩ := Pass.exists_answer_of_run hrun
  obtain ⟨answer', -, rfl⟩ := Pass.exists_answer_of_run hrival
  exact ofPass_inj_of_input rfl rfl

def barred : Pass := .ofAnswer (separator "input" ++ ['\r', '\n', '\n', 'a']) {} ⟨['a', '\n'], none⟩

def barredSpelled : Pass :=
  .ofAnswer (separator "input" ++ ['<', 'C', 'R', 'L', 'F', '>', '\n', '\n', 'a']) {}
    ⟨['a', '\n'], none⟩

def underFlow : Options := { parser := some .flow }

theorem ofPass_pins_down_barred :
    let printed := Pass.ofAnswer ['a'] underFlow ⟨['a', ';', '\n'], none⟩
    let echoed := Pass.echoed ['a'] underFlow
    barred.input ≠ barredSpelled.input ∧
      separator "output" ∉ (inputShown barred).splitOn '\n' ∧
      separator "output" ∉ (inputShown barredSpelled).splitOn '\n' ∧
      ofPass barred [some .flow] underFlow = ofPass barredSpelled [some .flow] underFlow ∧
      inputShown barred = inputShown barredSpelled ∧
      barred.spelledOutput = barredSpelled.spelledOutput ∧
      (Pass.run Statements.engine ['a'] underFlow).value = .ok printed ∧
      (Pass.run .echo ['a'] underFlow).value = .ok echoed ∧
      ofPass printed [some .flow] underFlow ≠ ofPass echoed [some .flow] underFlow := by
  intro printed echoed
  have hbarred : separator "output" ∉ (inputShown barred).splitOn '\n' := by decide
  have hspelled : separator "output" ∉ (inputShown barredSpelled).splitOn '\n' := by decide
  have hequal : ofPass barred [some .flow] underFlow =
      ofPass barredSpelled [some .flow] underFlow := by decide +kernel
  have hprinted : (Pass.run Statements.engine ['a'] underFlow).value = .ok printed := rfl
  have hechoed : (Pass.run .echo ['a'] underFlow).value = .ok echoed := rfl
  have hdiffers : printed.spelledOutput ≠ echoed.spelledOutput := by decide
  obtain ⟨htexts, hengines⟩ := ofPass_pins_down [some .flow] underFlow
  obtain ⟨hinput, houtput⟩ := htexts barred barredSpelled hbarred hspelled hequal
  exact ⟨by decide, hbarred, hspelled, hequal, hinput, houtput, hprinted, hechoed,
    mt (hengines _ _ _ _ _ hprinted hechoed).1 hdiffers⟩

end Record

end FormatConformance
