import FormatConformance.Proofs.Check.Passing
import FormatConformance.Proofs.Marker.Removal
import FormatConformance.Proofs.Text.Boundaries

/-!
Inputs as they were written. A cursor that is taken out of a text is shown at the place where it
stood, whatever else is taken out around it. So the input of a pass, with its cursor, is the fixture
without the first token of each marker of a range, and a pass changes nothing exactly if its output
shows that text.
-/

namespace FormatConformance

open Text (FirstAt)

namespace Marker

def ofRange : List Marker := [.rangeStart, .rangeEnd]

theorem mem_ofRange_iff {m : Marker} : m ∈ ofRange ↔ m ≠ cursor := by
  cases m <;> decide

end Marker

namespace Text

variable {dropped dropped' : Nat → Prop} [DecidablePred dropped] [DecidablePred dropped']
  {front inserted : Text}

theorem insertAt_append (front inserted rest : Text) :
    insertAt front.length inserted (front ++ rest) = front ++ (inserted ++ rest) := by
  simp [insertAt]

theorem insertAt_without (hdropped : ∀ j < inserted.length, dropped (front.length + j))
    (hkept : ∀ j, dropped' j ↔
      dropped j ∧ ¬ (front.length ≤ j ∧ j < front.length + inserted.length)) (rest : Text) :
    insertAt (countKept dropped front.length) inserted
        (without dropped (front ++ (inserted ++ rest))) =
      without dropped' (front ++ (inserted ++ rest)) := by
  have hfront : without dropped' front = without dropped front :=
    without_congr fun j hj => (hkept j).trans (and_iff_left (by omega))
  have hinserted : without (fun j => dropped' (front.length + j)) inserted = inserted :=
    without_of_none fun j hj h => ((hkept _).1 h).2 ⟨by omega, by omega⟩
  have hrest : without (fun j => dropped' (front.length + (inserted.length + j))) rest =
      without (fun j => dropped (front.length + (inserted.length + j))) rest :=
    without_congr fun j _ => (hkept _).trans (and_iff_left (by omega))
  rw [without_append, without_append, without_of_all hdropped, List.nil_append, ← length_without,
    insertAt_append, without_append, without_append, hfront, hinserted, hrest]

end Text

namespace Offsets

variable {markers : List Marker} {t : Text} {i j : Nat}

theorem without_taken_eq_self (h : ∀ m ∈ markers, ¬ m.token <:+: t) :
    Text.without (Taken markers t) t = t := by
  refine Text.without_of_none ?_
  rintro j - ⟨m, hm, i, -, hfirst, -⟩
  exact h m hm (Text.exists_firstAt_iff.1 ⟨i, hfirst⟩)

theorem taken_ofRange_iff (hfirst : FirstAt Marker.cursor.token t i) :
    Taken Marker.ofRange t j ↔
      Taken Marker.all t j ∧ ¬ (i ≤ j ∧ j < i + Marker.cursor.token.length) := by
  constructor
  · rintro ⟨m, hm, l, hlj, hl, hlt⟩
    have hne := Marker.mem_ofRange_iff.1 hm
    refine ⟨⟨m, m.mem_all, l, hlj, hl, hlt⟩, fun hwithin => ?_⟩
    -- Whichever of the two tokens begins first ends before the other one begins.
    rcases Nat.le_total i l with hil | hli
    · have hbehind := Marker.length_le_of_prefix_drop hne hfirst.1 hl.1 hil
      omega
    · have hbehind := Marker.length_le_of_prefix_drop hne.symm hl.1 hfirst.1 hli
      omega
  · rintro ⟨⟨m, -, l, hlj, hl, hlt⟩, hwithin⟩
    have hne : m ≠ .cursor := by
      rintro rfl
      obtain rfl := hl.unique hfirst
      exact hwithin ⟨hlj, hlt⟩
    exact ⟨m, Marker.mem_ofRange_iff.2 hne, l, hlj, hl, hlt⟩

theorem taken_ofRange_iff_of_absent (h : ¬ Marker.cursor.token <:+: t) :
    Taken Marker.ofRange t j ↔ Taken Marker.all t j := by
  constructor
  · rintro ⟨m, -, hfirst⟩
    exact ⟨m, m.mem_all, hfirst⟩
  · rintro ⟨m, -, l, hlj, hl, hlt⟩
    have hne : m ≠ .cursor := by
      rintro rfl
      exact h (Text.exists_firstAt_iff.1 ⟨l, hl⟩)
    exact ⟨m, Marker.mem_ofRange_iff.2 hne, l, hlj, hl, hlt⟩

theorem withCursor_strip (t : Text) :
    withCursor (strip t).1 (strip t).2.cursor = Text.without (Taken Marker.ofRange t) t := by
  have htext : (strip t).1 = Text.without (Taken Marker.all t) t :=
    stripFrom_text Marker.nodup_all 0 t
  rw [htext]
  cases hcursor : (strip t).2.cursor with
  | none =>
    have habsent : ¬ Marker.cursor.token <:+: t := by
      rw [← isSome_get_strip_iff, get, hcursor]
      exact Bool.false_ne_true
    exact Text.without_congr fun j _ => (taken_ofRange_iff_of_absent habsent).symm
  | some n =>
    obtain ⟨-, i, hfirst, hn⟩ :=
      (get_stripFrom_iff (k := .cursor) Marker.nodup_all 0 n t).1 hcursor
    obtain ⟨rest, hrest⟩ := hfirst.1
    have hsplit : t.take i ++ (Marker.cursor.token ++ rest) = t := by
      rw [hrest, List.take_append_drop]
    have hi : (t.take i).length = i := by
      refine List.length_take_of_le (Nat.le_of_not_lt fun hlt => ?_)
      rw [List.drop_eq_nil_of_le (Nat.le_of_lt hlt)] at hrest
      exact absurd (List.append_eq_nil_iff.1 hrest).1 (Marker.token_ne_nil .cursor)
    have htaken : ∀ j < Marker.cursor.token.length,
        Taken Marker.all t ((t.take i).length + j) := by
      intro j hj
      rw [hi]
      exact ⟨.cursor, Marker.mem_all _, i, Nat.le_add_right i j, hfirst, by omega⟩
    have hkept : ∀ j, Taken Marker.ofRange t j ↔ Taken Marker.all t j ∧
        ¬ ((t.take i).length ≤ j ∧ j < (t.take i).length + Marker.cursor.token.length) := by
      rw [hi]
      exact fun j => taken_ofRange_iff hfirst
    have hshown := Text.insertAt_without htaken hkept rest
    rw [hsplit, hi] at hshown
    rw [hn, Nat.zero_add]
    exact hshown

end Offsets

namespace Pass

variable {engine : Engine} {text : Text} {options : Options} {pass : Pass}

/-- The input of a pass, with the cursor in it, is what was written, but for the first token of each
marker of a range; taking tokens out and writing the cursor by bytes has this result as well. The
pass changes nothing exactly if the answer of the engine, with its cursor in it, is that text. -/
theorem inputWithCursor_is_authored (hrun : (run engine text options).value = .ok pass)
    (hcursor : options.offsets.cursor = none) :
    let authored := Text.without (Offsets.Taken Marker.ofRange text) text
    pass.inputWithCursor = authored ∧
      ((∀ m ∈ Marker.ofRange, ¬ m.token <:+: text) → authored = text) ∧
      ((Removal.run? text).bind fun r => Insertion.showCursor? r.text r.offsets.cursor) =
        some authored ∧
      ∃ answer, engine.format pass.input pass.options = .ok answer ∧
        Insertion.showCursor? answer.text answer.cursor = some pass.outputWithCursor ∧
        (pass.changed = false ↔ pass.outputWithCursor = authored) := by
  intro authored
  have hauthored : withCursor (Offsets.strip text).1 (Offsets.strip text).2.cursor = authored :=
    Offsets.withCursor_strip text
  have hchanged := changed_eq_false_iff hrun
  obtain ⟨answer, hanswer, rfl⟩ := exists_answer_of_run hrun
  have hsent : (sent text options).offsets.cursor = (Offsets.strip text).2.cursor := by
    rw [sent, Options.withOffsets, hcursor, Option.or_none]
  have hinput : (ofAnswer text options answer).inputWithCursor = authored := by
    rw [← hauthored, ← hsent]
    rfl
  obtain ⟨removed, hremoval⟩ := Removal.run?_eq text
  refine ⟨hinput, Offsets.without_taken_eq_self, ?_, answer, hanswer,
    Insertion.showCursor?_eq answer.text answer.cursor, ?_⟩
  · rw [hremoval, Option.bind_some, Insertion.showCursor?_eq, hauthored]
  · rw [← hinput]
    exact hchanged

def scattered : Text :=
  ['é'] ++ Marker.rangeEnd.token ++ Marker.cursor.token ++ ['ß'] ++ Marker.cursor.token ++ ['b'] ++
    Marker.rangeStart.token

theorem inputWithCursor_is_authored_scattered :
    (run .echo scattered {}).value = .ok (echoed scattered {}) ∧
      ({} : Options).offsets.cursor = none ∧
      (echoed scattered {}).input = ['é', 'ß'] ++ Marker.cursor.token ++ ['b'] ∧
      (echoed scattered {}).inputWithCursor = "é<|>ß<|>b".toList ∧
      (echoed scattered {}).changed = false := by
  have hrun : (run .echo scattered {}).value = .ok (echoed scattered {}) := run_echo scattered {}
  obtain ⟨hinput, -, -, answer, -, -, hchanged⟩ := inputWithCursor_is_authored hrun rfl
  have hauthored : Text.without (Offsets.Taken Marker.ofRange scattered) scattered =
      "é<|>ß<|>b".toList := by decide +kernel
  refine ⟨hrun, rfl, by decide +kernel, hinput.trans hauthored, hchanged.2 (Eq.trans ?_ hinput)⟩
  rfl

end Pass

end FormatConformance
