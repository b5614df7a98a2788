import FormatConformance.Snapshot.Store

/-!
Baselines held in memory. A text is judged against the baseline of its key alone; afterwards the
key holds that baseline, or the text if there was none, and every other key holds what it held.
-/

namespace FormatConformance

theorem Fields.insert_perm_of_absent {α : Type} {key : String} {fields : Fields α}
    (h : fields.lookup key = none) (value : α) :
    (insert key value fields).Perm ((key, value) :: fields) := by
  induction fields with
  | nil => exact .refl _
  | cons field rest ih =>
    obtain ⟨k, v⟩ := field
    have hne : key ≠ k := by
      rintro rfl
      simp at h
    have hrest : rest.lookup key = none := by
      rwa [List.lookup_cons, beq_false_of_ne hne] at h
    rw [insert, if_neg hne]
    split
    · exact .refl _
    · exact ((ih hrest).cons (k, v)).trans (.swap _ _ _)

namespace Baselines

def verdict (key : String) (text : Text) (baseline : Option Text) : Except SnapshotMismatch Unit :=
  match baseline with
  | some baseline =>
    match diff baseline text with
    | some difference => .error ⟨key, some difference⟩
    | none => .ok ()
  | none => .ok ()

theorem verdict_eq_ok_iff {key : String} {text : Text} {baseline : Option Text} :
    verdict key text baseline = .ok () ↔ ∀ stored, baseline = some stored → stored = text := by
  cases baseline with
  | none => simp [verdict]
  | some stored =>
    simp only [verdict, Option.some.injEq, forall_eq']
    rw [← diff_eq_none_iff]
    cases diff stored text <;> simp

@[simp] theorem verdict_none (key : String) (text : Text) : verdict key text none = .ok () := rfl

@[simp] theorem verdict_self (key : String) (text : Text) :
    verdict key text (some text) = .ok () :=
  verdict_eq_ok_iff.2 fun _ h => (Option.some.inj h).symm

theorem ask_eq (key : String) (question : Question) (s : Baselines) :
    store.ask key question s = assertMatches key question.text s := by
  cases question <;> rfl

theorem assertMatches_of_absent {key : String} {s : Baselines} (h : s.lookup key = none)
    (text : Text) : assertMatches key text s = (.ok (), Fields.insert key text s) := by
  simp [assertMatches, h]

theorem assertMatches_of_present {key : String} {s : Baselines} {baseline : Text}
    (h : s.lookup key = some baseline) (text : Text) :
    assertMatches key text s = (verdict key text (some baseline), s) := by
  simp only [assertMatches, h, verdict]
  cases diff baseline text <;> rfl

theorem assertMatches_fst (key : String) (text : Text) (s : Baselines) :
    (assertMatches key text s).1 = verdict key text (s.lookup key) := by
  cases h : s.lookup key with
  | none => rw [assertMatches_of_absent h, verdict_none]
  | some baseline => rw [assertMatches_of_present h]

theorem lookup_assertMatches (key other : String) (text : Text) (s : Baselines) :
    (assertMatches key text s).2.lookup other =
      if other = key then some ((s.lookup key).getD text) else s.lookup other := by
  cases h : s.lookup key with
  | none =>
    rw [assertMatches_of_absent h]
    split
    · rename_i heq
      simp [heq, Fields.lookup_insert_self]
    · rename_i hne
      simp [Fields.lookup_insert_of_ne _ _ hne]
  | some baseline =>
    rw [assertMatches_of_present h]
    split
    · rename_i heq
      simp [heq, h]
    · rfl

theorem assertMatches_of_stored {key : String} {text : Text} {s : Baselines}
    (h : s.lookup key = some text) : assertMatches key text s = (.ok (), s) := by
  rw [assertMatches_of_present h, verdict_self]

end Baselines

end FormatConformance
