import FormatConformance.Text.LineEnding

/-! Terminators spelled out, and put in place of line feeds, character by character. -/

namespace FormatConformance

namespace LineEnding

theorem spellOut_cons_of_ne {c : Char} (h : c ≠ '\r') (t : Text) :
    spellOut (c :: t) = c :: spellOut t := by
  rw [spellOut]
  · rintro rest rfl
    exact absurd rfl h
  · rintro rfl
    exact absurd rfl h

variable (ending : LineEnding)

@[simp] theorem substitute_nil : substitute ending [] = [] := rfl

@[simp] theorem substitute_append (s t : Text) :
    substitute ending (s ++ t) = substitute ending s ++ substitute ending t := by
  simp [substitute]

theorem substitute_feed (t : Text) :
    substitute ending ('\n' :: t) = ending.chars ++ substitute ending t := rfl

theorem substitute_cons {c : Char} (h : c ≠ '\n') (t : Text) :
    substitute ending (c :: t) = c :: substitute ending t := by
  simp [substitute, h]

theorem substitute_of_no_feed {t : Text} (h : '\n' ∉ t) : substitute ending t = t := by
  induction t with
  | nil => rfl
  | cons c rest ih =>
    have hc : c ≠ '\n' := by
      rintro rfl
      exact h List.mem_cons_self
    rw [substitute_cons ending hc, ih fun hmem => h (List.mem_cons_of_mem _ hmem)]

theorem length_substitute (t : Text) :
    (substitute ending t).length = t.length + t.count '\n' * (ending.chars.length - 1) := by
  have hpos : 0 < ending.chars.length := by cases ending <;> decide
  induction t with
  | nil => simp
  | cons c rest ih =>
    by_cases hc : c = '\n'
    · subst hc
      rw [substitute_feed, List.length_append, ih, List.count_cons_self, List.length_cons,
        Nat.add_mul]
      omega
    · rw [substitute_cons ending hc, List.length_cons, ih, List.count_cons_of_ne hc,
        List.length_cons]
      omega

end LineEnding

end FormatConformance
