import FormatConformance.Proofs.Marker.Stripping
import FormatConformance.Proofs.Text.Terminators

/-!
Markers and terminators. No token holds a terminator, so putting other terminators in place of the
line feeds of a text, or a byte order mark in front of it, neither makes nor breaks a token: what is
left without the markers is changed in the same way, and every offset is that of the same place.
-/

namespace FormatConformance

open LineEnding

namespace Offsets

/-- The offset, in the text with other terminators, of the place with offset `n`. -/
def afterSubstitution (ending : LineEnding) (t : Text) (n : Nat) : Nat :=
  (substitute ending (t.take n)).length

variable {ending : LineEnding} {pending : List Marker}

theorem no_terminator_of_mem_token (m : Marker) : '\n' ∉ m.token ∧ '\r' ∉ m.token := by
  cases m <;> decide

theorem chars_eq_cons (ending : LineEnding) :
    ∃ first tail, ending.chars = first :: tail ∧ (first = '\n' ∨ first = '\r') := by
  cases ending with
  | lf => exact ⟨'\n', [], rfl, .inl rfl⟩
  | crlf => exact ⟨'\r', ['\n'], rfl, .inr rfl⟩
  | cr => exact ⟨'\r', [], rfl, .inr rfl⟩

theorem isPrefixOf_substitute {p : Text} (hfeed : '\n' ∉ p) (hreturn : '\r' ∉ p) (t : Text) :
    p.isPrefixOf (substitute ending t) = p.isPrefixOf t := by
  induction p generalizing t with
  | nil => simp
  | cons x p ih =>
    have hx : x ≠ '\n' ∧ x ≠ '\r' := by
      constructor <;> rintro rfl <;> simp at hfeed hreturn
    cases t with
    | nil => rfl
    | cons c rest =>
      by_cases hc : c = '\n'
      · obtain ⟨first, tail, hchars, hfirst⟩ := chars_eq_cons ending
        have hne : (x == first) = false := by
          rcases hfirst with rfl | rfl <;> simp [hx]
        rw [hc, substitute_feed, hchars, List.cons_append, List.isPrefixOf_cons_cons,
          List.isPrefixOf_cons_cons, hne]
        simp [hx]
      · have hrest := ih (fun h => hfeed (List.mem_cons_of_mem _ h))
          (fun h => hreturn (List.mem_cons_of_mem _ h)) rest
        rw [substitute_cons ending hc, List.isPrefixOf_cons_cons, List.isPrefixOf_cons_cons, hrest]

theorem next?_substitute (t : Text) : next? pending (substitute ending t) = next? pending t := by
  unfold next?
  congr 1
  funext m
  exact isPrefixOf_substitute (no_terminator_of_mem_token m).1 (no_terminator_of_mem_token m).2 t

theorem open_notMem_chars (ending : LineEnding) : '<' ∉ ending.chars := by
  cases ending <;> decide

theorem afterSubstitution_cons (ending : LineEnding) (c : Char) (t : Text) (n : Nat) :
    afterSubstitution ending (c :: t) (1 + n) =
      (substitute ending [c]).length + afterSubstitution ending t n := by
  have htake : (c :: t).take (1 + n) = [c] ++ t.take n := by
    rw [Nat.add_comm, List.take_succ_cons]
    rfl
  rw [afterSubstitution, htake, substitute_append, List.length_append, afterSubstitution]

theorem afterSubstitution_eq (ending : LineEnding) {t : Text} {n : Nat} (h : n ≤ t.length) :
    afterSubstitution ending t n = n + (t.take n).count '\n' * (ending.chars.length - 1) := by
  rw [afterSubstitution, length_substitute, List.length_take_of_le h]

theorem stripFrom_substitute (ending : LineEnding) (pending : List Marker) (t : Text) :
    stripFrom pending 0 0 (substitute ending t) =
      (substitute ending (stripFrom pending 0 0 t).1,
        (stripFrom pending 0 0 t).2.map
          (afterSubstitution ending (stripFrom pending 0 0 t).1)) := by
  induction pending, t using strip_induction with
  | nil pending => simp
  | token pending m rest hnext ih =>
    have hnext' : next? pending (m.token ++ substitute ending rest) = some m := by
      rw [← substitute_of_no_feed ending (no_terminator_of_mem_token m).1, ← substitute_append,
        next?_substitute, hnext]
    rw [substitute_append, substitute_of_no_feed ending (no_terminator_of_mem_token m).1,
      stripFrom_token 0 hnext, stripFrom_token 0 hnext', ih, map_set]
    rfl
  | keep pending c rest hnext ih =>
    have hmoved : ∀ s : Text, ∀ o : Offsets,
        (o.map (1 + ·)).map (afterSubstitution ending (c :: s)) =
          (o.map (afterSubstitution ending s)).map ((substitute ending [c]).length + ·) := by
      intro s o
      rw [map_map, map_map]
      simp only [afterSubstitution_cons]
    rw [stripFrom_keep 0 hnext, Nat.zero_add, stripFrom_shift _ _ 1 0, hmoved]
    -- A line feed may become two characters, neither of which begins a token; any other character,
    -- the first one of a token included, is left as it is.
    by_cases hc : c = '\n'
    · subst hc
      rw [substitute_feed, substitute_feed, stripFrom_append pending (open_notMem_chars ending), ih]
      simp [substitute_feed]
    · have hnext' : next? pending (c :: substitute ending rest) = none := by
        rw [← substitute_cons ending hc, next?_substitute, hnext]
      rw [substitute_cons ending hc, substitute_cons ending hc, stripFrom_keep 0 hnext',
        Nat.zero_add, stripFrom_shift _ _ 1 0, ih]
      simp [substitute_cons ending hc]

/-- Markers are found at the same places whichever terminators the text uses. -/
theorem strip_substitute (ending : LineEnding) (t : Text) :
    strip (substitute ending t) =
      (substitute ending (strip t).1, (strip t).2.map (afterSubstitution ending (strip t).1)) :=
  stripFrom_substitute ending Marker.all t

theorem strip_byteOrderMark (t : Text) :
    strip (byteOrderMark :: t) = (byteOrderMark :: (strip t).1, (strip t).2.map (1 + ·)) :=
  stripFrom_append Marker.all (show '<' ∉ [byteOrderMark] by decide) t

end Offsets

theorem withCursor_substitute (ending : LineEnding) (t : Text) (cursor : Option Nat) :
    withCursor (substitute ending t) (cursor.map (Offsets.afterSubstitution ending t)) =
      substitute ending (withCursor t cursor) := by
  cases cursor with
  | none => rfl
  | some n =>
    have htoken := (Offsets.no_terminator_of_mem_token .cursor).1
    have hsplit : substitute ending t =
        substitute ending (t.take n) ++ substitute ending (t.drop n) := by
      rw [← substitute_append, List.take_append_drop]
    simp only [Option.map_some, withCursor, Text.insertAt, Offsets.afterSubstitution,
      substitute_append, substitute_of_no_feed ending htoken]
    rw [hsplit, List.take_left, List.drop_left]

theorem withCursor_cons (c : Char) (t : Text) (cursor : Option Nat) :
    withCursor (c :: t) (cursor.map (1 + ·)) = c :: withCursor t cursor := by
  cases cursor with
  | none => rfl
  | some n => simp [withCursor, Text.insertAt, Nat.add_comm 1 n]

theorem mem_withCursor_iff {c : Char} (h : c ∉ Marker.cursor.token) {t : Text}
    {cursor : Option Nat} : c ∈ withCursor t cursor ↔ c ∈ t := by
  cases cursor with
  | none => exact Iff.rfl
  | some n =>
    have hsplit : c ∈ t ↔ c ∈ t.take n ∨ c ∈ t.drop n := by
      rw [← List.mem_append, List.take_append_drop]
    simp [withCursor, Text.insertAt, h, hsplit]

end FormatConformance
