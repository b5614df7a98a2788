import Mathlib.Order.Monotone.Basic
import FormatConformance.Proofs.Marker.Insertion

/-!
Offsets in characters and in bytes. The byte offset of a place is the number of bytes in front of
it, so the boundaries of a text are its byte offsets, and going from characters to bytes and back
leads to the same place, or to the end from behind it. Whatever is cut at byte offsets is cut at
characters, as by writing tokens or a cursor into a text.
-/

namespace FormatConformance

namespace Text

variable {t : Text} {b n : Nat}

/-- A character of the UTF-8 form starts at the byte, or the text ends there. -/
def IsBoundary (t : Text) (b : Nat) : Prop := String.Pos.Raw.IsValid (asString t) ⟨b⟩

theorem byteOffset_eq (t : Text) (n : Nat) : byteOffset t n = byteLength (t.take n) := by
  induction t generalizing n with
  | nil => simp [byteOffset]
  | cons c rest ih =>
    cases n with
    | zero => rfl
    | succ n => simp [byteOffset, ih]

theorem isBoundary_iff : IsBoundary t b ↔ ∃ n, byteOffset t n = b := by
  unfold IsBoundary asString
  rw [String.Pos.Raw.isValid_ofList]
  simp only [byteOffset_eq]
  exact exists_congr fun n => eq_comm

theorem byteOffset_le_of_le {n' : Nat} (h : n ≤ n') (t : Text) :
    byteOffset t n ≤ byteOffset t n' := by
  obtain ⟨more, hmore⟩ := List.take_prefix_take_left (l := t) h
  rw [byteOffset_eq, byteOffset_eq, ← hmore, byteLength_append]
  exact Nat.le_add_right ..

theorem byteOffset_length (t : Text) : byteOffset t t.length = byteLength t := by
  rw [byteOffset_eq, List.take_length]

theorem byteOffset_min (t : Text) (n : Nat) : byteOffset t (min n t.length) = byteOffset t n := by
  rw [byteOffset_eq, byteOffset_eq]
  exact congrArg byteLength List.take_eq_take_min.symm

theorem charOffset_byteOffset (t : Text) (n : Nat) :
    charOffset t (byteOffset t n) = min n t.length := by
  have hfront := charOffset_append (t.take n) (t.drop n)
  rwa [List.take_append_drop, ← byteOffset_eq, List.length_take] at hfront

theorem charOffset_le_of_le {b' : Nat} (h : b ≤ b') (t : Text) :
    charOffset t b ≤ charOffset t b' := by
  induction t generalizing b b' with
  | nil => exact Nat.le_refl _
  | cons c rest ih =>
    have hrest := ih (Nat.sub_le_sub_right h c.utf8Size)
    by_cases hb : b = 0
    · simp [charOffset, hb]
    · have hb' : b' ≠ 0 := by omega
      simp only [charOffset, if_neg hb, if_neg hb']
      omega

end Text

open Text (IsBoundary byteOffset charOffset byteLength)

theorem Insertion.showCursor?_eq (t : Text) (cursor : Option Nat) :
    showCursor? t cursor = some (withCursor t cursor) := by
  cases cursor with
  | none => rfl
  | some n =>
    have hfront := Text.slice?_append [] (t.take n) (t.drop n)
    have hback := Text.slice?_append (t.take n) (t.drop n) []
    simp only [List.nil_append, List.append_nil, List.take_append_drop, Text.byteLength_nil]
      at hfront hback
    simp only [showCursor?, Text.byteOffset_eq, hfront, hback, Option.bind_eq_bind,
      Option.bind_some]
    rfl

/-- Offsets of characters and byte offsets are inverse to each other, up to offsets past the end,
which count as the end. Both ways keep the order, and neither the tokens of any offsets nor a cursor
are written at a byte that is out of order, past the end or within a character. -/
theorem Text.offsets_are_inverse (t : Text) :
    (∀ n, IsBoundary t (byteOffset t n) ∧ byteOffset t n ≤ byteLength t ∧
      charOffset t (byteOffset t n) = min n t.length) ∧
    (∀ b, IsBoundary t b → byteOffset t (charOffset t b) = b) ∧
    Monotone (byteOffset t) ∧ Monotone (charOffset t) ∧
    (∀ o : Offsets, Insertion.run? o t = some (o.restore t)) ∧
    ∀ cursor, Insertion.showCursor? t cursor = some (withCursor t cursor) := by
  refine ⟨fun n => ⟨isBoundary_iff.2 ⟨n, rfl⟩, ?_, charOffset_byteOffset t n⟩, fun b hb => ?_,
    fun _ _ h => byteOffset_le_of_le h t, fun _ _ h => charOffset_le_of_le h t,
    fun o => Insertion.run?_eq o t, Insertion.showCursor?_eq t⟩
  · rw [← byteOffset_min, ← byteOffset_length]
    exact byteOffset_le_of_le (Nat.min_le_right ..) t
  · obtain ⟨n, rfl⟩ := isBoundary_iff.1 hb
    rw [charOffset_byteOffset, byteOffset_min]

theorem Text.offsets_are_inverse_wide :
    let t : Text := ['a', 'é', '€', '😀']
    let o : Offsets := ⟨some 2, some 18446744073709551615, some 1⟩
    IsBoundary t 3 ∧ byteOffset t (charOffset t 3) = 3 ∧
      byteOffset t 18446744073709551615 ≤ byteLength t ∧
      charOffset t (byteOffset t 18446744073709551615) = 4 ∧
      Insertion.run? o t = some (o.restore t) ∧
      Insertion.showCursor? t o.cursor =
        some (['a', 'é'] ++ Marker.cursor.token ++ ['€', '😀']) := by
  intro t o
  have hboundary : IsBoundary t 3 := isBoundary_iff.2 ⟨2, by decide⟩
  obtain ⟨hforth, hback, -, -, hrestored, hshown⟩ := offsets_are_inverse t
  obtain ⟨-, hle, hlast⟩ := hforth 18446744073709551615
  exact ⟨hboundary, hback 3 hboundary, hle, hlast, hrestored o, hshown o.cursor⟩

end FormatConformance
