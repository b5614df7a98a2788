import FormatConformance.Proofs.Marker.Stripping
import FormatConformance.Proofs.Text.FirstOccurrences

/-!
How tokens can lie in a text. No token begins with another one, and behind its first character a
token agrees with none from there on, so two tokens in a text never share a character. A list of
places of tokens is moved by more bytes in front, and sorted with places that are equal left as they
were.
-/

namespace FormatConformance

open Text (FirstAt)

namespace Marker

variable {m k : Marker} {u v rest : Text} {i : Nat}

theorem eq_of_token_isPrefix (h : m.token <+: k.token) : m = k := by
  revert h
  cases m <;> cases k <;> decide

theorem token_drop_incomparable (m k : Marker) :
    ∀ i < m.token.length, 0 < i →
      ¬ m.token.drop i <+: k.token ∧ ¬ k.token <+: m.token.drop i := by
  cases m <;> cases k <;> decide

theorem eq_of_token_prefix_append (h : m.token <+: k.token ++ rest) : m = k := by
  rcases List.prefix_or_prefix_of_prefix h (List.prefix_append k.token rest) with hmk | hkm
  · exact eq_of_token_isPrefix hmk
  · exact (eq_of_token_isPrefix hkm).symm

theorem eq_of_token_append_eq {rest' : Text} (h : m.token ++ rest = k.token ++ rest') :
    m = k ∧ rest = rest' := by
  obtain rfl : m = k := eq_of_token_prefix_append (h ▸ List.prefix_append m.token rest)
  exact ⟨rfl, List.append_cancel_left h⟩

theorem not_prefix_token_append (h : m.token = u ++ v) (hu : u ≠ []) (hv : v ≠ []) :
    ¬ v <+: k.token ++ rest := by
  intro hbegins
  have hpos := List.length_pos_iff.2 hu
  have hlt : u.length < m.token.length := by
    have := List.length_pos_iff.2 hv
    rw [h, List.length_append]
    omega
  obtain ⟨hvk, hkv⟩ := token_drop_incomparable m k u.length hlt hpos
  rw [h, List.drop_left] at hvk hkv
  rcases List.prefix_or_prefix_of_prefix hbegins (List.prefix_append k.token rest) with hle | hle
  · exact hvk hle
  · exact hkv hle

theorem not_prefix_drop_token_append (hpos : 0 < i) (hlt : i < m.token.length) :
    ¬ k.token <+: (m.token ++ rest).drop i := by
  intro hbegins
  obtain ⟨hmk, hkm⟩ := token_drop_incomparable m k i hlt hpos
  rw [List.drop_append_of_le_length (Nat.le_of_lt hlt)] at hbegins
  rcases List.prefix_or_prefix_of_prefix hbegins (List.prefix_append _ rest) with hle | hle
  · exact hkm hle
  · exact hmk hle

theorem not_prefix_in_token (h : k ≠ m) (rest : Text) :
    ∀ i < m.token.length, ¬ k.token <+: (m.token ++ rest).drop i := by
  intro i hlt hbegins
  rcases Nat.eq_zero_or_pos i with rfl | hpos
  · exact h (eq_of_token_prefix_append hbegins)
  · exact not_prefix_drop_token_append hpos hlt hbegins

theorem length_le_of_prefix_drop {t : Text} {j : Nat} (h : k ≠ m) (hm : m.token <+: t.drop i)
    (hk : k.token <+: t.drop j) (hle : i ≤ j) : i + m.token.length ≤ j := by
  by_contra hlt
  obtain ⟨rest, hrest⟩ := hm
  have hmoved : t.drop j = (m.token ++ rest).drop (j - i) := by
    rw [hrest, List.drop_drop, Nat.add_sub_cancel' hle]
  exact not_prefix_in_token h rest (j - i) (by omega) (hmoved ▸ hk)

def moved (n : Nat) (places : List (Nat × Marker)) : List (Nat × Marker) :=
  places.map fun (place, m) => (n + place, m)

@[simp] theorem moved_cons (n place : Nat) (m : Marker) (places : List (Nat × Marker)) :
    moved n ((place, m) :: places) = (n + place, m) :: moved n places := rfl

theorem moved_append (n : Nat) (places places' : List (Nat × Marker)) :
    moved n (places ++ places') = moved n places ++ moved n places' := List.map_append

theorem moved_map_zero (n : Nat) (markers : List Marker) :
    moved n (markers.map (0, ·)) = markers.map (n, ·) := by
  simp [moved]

theorem moved_moved (n l : Nat) (places : List (Nat × Marker)) :
    moved n (moved l places) = moved (n + l) places := by
  simp [moved, Nat.add_assoc]

section

variable {places : List (Nat × Marker)} {first second : Nat × Marker}

theorem place_le_trans (first second third : Nat × Marker) :
    decide (first.1 ≤ second.1) = true → decide (second.1 ≤ third.1) = true →
      decide (first.1 ≤ third.1) = true := by
  simpa using Nat.le_trans

theorem place_le_total (first second : Nat × Marker) :
    (decide (first.1 ≤ second.1) || decide (second.1 ≤ first.1)) = true := by
  simpa using Nat.le_total first.1 second.1

theorem pairwise_sorted (places : List (Nat × Marker)) :
    (places.mergeSort fun first second => first.1 ≤ second.1).Pairwise fun first second =>
      first.1 ≤ second.1 :=
  (List.pairwise_mergeSort place_le_trans place_le_total places).imp of_decide_eq_true

theorem sublist_sorted (hle : first.1 ≤ second.1) (h : [first, second].Sublist places) :
    [first, second].Sublist (places.mergeSort fun first second => first.1 ≤ second.1) :=
  List.pair_sublist_mergeSort place_le_trans place_le_total (decide_eq_true hle) h

end

end Marker

namespace Offsets

variable {pending : List Marker} {m k : Marker} {c : Char} {rest : Text} {i : Nat}

theorem next?_token (h : m ∈ pending) (rest : Text) :
    next? pending (m.token ++ rest) = some m := by
  cases hnext : next? pending (m.token ++ rest) with
  | none =>
    have hbegins := List.isPrefixOf_iff_prefix.2 (List.prefix_append m.token rest)
    exact absurd hbegins (List.find?_eq_none.1 hnext m h)
  | some k =>
    obtain ⟨after, hafter⟩ := exists_of_next? hnext
    rw [(Marker.eq_of_token_append_eq hafter).1]

theorem mem_of_next? (h : next? pending (m.token ++ rest) = some m) : m ∈ pending :=
  List.mem_of_find?_eq_some h

theorem next?_eq_none_iff {t : Text} :
    next? pending t = none ↔ ∀ m ∈ pending, ¬ m.token <+: t := by
  simp [next?]

theorem not_prefix_of_next? (h : next? pending (c :: rest) = none) (hm : m ∈ pending) :
    ∀ i < [c].length, ¬ m.token <+: ([c] ++ rest).drop i := by
  intro i hi
  obtain rfl : i = 0 := Nat.lt_one_iff.1 hi
  exact next?_eq_none_iff.1 h m hm

end Offsets

end FormatConformance
