import Mathlib.Data.List.Nodup
import FormatConformance.Proofs.Marker.Tokens

/-!
Writing tokens into a text. A token written into it interrupts every other one, so whatever begins a
token in the text with tokens written into it either was written there or stands in the text as it
was, and reading the text gives back what was written.
-/

namespace FormatConformance

namespace Marker

def Before (m k : Marker) : Prop := [m, k].Sublist all

instance (m k : Marker) : Decidable (Before m k) :=
  inferInstanceAs (Decidable ([m, k].Sublist all))

theorem Before.asymm {m k : Marker} (h : Before m k) : ¬ Before k m := by
  revert h
  cases m <;> cases k <;> decide

theorem before_total {m k : Marker} (h : m ≠ k) : Before m k ∨ Before k m := by
  revert h
  cases m <;> cases k <;> decide

end Marker

namespace Offsets

variable {o : Offsets} {pending ms : List Marker} {m k : Marker} {n : Nat} {rest s t v : Text}

def due (o : Offsets) (here : Nat → Bool) : List Marker :=
  Marker.all.filter fun m => (o.get m).any here

theorem tokensWhere_eq (o : Offsets) (here : Nat → Bool) :
    o.tokensWhere here = (o.due here).flatMap Marker.token := rfl

theorem mem_due_iff {here : Nat → Bool} :
    m ∈ o.due here ↔ ∃ a, o.get m = some a ∧ here a = true := by
  rw [due, List.mem_filter, Option.any_eq_true]
  exact and_iff_right (Marker.mem_all m)

theorem nodup_due (o : Offsets) (here : Nat → Bool) : (o.due here).Nodup :=
  Marker.nodup_all.filter _

theorem tokensWhere_cases (o : Offsets) (here : Nat → Bool) :
    (o.tokensWhere here = [] ∧ ∀ k a, o.get k = some a → here a = false) ∨
      ∃ (k : Marker) (more : Text), o.tokensWhere here = k.token ++ more := by
  rw [tokensWhere_eq]
  cases hdue : o.due here with
  | nil =>
    refine .inl ⟨rfl, fun k a hk => ?_⟩
    by_contra hhere
    have hmem := mem_due_iff.2 ⟨a, hk, Bool.not_eq_false _ ▸ hhere⟩
    rw [hdue] at hmem
    cases hmem
  | cons k ks => exact .inr ⟨k, ks.flatMap Marker.token, List.flatMap_cons⟩

theorem prefix_of_prefix_restoreFrom {u : Text} (hm : m.token = u ++ v) (hu : u ≠ [])
    (h : v <+: restoreFrom o n t) :
    v <+: t ∧ ∀ k a, o.get k = some a → n ≤ a → n + v.length ≤ a := by
  -- `u` is what has been met of the token, so a token written next does not go on with `v`.
  induction v generalizing u n t with
  | nil => exact ⟨List.nil_prefix, fun k a _ hle => hle⟩
  | cons c v ih =>
    have hfree : ∀ (k : Marker) more, ¬ c :: v <+: k.token ++ more := fun k more =>
      Marker.not_prefix_token_append hm hu (List.cons_ne_nil c v)
    cases t with
    | nil =>
      rw [restoreFrom] at h
      rcases tokensWhere_cases o (n ≤ ·) with ⟨hnone, -⟩ | ⟨k, more, hsome⟩
      · rw [hnone] at h
        cases List.prefix_nil.1 h
      · exact absurd (hsome ▸ h) (hfree k more)
    | cons d rest =>
      rw [restoreFrom] at h
      rcases tokensWhere_cases o (· == n) with ⟨hnone, hlater⟩ | ⟨k, more, hsome⟩
      · rw [hnone, List.nil_append, List.cons_prefix_cons] at h
        obtain ⟨rfl, hrest⟩ := h
        have hm' : m.token = (u ++ [c]) ++ v := by rw [hm, List.append_assoc]; rfl
        obtain ⟨hbegins, hbeyond⟩ := ih hm' (by simp) hrest
        refine ⟨List.cons_prefix_cons.2 ⟨rfl, hbegins⟩, fun k a hk hle => ?_⟩
        have hne : a ≠ n := by simpa using hlater k a hk
        have hfar := hbeyond k a hk (by omega)
        rw [List.length_cons]
        omega
      · rw [hsome, List.append_assoc] at h
        exact absurd h (hfree k _)

theorem stripFrom_flatMap_token (hnodup : ms.Nodup) (hsub : ∀ m ∈ ms, m ∈ pending) (n : Nat)
    (t : Text) :
    stripFrom pending n 0 (ms.flatMap Marker.token ++ t) =
      ((stripFrom (pending.diff ms) n 0 t).1,
        ms.foldr (fun m o => o.set m n) (stripFrom (pending.diff ms) n 0 t).2) := by
  induction ms generalizing pending with
  | nil => rfl
  | cons m ms ih =>
    obtain ⟨hm, hms⟩ := List.nodup_cons.1 hnodup
    have hothers : ∀ k ∈ ms, k ∈ pending.erase m := by
      intro k hk
      have hne : k ≠ m := by
        rintro rfl
        exact hm hk
      exact (List.mem_erase_of_ne hne).2 (hsub k (List.mem_cons_of_mem m hk))
    have hnext := next?_token (hsub m List.mem_cons_self) (ms.flatMap Marker.token ++ t)
    rw [List.flatMap_cons, List.append_assoc, stripFrom_token n hnext, ih hms hothers,
      List.diff_cons]
    rfl

theorem get_foldr_set (ms : List Marker) (o : Offsets) (n : Nat) (k : Marker) :
    (ms.foldr (fun m o => o.set m n) o).get k = if k ∈ ms then some n else o.get k := by
  induction ms with
  | nil => simp
  | cons m ms ih =>
    by_cases hkm : k = m
    · subst hkm
      simp
    · rw [List.foldr_cons, get_set_of_ne _ _ hkm, ih]
      simp [hkm]

/-- A token of a pending marker in the text is either behind the offset of the marker, or another
token is to be written into it. -/
def Restorable (pending : List Marker) (o : Offsets) (n : Nat) (s : Text) : Prop :=
  ∀ m ∈ pending, ∀ i, m.token <+: s.drop i →
    (∃ a, o.get m = some a ∧ a ≤ n + i) ∨
      ∃ k a, o.get k = some a ∧ n + i < a ∧ a < n + i + m.token.length

theorem Restorable.tail {c : Char} (h : Restorable pending o n (c :: s)) :
    Restorable pending o (n + 1) s := by
  intro m hm i hbegins
  have hmoved : n + 1 + i = n + (i + 1) := by omega
  rw [hmoved]
  exact h m hm (i + 1) hbegins

theorem next?_restoreFrom {c : Char} (h : Restorable pending o n (c :: rest))
    (hdone : ∀ m ∈ pending, ∀ a, o.get m = some a → n < a) :
    next? pending (c :: restoreFrom o (n + 1) rest) = none := by
  refine next?_eq_none_iff.2 fun m hm hbegins => ?_
  obtain ⟨tail, htail⟩ := m.token_eq_cons
  rw [htail, List.cons_prefix_cons] at hbegins
  obtain ⟨rfl, hrestored⟩ := hbegins
  have hsplit : m.token = ['<'] ++ tail := htail
  obtain ⟨hstands, hbeyond⟩ :=
    prefix_of_prefix_restoreFrom hsplit (List.cons_ne_nil _ _) hrestored
  have hlength : m.token.length = tail.length + 1 := by rw [htail, List.length_cons]
  rcases h m hm 0 (htail ▸ List.cons_prefix_cons.2 ⟨rfl, hstands⟩) with
    ⟨a, ha, hle⟩ | ⟨k, a, ha, hlt, hinside⟩
  · have hlt := hdone m hm a ha
    omega
  · have hfar := hbeyond k a ha (by omega)
    omega

def readFrom (n length a : Nat) : Option Nat :=
  if n ≤ a then some (min a (n + length)) else none

theorem readFrom_end (n a : Nat) : readFrom n 0 a = if n ≤ a then some n else none := by
  by_cases hle : n ≤ a <;> simp [readFrom, hle]

theorem readFrom_step (n length a : Nat) :
    readFrom n (length + 1) a = if a = n then some n else readFrom (n + 1) length a := by
  have hlength : n + 1 + length = n + (length + 1) := by omega
  rw [readFrom, readFrom, hlength]
  rcases Nat.lt_trichotomy a n with hlt | rfl | hgt
  · rw [if_neg (by omega), if_neg (by omega), if_neg (by omega)]
  · rw [if_pos (Nat.le_refl a), if_pos rfl, Nat.min_eq_left (Nat.le_add_right ..)]
  · rw [if_pos (by omega), if_neg (by omega), if_pos (by omega)]

/-- Reading a text with tokens written into it gives back the text, and the offsets of the tokens
that are written from there on, none of them behind the end. -/
theorem stripFrom_restoreFrom (hnodup : pending.Nodup)
    (hpending : ∀ m a, o.get m = some a → (m ∈ pending ↔ n ≤ a))
    (h : Restorable pending o n s) :
    (stripFrom pending n 0 (restoreFrom o n s)).1 = s ∧
      ∀ m, (stripFrom pending n 0 (restoreFrom o n s)).2.get m =
        (o.get m).bind (readFrom n s.length) := by
  induction s generalizing pending n with
  | nil =>
    have hsub : ∀ m ∈ o.due (n ≤ ·), m ∈ pending := by
      intro m hm
      obtain ⟨a, ha, hle⟩ := mem_due_iff.1 hm
      exact (hpending m a ha).2 (of_decide_eq_true hle)
    have hread := stripFrom_flatMap_token (nodup_due o (n ≤ ·)) hsub n []
    rw [List.append_nil, stripFrom_nil] at hread
    rw [restoreFrom, tokensWhere_eq, hread]
    refine ⟨rfl, fun m => ?_⟩
    rw [get_foldr_set, get_empty]
    cases ha : o.get m with
    | none => simp [mem_due_iff, ha]
    | some a => simp [mem_due_iff, ha, readFrom_end]
  | cons c rest ih =>
    have hhere : ∀ m, m ∈ o.due (· == n) ↔ o.get m = some n := by
      intro m
      simp [mem_due_iff]
    have hsub : ∀ m ∈ o.due (· == n), m ∈ pending := fun m hm =>
      (hpending m n ((hhere m).1 hm)).2 (Nat.le_refl n)
    -- Behind the tokens written here, what is pending are the markers with an offset further on.
    have hleft : ∀ m, m ∈ pending.diff (o.due (· == n)) ↔
        m ∈ pending ∧ m ∉ o.due (· == n) := fun m => hnodup.mem_sdiff_iff
    have hpending' : ∀ m a, o.get m = some a →
        (m ∈ pending.diff (o.due (· == n)) ↔ n + 1 ≤ a) := by
      intro m a ha
      rw [hleft, hpending m a ha, hhere, ha, Option.some.injEq]
      omega
    have hdone : ∀ m ∈ pending.diff (o.due (· == n)), ∀ a, o.get m = some a → n < a :=
      fun m hm a ha => (hpending' m a ha).1 hm
    have hrestorable : Restorable (pending.diff (o.due (· == n))) o n (c :: rest) :=
      fun m hm => h m ((hleft m).1 hm).1
    obtain ⟨htext, hget⟩ := ih hnodup.diff hpending' hrestorable.tail
    rw [restoreFrom, tokensWhere_eq, stripFrom_flatMap_token (nodup_due o _) hsub,
      stripFrom_keep n (next?_restoreFrom hrestorable hdone)]
    refine ⟨by rw [htext], fun m => ?_⟩
    rw [get_foldr_set, hget, List.length_cons]
    cases ha : o.get m with
    | none => simp [hhere, ha]
    | some a => simp [hhere, ha, readFrom_step]

theorem strip_restore_eq (h : Restorable Marker.all o 0 s) :
    strip (restore o s) = (s, o.map (min · s.length)) := by
  have hpending : ∀ m a, o.get m = some a → (m ∈ Marker.all ↔ 0 ≤ a) := fun m a _ =>
    iff_of_true (Marker.mem_all m) (Nat.zero_le a)
  obtain ⟨htext, hget⟩ := stripFrom_restoreFrom Marker.nodup_all hpending h
  refine Prod.ext htext (ext_get fun m => (hget m).trans ?_)
  rw [get_map]
  cases o.get m with
  | none => rfl
  | some a => simp [readFrom]

end Offsets

end FormatConformance
