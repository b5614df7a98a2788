import FormatConformance.Proofs.Marker.FirstTokens
import FormatConformance.Proofs.Marker.Insertion

/-!
Taking tokens out and writing them, one after the other. The tokens taken out between the same two
characters are written back in one fixed order, so the text itself comes back exactly if they stood
in it. Taking out after writing gives back what was written, whatever pieces of tokens the text has.
-/

namespace FormatConformance

open Text (FirstAt)

namespace Offsets

open Marker (Before)

variable {o : Offsets} {pending ms : List Marker} {m k : Marker} {n : Nat} {s t v rest : Text}

/-- The token of `k` stands behind the one of `m` with nothing between them but tokens of the
markers that are taken out. -/
def Adjoins (markers : List Marker) (t : Text) (m k : Marker) : Prop :=
  ∃ i j, FirstAt m.token t i ∧ FirstAt k.token t j ∧ i < j ∧
    ∀ x, i + m.token.length ≤ x → x < j → Taken markers t x

def InOrder (markers : List Marker) (t : Text) : Prop :=
  ∀ m ∈ markers, ∀ k ∈ markers, Adjoins markers t m k → Before m k

theorem before_of_due_eq_cons {here : Nat → Bool} (h : o.due here = m :: ms) (hk : k ∈ ms) :
    Before m k := by
  have hpair : [m, k].Sublist (m :: ms) := (List.singleton_sublist.2 hk).cons_cons m
  exact (h ▸ hpair).trans List.filter_sublist

theorem filter_due_set (hnone : o.get m = none) :
    ((o.set m n).due (· == n)).filter (· ≠ m) = o.due (· == n) := by
  rw [due, due, List.filter_filter]
  refine List.filter_congr fun k _ => ?_
  by_cases hkm : k = m
  · subst hkm
    simp [hnone]
  · simp [get_set_of_ne _ _ hkm, hkm]

theorem eq_due_of_due_set (hnone : o.get m = none) (h : (o.set m n).due (· == n) = m :: ms) :
    ms = o.due (· == n) := by
  obtain ⟨hm, -⟩ := List.nodup_cons.1 (h ▸ nodup_due (o.set m n) (· == n))
  have hothers : ms.filter (· ≠ m) = ms := by
    refine List.filter_eq_self.2 fun k hk => decide_eq_true ?_
    rintro rfl
    exact hm hk
  rw [← filter_due_set hnone, h, List.filter_cons_of_neg (by simp), hothers]

theorem due_set_eq_cons_iff (hnone : o.get m = none) :
    (o.set m n).due (· == n) = m :: o.due (· == n) ↔ ∀ k, o.get k = some n → Before m k := by
  have hhere : ∀ k, o.get k = some n → k ≠ m := by
    rintro k hk rfl
    rw [hnone] at hk
    cases hk
  constructor
  · intro h k hk
    exact before_of_due_eq_cons h (mem_due_iff.2 ⟨n, hk, beq_self_eq_true n⟩)
  · intro h
    have hm : m ∈ (o.set m n).due (· == n) := mem_due_iff.2 ⟨n, by simp, beq_self_eq_true n⟩
    cases hdue : (o.set m n).due (· == n) with
    | nil =>
      rw [hdue] at hm
      cases hm
    | cons k ms =>
      by_cases hkm : k = m
      · subst hkm
        rw [eq_due_of_due_set hnone hdue]
      · -- The token of `k` would be in front of the one of `m`, whose place is in front of it.
        have hmem : m ∈ ms := by
          rw [hdue] at hm
          exact (List.mem_cons.1 hm).resolve_left (Ne.symm hkm)
        have hk : k ∈ (o.set m n).due (· == n) := hdue ▸ List.mem_cons_self
        obtain ⟨a, ha, heq⟩ := mem_due_iff.1 hk
        rw [get_set_of_ne _ _ hkm, eq_of_beq heq] at ha
        exact absurd (before_of_due_eq_cons hdue hmem) (h k ha).asymm

def beyond (o : Offsets) (n : Nat) : Text → Text
  | [] => []
  | c :: rest => c :: restoreFrom o (n + 1) rest

theorem restoreFrom_eq (hwithin : ∀ k a, o.get k = some a → a ≤ n + s.length) :
    restoreFrom o n s = (o.due (· == n)).flatMap Marker.token ++ o.beyond n s := by
  cases s with
  | nil =>
    have hend : o.due (n ≤ ·) = o.due (· == n) := by
      refine List.filter_congr fun k _ => ?_
      cases ha : o.get k with
      | none => rfl
      | some a =>
        have hle := hwithin k a ha
        rw [List.length_nil] at hle
        rw [Option.any_some, Option.any_some, Bool.eq_iff_iff, decide_eq_true_iff, beq_iff_eq]
        omega
    rw [restoreFrom, tokensWhere_eq, hend, beyond, List.append_nil]
  | cons c rest => rfl

theorem restoreFrom_set_of_lt {l : Nat} (hlt : l < n) (hnone : o.get m = none) :
    restoreFrom (o.set m l) n s = restoreFrom o n s := by
  have hdue : ∀ (here : Nat → Bool), here l = false → (o.set m l).due here = o.due here := by
    intro here hl
    refine List.filter_congr fun k _ => ?_
    by_cases hkm : k = m
    · subst hkm
      simp [hnone, hl]
    · rw [get_set_of_ne _ _ hkm]
  induction s generalizing n with
  | nil =>
    have hnot : ¬ n ≤ l := by omega
    rw [restoreFrom, restoreFrom, tokensWhere_eq, tokensWhere_eq, hdue _ (decide_eq_false hnot)]
  | cons c rest ih =>
    have hne : (l == n) = false := beq_eq_false_iff_ne.2 (Nat.ne_of_lt hlt)
    rw [restoreFrom, restoreFrom, tokensWhere_eq, tokensWhere_eq, hdue _ hne,
      ih (Nat.lt_succ_of_lt hlt)]

theorem beyond_set (hnone : o.get m = none) : (o.set m n).beyond n s = o.beyond n s := by
  cases s with
  | nil => rfl
  | cons c rest => rw [beyond, beyond, restoreFrom_set_of_lt (Nat.lt_succ_self n) hnone]

theorem restoreFrom_set_eq_iff (hnone : o.get m = none)
    (hwithin : ∀ k a, o.get k = some a → a ≤ n + s.length) :
    restoreFrom (o.set m n) n s = m.token ++ rest ↔
      (∀ k, o.get k = some n → Before m k) ∧ restoreFrom o n s = rest := by
  have hwithin' : ∀ k a, (o.set m n).get k = some a → a ≤ n + s.length := by
    intro k a ha
    by_cases hkm : k = m
    · subst hkm
      rw [get_set_self, Option.some.injEq] at ha
      omega
    · rw [get_set_of_ne _ _ hkm] at ha
      exact hwithin k a ha
  rw [restoreFrom_eq hwithin', restoreFrom_eq hwithin, beyond_set hnone,
    ← due_set_eq_cons_iff hnone]
  have hm : m ∈ (o.set m n).due (· == n) := mem_due_iff.2 ⟨n, by simp, beq_self_eq_true n⟩
  cases hdue : (o.set m n).due (· == n) with
  | nil =>
    rw [hdue] at hm
    cases hm
  | cons k ms =>
    rw [List.flatMap_cons, List.append_assoc]
    constructor
    · intro h
      obtain ⟨rfl, hrest⟩ := Marker.eq_of_token_append_eq h
      obtain rfl := eq_due_of_due_set hnone hdue
      exact ⟨rfl, hrest⟩
    · rintro ⟨h, rfl⟩
      obtain ⟨rfl, rfl⟩ := List.cons.inj h
      rfl

theorem get_stripFrom_bounds (kept : Nat) {a : Nat}
    (h : (stripFrom pending kept 0 t).2.get m = some a) :
    kept ≤ a ∧ a ≤ kept + (stripFrom pending kept 0 t).1.length := by
  induction pending, t using strip_induction generalizing kept with
  | nil pending => simp at h
  | token pending k rest hnext ih =>
    rw [stripFrom_token kept hnext] at h ⊢
    by_cases hmk : m = k
    · subst hmk
      rw [get_set_self, Option.some.injEq] at h
      omega
    · rw [get_set_of_ne _ _ hmk] at h
      exact ih kept h
  | keep pending c rest hnext ih =>
    rw [stripFrom_keep kept hnext] at h ⊢
    have hbounds := ih (kept + 1) h
    rw [List.length_cons]
    omega

section

variable {markers markers' : List Marker} {front : Text}

theorem adjoins_append_iff (hm : ∀ i < front.length, ¬ m.token <+: (front ++ rest).drop i)
    (hk : ∀ i < front.length, ¬ k.token <+: (front ++ rest).drop i)
    (htaken : ∀ x, Taken markers (front ++ rest) (front.length + x) ↔ Taken markers' rest x) :
    Adjoins markers (front ++ rest) m k ↔ Adjoins markers' rest m k := by
  constructor
  · rintro ⟨i, j, hi, hj, hlt, hbetween⟩
    obtain ⟨i, rfl, hrestm⟩ := (Text.firstAt_append_iff hm).1 hi
    obtain ⟨j, rfl, hrestk⟩ := (Text.firstAt_append_iff hk).1 hj
    refine ⟨i, j, hrestm, hrestk, by omega, fun x hle hx => ?_⟩
    exact (htaken x).1 (hbetween (front.length + x) (by omega) (by omega))
  · rintro ⟨i, j, hrestm, hrestk, hlt, hbetween⟩
    have hi := (Text.firstAt_append_iff hm).2 ⟨i, rfl, hrestm⟩
    have hj := (Text.firstAt_append_iff hk).2 ⟨j, rfl, hrestk⟩
    refine ⟨front.length + i, front.length + j, hi, hj, by omega, fun x hle hx => ?_⟩
    obtain ⟨x, rfl⟩ : ∃ y, x = front.length + y := Nat.exists_eq_add_of_le (by omega)
    exact (htaken x).2 (hbetween x (by omega) (by omega))

end

theorem inOrder_cons_iff {c : Char} (hnext : next? pending (c :: rest) = none) :
    InOrder pending (c :: rest) ↔ InOrder pending rest := by
  have hadjoins : ∀ m ∈ pending, ∀ k ∈ pending,
      (Adjoins pending (c :: rest) m k ↔ Adjoins pending rest m k) := fun m hm k hk =>
    adjoins_append_iff (not_prefix_of_next? hnext hm) (not_prefix_of_next? hnext hk)
      (taken_cons_one_add_iff hnext)
  constructor
  · intro h m hm k hk hrest
    exact h m hm k hk ((hadjoins m hm k hk).2 hrest)
  · intro h m hm k hk hcons
    exact h m hm k hk ((hadjoins m hm k hk).1 hcons)

theorem not_adjoins_first : ¬ Adjoins pending (m.token ++ rest) k m := by
  rintro ⟨i, j, -, hj, hlt, -⟩
  rw [hj.unique (firstAt_token m rest)] at hlt
  exact Nat.not_lt_zero i hlt

theorem adjoins_first_iff (hnodup : pending.Nodup) (hkm : k ≠ m) (hk : k ∈ pending) (n : Nat) :
    Adjoins pending (m.token ++ rest) m k ↔
      (stripFrom (pending.erase m) n 0 rest).2.get k = some n := by
  have hstart := fun j => Text.firstAt_append_iff (i := j) (Marker.not_prefix_in_token hkm rest)
  have htaken := taken_token_add_iff (m := m) hnodup rest
  have hk' : k ∈ pending.erase m := (List.mem_erase_of_ne hkm).2 hk
  have hzero : ∀ l, n = n + l ↔ l = 0 := by omega
  rw [get_stripFrom_iff (hnodup.erase m), and_iff_right hk']
  simp only [hzero, Text.countKept_eq_zero_iff]
  constructor
  · rintro ⟨i, j, hi, hj, hlt, hbetween⟩
    obtain rfl := hi.unique (firstAt_token m rest)
    obtain ⟨j, rfl, hrest⟩ := (hstart j).1 hj
    refine ⟨j, hrest, fun x hx => (htaken x).1 (hbetween _ (by omega) (by omega))⟩
  · rintro ⟨j, hrest, hall⟩
    have hpos := List.length_pos_iff.2 m.token_ne_nil
    refine ⟨0, m.token.length + j, firstAt_token m rest, (hstart _).2 ⟨j, rfl, hrest⟩, by omega,
      fun x hle hx => ?_⟩
    obtain ⟨x, rfl⟩ : ∃ y, x = m.token.length + y := Nat.exists_eq_add_of_le (by omega)
    exact (htaken x).2 (hall x (by omega))

theorem inOrder_token_iff (hnodup : pending.Nodup) (hm : m ∈ pending) (n : Nat) :
    InOrder pending (m.token ++ rest) ↔
      (∀ k, (stripFrom (pending.erase m) n 0 rest).2.get k = some n → Before m k) ∧
        InOrder (pending.erase m) rest := by
  have hothers : ∀ k ∈ pending.erase m, ∀ l ∈ pending.erase m,
      (Adjoins pending (m.token ++ rest) k l ↔ Adjoins (pending.erase m) rest k l) := by
    intro k hk l hl
    exact adjoins_append_iff (Marker.not_prefix_in_token (hnodup.mem_erase_iff.1 hk).1 rest)
      (Marker.not_prefix_in_token (hnodup.mem_erase_iff.1 hl).1 rest)
      (taken_token_add_iff hnodup rest)
  constructor
  · intro h
    refine ⟨fun k hget => ?_, fun k hk l hl hrest => ?_⟩
    · obtain ⟨hkm, hk⟩ := hnodup.mem_erase_iff.1
        ((get_stripFrom_iff (hnodup.erase m) n n rest).1 hget).1
      exact h m hm k hk ((adjoins_first_iff hnodup hkm hk n).2 hget)
    · have hadjoins := (hothers k hk l hl).2 hrest
      exact h k (List.mem_of_mem_erase hk) l (List.mem_of_mem_erase hl) hadjoins
  · rintro ⟨hfirst, hrest⟩ k hk l hl hadjoins
    by_cases hlm : l = m
    · subst hlm
      exact absurd hadjoins not_adjoins_first
    · have hl' := (List.mem_erase_of_ne hlm).2 hl
      by_cases hkm : k = m
      · subst hkm
        exact hfirst l ((adjoins_first_iff hnodup hlm hl n).1 hadjoins)
      · have hk' := (List.mem_erase_of_ne hkm).2 hk
        exact hrest k hk' l hl' ((hothers k hk' l hl').1 hadjoins)

theorem restoreFrom_stripFrom_iff (hnodup : pending.Nodup) (kept : Nat) (t : Text) :
    restoreFrom (stripFrom pending kept 0 t).2 kept (stripFrom pending kept 0 t).1 = t ↔
      InOrder pending t := by
  induction pending, t using strip_induction generalizing kept with
  | nil pending =>
    refine iff_of_true (by simp [restoreFrom, tokensWhere]) ?_
    rintro m - k - ⟨i, j, hi, -⟩
    exact absurd (List.prefix_nil.1 (List.drop_nil ▸ hi.1)) m.token_ne_nil
  | token pending m rest hnext ih =>
    have hm := mem_of_next? hnext
    have hgone := get_stripFrom_of_notMem (hnodup.erase m) hnodup.not_mem_erase kept rest
    rw [stripFrom_token kept hnext, inOrder_token_iff hnodup hm kept, ← ih (hnodup.erase m)]
    exact restoreFrom_set_eq_iff hgone fun k a ha => (get_stripFrom_bounds kept ha).2
  | keep pending c rest hnext ih =>
    have hlater : (stripFrom pending (kept + 1) 0 rest).2.due (· == kept) = [] := by
      refine List.eq_nil_iff_forall_not_mem.2 fun k hk => ?_
      obtain ⟨a, ha, heq⟩ := mem_due_iff.1 hk
      have hle := (get_stripFrom_bounds (kept + 1) ha).1
      have hsame := eq_of_beq heq
      omega
    rw [stripFrom_keep kept hnext, inOrder_cons_iff hnext, ← ih hnodup (kept + 1), restoreFrom,
      tokensWhere_eq, hlater]
    simp

theorem prefix_of_prefix_stripFrom (kept : Nat) (h : v <+: (stripFrom pending kept 0 t).1) :
    v <+: t ∨ ∃ k a, (stripFrom pending kept 0 t).2.get k = some a ∧
      kept ≤ a ∧ a < kept + v.length := by
  induction pending, t using strip_induction generalizing kept v with
  | nil pending =>
    rw [stripFrom_nil] at h
    exact .inl h
  | token pending m rest hnext ih =>
    rw [stripFrom_token kept hnext]
    cases v with
    | nil => exact .inl List.nil_prefix
    | cons c v =>
      refine .inr ⟨m, kept, get_set_self .., Nat.le_refl kept, ?_⟩
      rw [List.length_cons]
      omega
  | keep pending d rest hnext ih =>
    rw [stripFrom_keep kept hnext] at h ⊢
    cases v with
    | nil => exact .inl List.nil_prefix
    | cons c v =>
      obtain ⟨rfl, hv⟩ := List.cons_prefix_cons.1 h
      rcases ih (kept + 1) hv with hrest | ⟨k, a, ha, hle, hlt⟩
      · exact .inl (List.cons_prefix_cons.2 ⟨rfl, hrest⟩)
      · refine .inr ⟨k, a, ha, by omega, ?_⟩
        rw [List.length_cons]
        omega

/-- A token that is left stands behind the one that was taken out, or came about by taking out one
that stood in it. -/
theorem restorable_stripFrom (hnodup : pending.Nodup) (kept : Nat) (t : Text) :
    Restorable pending (stripFrom pending kept 0 t).2 kept (stripFrom pending kept 0 t).1 := by
  induction pending, t using strip_induction generalizing kept with
  | nil pending =>
    intro m _ i hbegins
    rw [stripFrom_nil, List.drop_nil, List.prefix_nil] at hbegins
    exact absurd hbegins m.token_ne_nil
  | token pending k rest hnext ih =>
    have hgone := get_stripFrom_of_notMem (hnodup.erase k) hnodup.not_mem_erase kept rest
    rw [stripFrom_token kept hnext]
    intro m hm i hbegins
    by_cases hmk : m = k
    · subst hmk
      exact .inl ⟨kept, get_set_self .., Nat.le_add_right kept i⟩
    · rw [get_set_of_ne _ _ hmk]
      rcases ih (hnodup.erase k) kept m ((List.mem_erase_of_ne hmk).2 hm) i hbegins with
        hbehind | ⟨l, a, ha, hinside⟩
      · exact .inl hbehind
      · refine .inr ⟨l, a, ?_, hinside⟩
        have hlk : l ≠ k := by
          rintro rfl
          rw [hgone] at ha
          cases ha
        rw [get_set_of_ne _ _ hlk, ha]
  | keep pending c rest hnext ih =>
    rw [stripFrom_keep kept hnext]
    intro m hm i hbegins
    cases i with
    | zero =>
      obtain ⟨tail, htail⟩ := m.token_eq_cons
      have hnone := next?_eq_none_iff.1 hnext m hm
      rw [htail, List.cons_prefix_cons] at hnone
      rw [List.drop_zero, htail, List.cons_prefix_cons] at hbegins
      obtain ⟨rfl, hleft⟩ := hbegins
      rcases prefix_of_prefix_stripFrom (kept + 1) hleft with hrest | ⟨k, a, ha, hle, hlt⟩
      · exact absurd ⟨rfl, hrest⟩ hnone
      · refine .inr ⟨k, a, ha, by omega, ?_⟩
        rw [htail, List.length_cons]
        omega
    | succ i =>
      have hmoved : kept + (i + 1) = kept + 1 + i := by omega
      rw [hmoved]
      exact ih hnodup (kept + 1) m hm i hbegins

/-- Writing tokens into a text without any gives a result, and reading it gives back the text and
the offsets, those past its end as the end. -/
theorem strip_restore (h : ∀ m : Marker, ¬ m.token <:+: s) (o : Offsets) :
    Insertion.run? o s = some (restore o s) ∧
      strip (restore o s) = (s, o.map (min · s.length)) := by
  refine ⟨Insertion.run?_eq o s, strip_restore_eq ?_⟩
  intro m _ i hbegins
  exact absurd (hbegins.isInfix.trans (List.drop_suffix i s).isInfix) (h m)

theorem strip_restore_fragments :
    (∀ m : Marker, ¬ m.token <:+: "é<|<<<PRETTIER_RANGE_|>".toList) ∧
      restore ⟨some 3, some 99, some 3⟩ "é<|<<<PRETTIER_RANGE_|>".toList =
        ("é<|<|><<<PRETTIER_RANGE_END>>><<<PRETTIER_RANGE_|>" ++
          "<<<PRETTIER_RANGE_START>>>").toList ∧
      Insertion.run? ⟨some 3, some 99, some 3⟩ "é<|<<<PRETTIER_RANGE_|>".toList =
        some (restore ⟨some 3, some 99, some 3⟩ "é<|<<<PRETTIER_RANGE_|>".toList) ∧
      strip (restore ⟨some 3, some 99, some 3⟩ "é<|<<<PRETTIER_RANGE_|>".toList) =
        ("é<|<<<PRETTIER_RANGE_|>".toList, ⟨some 3, some 23, some 3⟩) :=
  ⟨fun m => by cases m <;> decide +kernel, by decide +kernel,
    strip_restore (fun m => by cases m <;> decide +kernel) ⟨some 3, some 99, some 3⟩⟩

/-- Writing back what was taken out of a text gives a result. It is the text itself exactly if the
tokens taken out stood in the order in which they are written, and what is read from it is in every
case what was read from the text. -/
theorem restore_strip_iff (t : Text) :
    Insertion.run? (strip t).2 (strip t).1 = some (restore (strip t).2 (strip t).1) ∧
      (restore (strip t).2 (strip t).1 = t ↔ InOrder Marker.all t) ∧
      strip (restore (strip t).2 (strip t).1) = strip t := by
  have hnodup := Marker.nodup_all
  have hread : strip (restore (strip t).2 (strip t).1) = _ :=
    strip_restore_eq (restorable_stripFrom hnodup 0 t)
  refine ⟨Insertion.run?_eq _ _, restoreFrom_stripFrom_iff hnodup 0 t,
    hread.trans (Prod.ext rfl (ext_get fun m => ?_))⟩
  rw [get_map]
  cases ha : (strip t).2.get m with
  | none => rfl
  | some a =>
    have hle : a ≤ 0 + (strip t).1.length := (get_stripFrom_bounds 0 ha).2
    rw [Nat.zero_add] at hle
    rw [Option.map_some, Nat.min_eq_left hle]

example :
    restore (strip "<|><<<PRETTIER_RANGE_START>>>a<|>".toList).2
        (strip "<|><<<PRETTIER_RANGE_START>>>a<|>".toList).1 =
      "<<<PRETTIER_RANGE_START>>><|>a<|>".toList := by
  decide +kernel

end Offsets

end FormatConformance
