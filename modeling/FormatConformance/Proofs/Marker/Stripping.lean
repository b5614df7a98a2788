import FormatConformance.Marker

/-!
Taking markers out of a text. A text is read as a token of a marker that is still to be found, or as
one character that is kept; `strip_induction` is the induction over these steps. Offsets count from
where the reading starts, so a reading that starts later finds the same ones moved.
-/

namespace FormatConformance

namespace Marker

theorem mem_all (m : Marker) : m ∈ all := by
  cases m <;> decide

theorem nodup_all : all.Nodup := by decide

theorem token_eq_cons (m : Marker) : ∃ tail, m.token = '<' :: tail := by
  cases m <;> exact ⟨_, rfl⟩

theorem token_ne_nil (m : Marker) : m.token ≠ [] := by
  cases m <;> exact List.cons_ne_nil _ _

end Marker

namespace Offsets

def map (f : Nat → Nat) (o : Offsets) : Offsets :=
  ⟨o.cursor.map f, o.rangeStart.map f, o.rangeEnd.map f⟩

theorem get_map (f : Nat → Nat) (o : Offsets) (m : Marker) :
    (o.map f).get m = (o.get m).map f := by
  cases m <;> rfl

@[simp] theorem map_none (f : Nat → Nat) : map f {} = {} := rfl

@[simp] theorem map_set (f : Nat → Nat) (o : Offsets) (m : Marker) (n : Nat) :
    (o.set m n).map f = (o.map f).set m (f n) := by
  cases m <;> rfl

theorem map_map (g f : Nat → Nat) (o : Offsets) : (o.map f).map g = o.map fun n => g (f n) := by
  simp [map, Function.comp_def]

theorem map_congr {f g : Nat → Nat} {o : Offsets} (h : ∀ m n, o.get m = some n → f n = g n) :
    o.map f = o.map g := by
  apply ext_get
  intro m
  rw [get_map, get_map]
  cases hget : o.get m with
  | none => rfl
  | some n => exact congrArg some (h m n hget)

def next? (pending : List Marker) (t : Text) : Option Marker :=
  pending.find? fun m => m.token.isPrefixOf t

variable {pending : List Marker} {m : Marker} {c : Char} {t rest : Text}

theorem exists_of_next? (h : next? pending t = some m) : ∃ rest, t = m.token ++ rest := by
  have hprefix := List.find?_some h
  obtain ⟨rest, hrest⟩ := List.isPrefixOf_iff_prefix.1 hprefix
  exact ⟨rest, hrest.symm⟩

theorem next?_of_ne (h : c ≠ '<') : next? pending (c :: rest) = none := by
  refine List.find?_eq_none.2 fun m _ hprefix => h ?_
  obtain ⟨tail, htail⟩ := m.token_eq_cons
  rw [htail, List.isPrefixOf_cons_cons, Bool.and_eq_true] at hprefix
  exact (beq_iff_eq.1 hprefix.1).symm

theorem strip_induction {motive : List Marker → Text → Prop} (nil : ∀ pending, motive pending [])
    (token : ∀ pending m rest, next? pending (m.token ++ rest) = some m →
      motive (pending.erase m) rest → motive pending (m.token ++ rest))
    (keep : ∀ pending c rest, next? pending (c :: rest) = none →
      motive pending rest → motive pending (c :: rest)) (pending : List Marker) (t : Text) :
    motive pending t := by
  induction hlength : t.length using Nat.strongRecOn generalizing pending t with
  | ind n ih =>
    -- The length is what decreases: a token takes away more than one character.
    cases t with
    | nil => exact nil pending
    | cons c rest =>
      subst hlength
      cases hnext : next? pending (c :: rest) with
      | none => exact keep pending c rest hnext (ih _ (by simp) pending rest rfl)
      | some m =>
        obtain ⟨left, hleft⟩ := exists_of_next? hnext
        have hpos := List.length_pos_iff.2 m.token_ne_nil
        rw [hleft] at hnext ih ⊢
        apply token pending m left hnext
        exact ih left.length (by rw [List.length_append]; omega) _ left rfl

@[simp] theorem stripFrom_nil (pending : List Marker) (kept skip : Nat) :
    stripFrom pending kept skip [] = ([], {}) := by
  cases skip <;> rfl

theorem stripFrom_skip (kept : Nat) (left rest : Text) :
    stripFrom pending kept left.length (left ++ rest) = stripFrom pending kept 0 rest := by
  induction left with
  | nil => rfl
  | cons c left ih => exact ih

theorem stripFrom_token (kept : Nat) (h : next? pending (m.token ++ rest) = some m) :
    stripFrom pending kept 0 (m.token ++ rest) =
      ((stripFrom (pending.erase m) kept 0 rest).1,
        (stripFrom (pending.erase m) kept 0 rest).2.set m kept) := by
  obtain ⟨tail, htail⟩ := m.token_eq_cons
  rw [htail, List.cons_append] at h ⊢
  unfold next? at h
  simp only [stripFrom, h, htail, List.length_cons, Nat.add_sub_cancel, stripFrom_skip]

theorem stripFrom_keep (kept : Nat) (h : next? pending (c :: rest) = none) :
    stripFrom pending kept 0 (c :: rest) =
      (c :: (stripFrom pending (kept + 1) 0 rest).1, (stripFrom pending (kept + 1) 0 rest).2) := by
  unfold next? at h
  simp only [stripFrom, h]

theorem stripFrom_shift (pending : List Marker) (t : Text) (moved kept : Nat) :
    stripFrom pending (moved + kept) 0 t =
      ((stripFrom pending kept 0 t).1, (stripFrom pending kept 0 t).2.map (moved + ·)) := by
  induction pending, t using strip_induction generalizing kept with
  | nil pending => simp
  | token pending m rest hnext ih => simp only [stripFrom_token _ hnext, ih, map_set]
  | keep pending c rest hnext ih =>
    simp only [stripFrom_keep _ hnext]
    rw [Nat.add_assoc, ih]

theorem stripFrom_append (pending : List Marker) {front : Text} (h : '<' ∉ front) (t : Text) :
    stripFrom pending 0 0 (front ++ t) =
      (front ++ (stripFrom pending 0 0 t).1,
        (stripFrom pending 0 0 t).2.map (front.length + ·)) := by
  induction front with
  | nil => simp [map]
  | cons c front ih =>
    have hc : c ≠ '<' := by
      rintro rfl
      exact h List.mem_cons_self
    have hfront : '<' ∉ front := fun hmem => h (List.mem_cons_of_mem _ hmem)
    have hmoved : ∀ n, 1 + (front.length + n) = (c :: front).length + n := by
      intro n
      rw [List.length_cons]
      omega
    rw [List.cons_append, stripFrom_keep 0 (next?_of_ne hc), Nat.zero_add,
      stripFrom_shift _ _ 1 0, ih hfront, map_map, List.cons_append]
    simp only [hmoved]

theorem stripFrom_sublist (pending : List Marker) (kept : Nat) (t : Text) :
    (stripFrom pending kept 0 t).1.Sublist t := by
  induction pending, t using strip_induction generalizing kept with
  | nil pending => simp
  | token pending m rest hnext ih =>
    rw [stripFrom_token _ hnext]
    exact (ih kept).trans (List.sublist_append_right _ _)
  | keep pending c rest hnext ih =>
    rw [stripFrom_keep _ hnext]
    exact (ih (kept + 1)).cons_cons c

theorem strip_sublist (t : Text) : (strip t).1.Sublist t := stripFrom_sublist _ _ t

end Offsets

end FormatConformance
