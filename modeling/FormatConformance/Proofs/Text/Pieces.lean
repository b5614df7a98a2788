import FormatConformance.Proofs.Text.Terminators

/-!
Texts terminator by terminator. A text is read as a terminator that is not part of a longer one, or
as one character that belongs to none; `terminator_induction` is the induction over these steps. The
pieces of a text with its terminators between them are the text again, and bringing the terminators
into line keeps the pieces.
-/

namespace FormatConformance

namespace LineEnding

variable {ending : LineEnding} {c : Char} {rest s t : Text}

/-- The terminator is no part of a longer one in front of `rest`. -/
def Ends (ending : LineEnding) (rest : Text) : Prop := ending = cr → rest.head? ≠ some '\n'

theorem Ends.ne_cons (h : Ends cr rest) (after : Text) : rest ≠ '\n' :: after := by
  rintro rfl
  exact h rfl rfl

theorem terminator_induction {motive : Text → Prop} (nil : motive [])
    (terminator : ∀ ending rest, Ends ending rest → motive rest → motive (ending.chars ++ rest))
    (keep : ∀ c rest, c ≠ '\r' → c ≠ '\n' → motive rest → motive (c :: rest)) (t : Text) :
    motive t := by
  induction t using terminators.induct with
  | case1 => exact nil
  | case2 rest ih => exact terminator crlf rest nofun ih
  | case3 rest hcrlf ih =>
    refine terminator cr rest (fun _ hhead => ?_) ih
    obtain ⟨after, hafter⟩ := List.head?_eq_some_iff.1 hhead
    exact hcrlf after hafter
  | case4 rest ih => exact terminator lf rest nofun ih
  | case5 c rest _ hcr hlf ih => exact keep c rest hcr hlf ih

section

variable (h : Ends ending rest)

include h

theorem terminators_chars_append :
    terminators (ending.chars ++ rest) = ending :: terminators rest := by
  cases ending with
  | lf => rfl
  | crlf => rfl
  | cr =>
    rw [chars, List.singleton_append, terminators]
    exact h.ne_cons

theorem pieces_chars_append : pieces (ending.chars ++ rest) = [] :: pieces rest := by
  cases ending with
  | lf => rfl
  | crlf => rfl
  | cr =>
    rw [chars, List.singleton_append, pieces]
    exact h.ne_cons

theorem guess_chars_append : guess (ending.chars ++ rest) = ending := by
  cases ending with
  | lf => rfl
  | crlf => rfl
  | cr =>
    rw [chars, List.singleton_append, guess]
    exact h.ne_cons

theorem spellOut_chars_append :
    spellOut (ending.chars ++ rest) = spellOut ending.chars ++ spellOut rest := by
  cases ending with
  | lf => rfl
  | crlf => rfl
  | cr =>
    rw [chars, List.singleton_append, spellOut]
    · rfl
    · exact h.ne_cons

theorem setAll_chars_append (new : Text) :
    setAll new (ending.chars ++ rest) = new ++ setAll new rest := by
  cases ending with
  | lf => rfl
  | crlf => rfl
  | cr =>
    rw [chars, List.singleton_append, setAll]
    exact h.ne_cons

end

section

variable (hcr : c ≠ '\r') (hlf : c ≠ '\n')

include hcr hlf

theorem terminators_cons (rest : Text) : terminators (c :: rest) = terminators rest := by
  rw [terminators]
  · exact fun _ h => absurd h hcr
  · exact hcr
  · exact hlf

theorem pieces_cons (rest : Text) : pieces (c :: rest) = (pieces rest).modifyHead (c :: ·) := by
  rw [pieces]
  · exact fun _ h => absurd h hcr
  · exact hcr
  · exact hlf

theorem guess_cons (rest : Text) : guess (c :: rest) = guess rest := by
  rw [guess]
  · exact fun _ h => absurd h hcr
  · exact hcr
  · exact hlf

theorem setAll_cons (new rest : Text) : setAll new (c :: rest) = c :: setAll new rest := by
  rw [setAll]
  · exact fun _ h => absurd h hcr
  · exact hcr
  · exact hlf

end

theorem terminators_append (h : s.getLast? = some '\r' → t.head? ≠ some '\n') :
    terminators (s ++ t) = terminators s ++ terminators t := by
  induction s using terminator_induction with
  | nil => rfl
  | terminator ending rest hends ih =>
    -- What follows the terminator is `t` itself if `s` ends with it, else begins as before.
    have hends' : Ends ending (rest ++ t) := by
      rintro rfl
      cases rest with
      | nil => exact h rfl
      | cons c rest => exact hends rfl
    have hrest := ih fun hlast => h (by rw [List.getLast?_append, hlast]; rfl)
    rw [List.append_assoc, terminators_chars_append hends', hrest, terminators_chars_append hends,
      List.cons_append]
  | keep c rest hcr hlf ih =>
    have hrest := ih fun hlast => h (by rw [List.getLast?_cons, hlast]; rfl)
    rw [List.cons_append, terminators_cons hcr hlf, hrest, terminators_cons hcr hlf]

theorem cr_mem_terminators (h : t.getLast? = some '\r') : cr ∈ terminators t := by
  obtain ⟨before, rfl⟩ := List.getLast?_eq_some_iff.1 h
  rw [terminators_append fun _ => by decide]
  exact List.mem_append_right _ List.mem_cons_self

theorem lf_mem_terminators (h : t.head? = some '\n') : lf ∈ terminators t := by
  obtain ⟨after, rfl⟩ := List.head?_eq_some_iff.1 h
  exact List.mem_cons_self

def joined (parts : List Text) (endings : List LineEnding) : Text :=
  (List.zipWith (· ++ ·) parts (endings.map chars ++ [[]])).flatten

theorem joined_modifyHead {parts : List Text} (h : parts ≠ []) (endings : List LineEnding) :
    joined (parts.modifyHead (c :: ·)) endings = c :: joined parts endings := by
  obtain ⟨part, others, rfl⟩ := List.exists_cons_of_ne_nil h
  cases endings <;> simp [joined]

theorem pieces_ne_nil (t : Text) : pieces t ≠ [] := by
  induction t using terminator_induction with
  | nil => exact List.cons_ne_nil _ _
  | terminator ending rest hends ih =>
    rw [pieces_chars_append hends]
    exact List.cons_ne_nil _ _
  | keep c rest hcr hlf ih =>
    rw [pieces_cons hcr hlf]
    simpa using ih

theorem joined_pieces (t : Text) : joined (pieces t) (terminators t) = t := by
  induction t using terminator_induction with
  | nil => rfl
  | terminator ending rest hends ih =>
    rw [pieces_chars_append hends, terminators_chars_append hends]
    exact congrArg (ending.chars ++ ·) ih
  | keep c rest hcr hlf ih =>
    rw [pieces_cons hcr hlf, terminators_cons hcr hlf, joined_modifyHead (pieces_ne_nil rest), ih]

theorem eq_of_pieces (hpieces : pieces s = pieces t)
    (hterminators : terminators s = terminators t) : s = t := by
  rw [← joined_pieces s, ← joined_pieces t, hpieces, hterminators]

theorem guess_eq_headD (t : Text) : guess t = (terminators t).headD lf := by
  induction t using terminator_induction with
  | nil => rfl
  | terminator ending rest hends ih =>
    rw [guess_chars_append hends, terminators_chars_append hends]
    rfl
  | keep c rest hcr hlf ih => rw [guess_cons hcr hlf, terminators_cons hcr hlf, ih]

theorem ends_setAll (ending : LineEnding) (t : Text) : Ends ending (setAll ending.chars t) := by
  rintro rfl
  cases t using terminator_induction with
  | nil => exact nofun
  | terminator ending rest hends =>
    rw [setAll_chars_append hends]
    exact nofun
  | keep c rest hcr hlf =>
    rw [setAll_cons hcr hlf]
    simpa using hlf

theorem terminators_setAll (ending : LineEnding) (t : Text) :
    terminators (setAll ending.chars t) = (terminators t).map fun _ => ending := by
  induction t using terminator_induction with
  | nil => rfl
  | terminator old rest hends ih =>
    rw [setAll_chars_append hends, terminators_chars_append (ends_setAll ending rest), ih,
      terminators_chars_append hends, List.map_cons]
  | keep c rest hcr hlf ih =>
    rw [setAll_cons hcr hlf, terminators_cons hcr hlf, ih, terminators_cons hcr hlf]

theorem pieces_setAll (ending : LineEnding) (t : Text) :
    pieces (setAll ending.chars t) = pieces t := by
  induction t using terminator_induction with
  | nil => rfl
  | terminator old rest hends ih =>
    rw [setAll_chars_append hends, pieces_chars_append (ends_setAll ending rest), ih,
      pieces_chars_append hends]
  | keep c rest hcr hlf ih =>
    rw [setAll_cons hcr hlf, pieces_cons hcr hlf, ih, pieces_cons hcr hlf]

/-- All terminators of the text are the same. -/
def Uniform (t : Text) : Prop := ∀ ending ∈ terminators t, ∀ other ∈ terminators t, ending = other

instance (t : Text) : Decidable (Uniform t) :=
  inferInstanceAs (Decidable (∀ ending ∈ terminators t, ∀ other ∈ terminators t, ending = other))

theorem eq_lf_of_mem_terminators (h : '\r' ∉ t) : ∀ ending ∈ terminators t, ending = lf := by
  induction t using terminator_induction with
  | nil => exact nofun
  | terminator ending rest hends ih =>
    rw [terminators_chars_append hends, List.forall_mem_cons]
    refine ⟨?_, ih fun hmem => h (List.mem_append_right _ hmem)⟩
    cases ending with
    | lf => rfl
    | crlf => exact absurd List.mem_cons_self h
    | cr => exact absurd List.mem_cons_self h
  | keep c rest hcr hlf ih =>
    rw [terminators_cons hcr hlf]
    exact ih fun hmem => h (List.mem_cons_of_mem c hmem)

theorem uniform_of_no_return (h : '\r' ∉ t) : Uniform t := fun ending hending other hother =>
  (eq_lf_of_mem_terminators h ending hending).trans (eq_lf_of_mem_terminators h other hother).symm

theorem uniform_iff_guess : Uniform t ↔ ∀ ending ∈ terminators t, ending = guess t := by
  rw [guess_eq_headD]
  unfold Uniform
  cases terminators t with
  | nil => simp
  | cons first others =>
    constructor
    · exact fun h ending hending => h ending hending first List.mem_cons_self
    · exact fun h ending hending other hother => (h ending hending).trans (h other hother).symm

theorem guess_unify (t : Text) : guess (unify t) = guess t := by
  rw [guess_eq_headD, unify, terminators_setAll, guess_eq_headD]
  cases terminators t <;> rfl

theorem unify_unify (t : Text) : unify (unify t) = unify t := by
  apply eq_of_pieces
  · exact pieces_setAll _ _
  · rw [unify, guess_unify, unify, terminators_setAll, terminators_setAll, List.map_map]
    rfl

theorem unify_eq_self_iff : unify t = t ↔ Uniform t := by
  rw [uniform_iff_guess]
  constructor
  · intro h ending hending
    rw [← h, unify, terminators_setAll] at hending
    obtain ⟨_, -, heq⟩ := List.mem_map.1 hending
    exact heq.symm
  · intro h
    apply eq_of_pieces
    · exact pieces_setAll _ _
    · have hsame : (terminators t).map (fun _ => guess t) = (terminators t).map id :=
        List.map_congr_left fun ending hending => (h ending hending).symm
      rw [unify, terminators_setAll, hsame, List.map_id]

end LineEnding

end FormatConformance
