import Mathlib.Data.List.Infix
import Mathlib.Data.Set.Function
import FormatConformance.Proofs.Text.Pieces

/-!
Terminators spelled out. No terminator is spelled with the beginning of another one, so two texts of
spelled terminators can be read side by side: changing terminators shows in the spelled text
wherever it changes the text. A text that holds no spelled terminator itself is known by its spelled
form.
-/

namespace FormatConformance

namespace LineEnding

variable {ending other : LineEnding} {c : Char} {front rest s t : Text}

theorem spelled_append_inj :
    spellOut ending.chars ++ s = spellOut other.chars ++ t ↔ ending = other ∧ s = t := by
  cases ending <;> cases other <;> simp [spellOut, chars]

theorem spellOut_setAll_eq_iff :
    spellOut (setAll ending.chars t) = spellOut t ↔ ∀ old ∈ terminators t, old = ending := by
  induction t using terminator_induction with
  | nil => simp [setAll, terminators]
  | terminator old rest hends ih =>
    rw [setAll_chars_append hends, spellOut_chars_append (ends_setAll ending rest),
      spellOut_chars_append hends, spelled_append_inj, ih, terminators_chars_append hends,
      List.forall_mem_cons, eq_comm]
  | keep c rest hcr hlf ih =>
    rw [setAll_cons hcr hlf, spellOut_cons_of_ne hcr, spellOut_cons_of_ne hcr, List.cons_inj_right,
      ih, terminators_cons hcr hlf]

theorem spellOut_unify_eq_iff : spellOut (unify t) = spellOut t ↔ Uniform t := by
  rw [unify, spellOut_setAll_eq_iff, uniform_iff_guess]

theorem head?_substitute_ne (h : ending ≠ lf) (t : Text) :
    (substitute ending t).head? ≠ some '\n' := by
  cases t with
  | nil => exact nofun
  | cons c rest =>
    by_cases hc : c = '\n'
    · subst hc
      rw [substitute_feed]
      cases ending with
      | lf => exact absurd rfl h
      | crlf => exact nofun
      | cr => exact nofun
    · rw [substitute_cons ending hc]
      simpa using hc

theorem spellOut_substitute_eq_iff (h : ending ≠ lf) :
    spellOut (substitute ending t) = spellOut t ↔ '\n' ∉ t := by
  induction t using terminator_induction with
  | nil => simp
  | terminator old rest hends ih =>
    have hrest := head?_substitute_ne h rest
    rw [spellOut_chars_append hends]
    -- What a line feed becomes begins with a carriage return, so the first terminator is a lone one
    -- behind which nothing was changed, or it has changed.
    cases old with
    | lf =>
      have hfirst : substitute ending (lf.chars ++ rest) =
          ending.chars ++ substitute ending rest := rfl
      rw [hfirst, spellOut_chars_append fun _ => hrest, spelled_append_inj]
      simp [h, chars]
    | crlf =>
      have hfirst : substitute ending (crlf.chars ++ rest) =
          cr.chars ++ substitute ending (lf.chars ++ rest) := rfl
      rw [hfirst, spellOut_chars_append fun _ => head?_substitute_ne h _, spelled_append_inj]
      simp [chars]
    | cr =>
      have hfirst : substitute ending (cr.chars ++ rest) =
          cr.chars ++ substitute ending rest := rfl
      rw [hfirst, spellOut_chars_append fun _ => hrest, spelled_append_inj, ih]
      simp [chars]
  | keep c rest hcr hlf ih =>
    rw [substitute_cons ending hlf, spellOut_cons_of_ne hcr, spellOut_cons_of_ne hcr,
      List.cons_inj_right, ih]
    simp [hlf.symm]

/-- The text spells no terminator out itself. -/
def Unspelled (t : Text) : Prop := ¬ "<CR>\n".toList <:+: t ∧ ¬ "<CRLF>\n".toList <:+: t

instance (t : Text) : Decidable (Unspelled t) :=
  inferInstanceAs (Decidable (¬ _ <:+: t ∧ ¬ _ <:+: t))

theorem Unspelled.of_suffix (h : Unspelled t) (hsuffix : s <:+ t) : Unspelled s :=
  ⟨fun hcr => h.1 (hcr.trans hsuffix.isInfix), fun hcrlf => h.2 (hcrlf.trans hsuffix.isInfix)⟩

theorem Unspelled.not_infix (h : Unspelled t) (hending : ending ≠ lf) :
    ¬ spellOut ending.chars <:+: t := by
  cases ending with
  | lf => exact absurd rfl hending
  | crlf => exact h.2
  | cr => exact h.1

theorem spelled_eq_cons (h : ending ≠ lf) :
    ∃ tail, spellOut ending.chars = '<' :: tail ∧ '<' ∉ tail := by
  cases ending with
  | lf => exact absurd rfl h
  | crlf => exact ⟨_, rfl, by decide⟩
  | cr => exact ⟨_, rfl, by decide⟩

theorem spellOut_return (rest : Text) : ∃ tail, spellOut ('\r' :: rest) = '<' :: tail := by
  cases rest with
  | nil => exact ⟨_, rfl⟩
  | cons c rest =>
    by_cases hc : c = '\n'
    · subst hc
      exact ⟨_, rfl⟩
    · have hends : Ends cr (c :: rest) := fun _ => by simpa using hc
      exact ⟨_, spellOut_chars_append hends⟩

theorem prefix_of_prefix_spellOut (hfront : '<' ∉ front) (h : front <+: spellOut t) :
    front <+: t := by
  induction front generalizing t with
  | nil => exact List.nil_prefix
  | cons c front ih =>
    have hc : c ≠ '<' := fun heq => hfront (heq ▸ List.mem_cons_self)
    cases t with
    | nil => exact absurd (List.prefix_nil.1 h) (List.cons_ne_nil c front)
    | cons d rest =>
      by_cases hd : d = '\r'
      · subst hd
        obtain ⟨tail, htail⟩ := spellOut_return rest
        rw [htail, List.cons_prefix_cons] at h
        exact absurd h.1 hc
      · rw [spellOut_cons_of_ne hd, List.cons_prefix_cons] at h
        have hfront : '<' ∉ front := fun hmem => hfront (List.mem_cons_of_mem c hmem)
        exact List.cons_prefix_cons.2 ⟨h.1, ih hfront h.2⟩

theorem Unspelled.spelled_append_ne (h : Unspelled (c :: rest)) (hcr : c ≠ '\r') (hlf : c ≠ '\n') :
    spellOut ending.chars ++ s ≠ spellOut (c :: rest) := by
  rw [spellOut_cons_of_ne hcr]
  intro heq
  by_cases hending : ending = lf
  · subst hending
    exact hlf (List.cons.inj heq).1.symm
  · obtain ⟨tail, htail, hnone⟩ := spelled_eq_cons hending
    rw [htail, List.cons_append] at heq
    obtain ⟨rfl, hrest⟩ := List.cons.inj heq
    have htail' : tail <+: rest :=
      prefix_of_prefix_spellOut hnone (hrest ▸ List.prefix_append tail s)
    refine h.not_infix hending ?_
    rw [htail]
    exact (List.cons_prefix_cons.2 ⟨rfl, htail'⟩).isInfix

theorem spellOut_eq_nil_iff : spellOut t = [] ↔ t = [] := by
  cases t with
  | nil => simp [spellOut]
  | cons c rest =>
    by_cases hc : c = '\r'
    · subst hc
      obtain ⟨tail, htail⟩ := spellOut_return rest
      simp [htail]
    · simp [spellOut_cons_of_ne hc]

theorem eq_of_spellOut (hs : Unspelled s) (ht : Unspelled t) (h : spellOut s = spellOut t) :
    s = t := by
  -- Both texts are read side by side. Where only one of them has a terminator, the other one would
  -- have to spell it out.
  induction s using terminator_induction generalizing t with
  | nil => exact (spellOut_eq_nil_iff.1 h.symm).symm
  | terminator ending rest hends ih =>
    induction t using terminator_induction with
    | nil => exact spellOut_eq_nil_iff.1 h
    | terminator other rest' hends' _ =>
      rw [spellOut_chars_append hends, spellOut_chars_append hends'] at h
      obtain ⟨rfl, hrest⟩ := spelled_append_inj.1 h
      have hsuffix := List.suffix_append ending.chars
      rw [ih (hs.of_suffix (hsuffix rest)) (ht.of_suffix (hsuffix rest')) hrest]
    | keep c rest' hcr hlf _ =>
      rw [spellOut_chars_append hends] at h
      exact absurd h (ht.spelled_append_ne hcr hlf)
  | keep c rest hcr hlf ih =>
    induction t using terminator_induction with
    | nil => exact spellOut_eq_nil_iff.1 h
    | terminator other rest' hends' _ =>
      rw [spellOut_chars_append hends'] at h
      exact absurd h.symm (hs.spelled_append_ne hcr hlf)
    | keep d rest' hcr' hlf' _ =>
      rw [spellOut_cons_of_ne hcr, spellOut_cons_of_ne hcr'] at h
      obtain ⟨rfl, hrest⟩ := List.cons.inj h
      have hsuffix := List.suffix_cons c
      rw [ih (hs.of_suffix (hsuffix rest)) (ht.of_suffix (hsuffix rest')) hrest]

end LineEnding

end FormatConformance
