import FormatConformance.Proofs.Path.LastParts
import FormatConformance.Proofs.Snapshot.FileNames

/-!
Canonical names of files. What `reduce` has written never ends in two underscores, since it starts
again with `reduce true` behind the first; trimming only takes away at the ends. The names that come
out are those that stand for themselves. None of them holds a slash, so the file of a key lies
directly inside of the directory of the snapshots.
-/

namespace FormatConformance

namespace FileName

/-- Safe characters with single underscores between them. -/
structure IsCanonical (t : Text) : Prop where
  chars : ∀ c ∈ t, c.isAlphanum = true ∨ c = '-' ∨ c = '.' ∨ c = '_'
  single : ¬ ['_', '_'] <:+: t
  front : t.head? ≠ some '_'
  back : t.getLast? ≠ some '_'

theorem isSafe_or_underscore_iff {c : Char} :
    isSafe c = true ∨ c = '_' ↔ c.isAlphanum = true ∨ c = '-' ∨ c = '.' ∨ c = '_' := by
  simp [isSafe, or_assoc]

theorem double_prefix_cons_iff {t : Text} : ['_', '_'] <+: '_' :: t ↔ t.head? = some '_' := by
  cases t <;> simp [eq_comm]

variable {t : Text}

section Reducing

theorem isSafe_or_underscore_of_mem_reduce {after : Bool} {c : Char} (h : c ∈ reduce after t) :
    isSafe c = true ∨ c = '_' := by
  fun_induction reduce after t with
  | case1 => cases h
  | case2 after a rest hsafe ih =>
    rcases List.mem_cons.1 h with rfl | h
    · exact .inl hsafe
    · exact ih h
  | case3 a rest hsafe ih => exact ih h
  | case4 after a rest hsafe hafter ih =>
    rcases List.mem_cons.1 h with rfl | h
    · exact .inr rfl
    · exact ih h

theorem head?_reduce_true (t : Text) : (reduce true t).head? ≠ some '_' := by
  induction t with
  | nil => nofun
  | cons a rest ih =>
    unfold reduce
    split
    · rename_i hsafe
      rintro h
      obtain rfl : a = '_' := by simpa using h
      cases hsafe
    · exact ih

theorem single_reduce (after : Bool) (t : Text) : ¬ ['_', '_'] <:+: reduce after t := by
  fun_induction reduce after t with
  | case1 => simp
  | case2 after a rest hsafe ih =>
    rw [List.infix_cons_iff]
    rintro (hstart | hrest)
    · obtain rfl : '_' = a := (List.cons_prefix_cons.1 hstart).1
      cases hsafe
    · exact ih hrest
  | case3 a rest hsafe ih => exact ih
  | case4 after a rest hsafe hafter ih =>
    -- what follows is written with an underscore in front of it
    rw [List.infix_cons_iff, double_prefix_cons_iff]
    rintro (hhead | hrest)
    · exact head?_reduce_true rest hhead
    · exact ih hrest

theorem filter_reduce (after : Bool) (t : Text) :
    (reduce after t).filter isSafe = t.filter isSafe := by
  fun_induction reduce after t with
  | case1 => rfl
  | case2 after a rest hsafe ih =>
    rw [List.filter_cons_of_pos hsafe, List.filter_cons_of_pos hsafe, ih]
  | case3 a rest hsafe ih => rw [ih, List.filter_cons_of_neg hsafe]
  | case4 after a rest hsafe hafter ih =>
    rw [List.filter_cons_of_neg hsafe, List.filter_cons_of_neg (by decide), ih]

theorem reduce_eq_self (hchars : ∀ c ∈ t, isSafe c = true ∨ c = '_')
    (hsingle : ¬ ['_', '_'] <:+: t) :
    reduce false t = t ∧ (t.head? ≠ some '_' → reduce true t = t) := by
  induction t with
  | nil => exact ⟨rfl, fun _ => rfl⟩
  | cons a rest ih =>
    obtain ⟨ha, hrest⟩ := List.forall_mem_cons.1 hchars
    rw [List.infix_cons_iff, not_or] at hsingle
    obtain ⟨hwithin, hbehind⟩ := ih hrest hsingle.2
    -- an underscore has no underscore behind it, so the rest is left alone as well
    rcases ha with hsafe | rfl
    · simp [reduce, hsafe, hwithin]
    · rw [double_prefix_cons_iff] at hsingle
      simp [reduce, isSafe_underscore, hbehind hsingle.1]

end Reducing

section Trimming

theorem dropUnderscores_of_head? (h : t.head? ≠ some '_') : dropUnderscores t = t := by
  cases t with
  | nil => rfl
  | cons a rest => exact List.dropWhile_cons_of_neg (by simpa using h)

theorem head?_dropUnderscores (t : Text) : (dropUnderscores t).head? ≠ some '_' := by
  intro h
  have hkept := List.head?_dropWhile_not (· == '_') t
  unfold dropUnderscores at h
  rw [h] at hkept
  cases hkept

theorem filter_dropUnderscores (t : Text) :
    (dropUnderscores t).filter isSafe = t.filter isSafe := by
  induction t with
  | nil => rfl
  | cons a rest ih =>
    by_cases ha : a = '_'
    · subst ha
      simpa [dropUnderscores, isSafe_underscore] using ih
    · simp [dropUnderscores, ha]

theorem toList_ofKey (key : String) :
    (ofKey key).toList = (dropUnderscores (reduce true key.toList).reverse).reverse := by
  rw [ofKey, trimUnderscores, dropUnderscores_reduce, Text.asString, String.toList_ofList]

theorem toList_ofKey_prefix (key : String) : (ofKey key).toList <+: reduce true key.toList := by
  rw [toList_ofKey, ← List.reverse_suffix, List.reverse_reverse]
  exact List.dropWhile_suffix _

end Trimming

theorem isCanonical_ofKey (key : String) : IsCanonical (ofKey key).toList := by
  have hstart := toList_ofKey_prefix key
  constructor
  · intro c hc
    exact isSafe_or_underscore_iff.1 (isSafe_or_underscore_of_mem_reduce (hstart.subset hc))
  · exact fun h => single_reduce true key.toList (h.trans hstart.isInfix)
  · intro h
    obtain ⟨tail, htail⟩ := hstart
    apply head?_reduce_true key.toList
    rw [← htail, List.head?_append, h]
    rfl
  · rw [toList_ofKey, List.getLast?_reverse]
    exact head?_dropUnderscores _

theorem ofKey_eq_self_iff {name : String} : ofKey name = name ↔ IsCanonical name.toList := by
  constructor
  · intro h
    rw [← h]
    exact isCanonical_ofKey name
  · rintro ⟨hchars, hsingle, hfront, hback⟩
    have hwritten : ∀ c ∈ name.toList, isSafe c = true ∨ c = '_' :=
      fun c hc => isSafe_or_underscore_iff.2 (hchars c hc)
    have hreduce := (reduce_eq_self hwritten hsingle).2 hfront
    apply String.toList_inj.1
    rw [toList_ofKey, hreduce, dropUnderscores_of_head?, List.reverse_reverse]
    rwa [List.head?_reverse]

theorem filter_ofKey (key : String) :
    (ofKey key).toList.filter isSafe = key.toList.filter isSafe := by
  rw [toList_ofKey, List.filter_reverse, filter_dropUnderscores, List.filter_reverse,
    List.reverse_reverse, filter_reduce]

theorem IsCanonical.slash_notMem (h : IsCanonical t) : '/' ∉ t := by
  intro hslash
  rcases h.chars _ hslash with h | h | h | h <;> cases h

end FileName

namespace SnapshotDirectory

open FileName

theorem fileName_eq (key : String) : fileName key = ofKey key ++ ".snap" := by
  rw [fileName, ending, String.append_assoc]
  rfl

theorem slash_notMem_fileName (key : String) : '/' ∉ (fileName key).toList := by
  rw [fileName_eq, String.toList_append, List.mem_append]
  rintro (hslash | hslash)
  · exact (isCanonical_ofKey key).slash_notMem hslash
  · revert hslash
    decide

theorem isName_fileName (key : String) : Path.isName (fileName key) = true := by
  have hlong : ∀ name : String, name.length < 5 → fileName key ≠ name := by
    rintro name hshort rfl
    have hlength : (fileName key).length = (ofKey key).length + 5 := by
      rw [fileName_eq, String.length_append]
      rfl
    omega
  simp [Path.isName, hlong "" (by decide), hlong "." (by decide), hlong ".." (by decide)]

/-- The file of a key is named for the key's letters, digits, hyphens and dots, all of them in their
order, and for single underscores between the words that they make. The name is the name of itself,
as all such names are, and its file lies directly inside of any directory that it is put into. -/
theorem fileName_is_canonical (key : String) :
    let name := ofKey key
    let kept := fun c : Char => c.isAlphanum || c == '-' || c == '.'
    IsCanonical name.toList ∧
      (fileName key = name ++ ".snap" ∧
        ∀ directory, Path.parts (Path.join directory (fileName key)) =
          Path.parts directory ++ [.name (fileName key)]) ∧
      ofKey name = name ∧
      name.toList.filter kept = key.toList.filter kept ∧
      words name.toList = words key.toList := by
  intro name kept
  have hcanonical : IsCanonical name.toList := isCanonical_ofKey key
  have hself : ofKey name = name := ofKey_eq_self_iff.2 hcanonical
  have hinside : ∀ directory, Path.parts (Path.join directory (fileName key)) =
      Path.parts directory ++ [.name (fileName key)] :=
    Path.parts_join_name (isName_fileName key) (slash_notMem_fileName key)
  exact ⟨hcanonical, ⟨fileName_eq key, hinside⟩, hself, filter_ofKey key, ofKey_eq_iff.1 hself⟩

example : fileName "../__proto__/é.js › [babel] format #2" =
    ".._proto_.js_babel_format_2.snap" := by
  decide +kernel

end SnapshotDirectory

end FormatConformance
