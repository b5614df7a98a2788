import FormatConformance.Proofs.Path.Spelling

/-!
The end of a path. A single name behind a path is one more part of it, whatever the path is. The
extension of a file is what follows the last dot of its name, where something stands before it.
-/

namespace FormatConformance.Path

variable {path base : String}

theorem exists_pieces (path : String) : ∃ first rest, pieces path = first :: rest := by
  apply List.exists_cons_of_ne_nil
  simp [pieces, List.splitOn_ne_nil]

theorem pieces_slash (base : String) : pieces (base ++ "/") = pieces base ++ [""] := by
  have happend := pieces_append_slash base ""
  rwa [String.append_empty] at happend

theorem pieces_injective (h : pieces path = pieces base) : path = base := by
  have hpieces : path.toList.splitOn '/' = base.toList.splitOn '/' :=
    (List.map_inj_right fun _ _ => String.ofList_injective).1 h
  exact String.toList_inj.1 (Text.splitOn_injective '/' hpieces)

theorem part?_empty : part? "" = none := by decide

theorem parts_of_pieces {first : String} {rest : List String} (h : pieces path = first :: rest) :
    parts path = (front? first rest.isEmpty).toList ++ rest.filterMap part? := by
  unfold parts
  rw [h]

theorem parts_append_slash (base path : String) :
    parts (base ++ "/" ++ path) = parts (base ++ "/") ++ steps path := by
  obtain ⟨first, rest, hbase⟩ := exists_pieces base
  obtain ⟨next, others, hpath⟩ := exists_pieces path
  have hopen : pieces (base ++ "/" ++ path) = first :: (rest ++ next :: others) := by
    rw [pieces_append_slash, hbase, hpath, List.cons_append]
  have hclosed : pieces (base ++ "/") = first :: (rest ++ [""]) := by
    rw [pieces_slash, hbase, List.cons_append]
  have hmany : ∀ (piece : String) (behind : List String),
      (rest ++ piece :: behind).isEmpty = false := by
    intro piece behind
    cases rest <;> rfl
  rw [parts_of_pieces hopen, parts_of_pieces hclosed, hmany, hmany, steps, hpath,
    List.filterMap_append, List.filterMap_append, List.filterMap_cons_none part?_empty]
  simp

theorem parts_slash (hbase : base ≠ "") : parts (base ++ "/") = parts base := by
  obtain ⟨first, rest, hpieces⟩ := exists_pieces base
  have hclosed : pieces (base ++ "/") = first :: (rest ++ [""]) := by
    rw [pieces_slash, hpieces, List.cons_append]
  rw [parts_of_pieces hclosed, parts_of_pieces hpieces, List.filterMap_append,
    List.filterMap_cons_none part?_empty, List.filterMap_nil, List.append_nil]
  -- the front of a path of one piece is read in another way only where that piece is empty
  cases rest with
  | nil =>
    have hfirst : first ≠ "" := by
      rintro rfl
      exact hbase (pieces_injective (hpieces.trans (by decide)))
    simp [front?, hfirst]
  | cons second others => rfl

theorem parts_join (hbase : base ≠ "") (h : isAbsolute path = false) :
    parts (join base path) = parts base ++ steps path := by
  obtain ⟨hempty, -⟩ | ⟨front, rfl, hjoin⟩ | ⟨-, hjoin⟩ := join_cases base h
  · exact absurd hempty hbase
  · rw [hjoin, parts_append_slash]
  · rw [hjoin, parts_append_slash, parts_slash hbase]

section Names

variable {name : String}

theorem isAbsolute_of_slash_notMem (h : '/' ∉ path.toList) : isAbsolute path = false := by
  apply Bool.eq_false_iff.2
  intro habsolute
  rw [isAbsolute, String.startsWith_string_iff] at habsolute
  exact h (habsolute.subset (by decide))

theorem part?_of_isName (h : isName name = true) : part? name = some (.name name) := by
  simp_all [isName, part?]

theorem front?_of_isName (h : isName name = true) (alone : Bool) :
    front? name alone = some (.name name) := by
  simp_all [isName, front?, part?]

/-- A name behind a path is the last part, and the parts before it are those of the path: what has
the name lies directly inside of what the path leads to. -/
theorem parts_join_name (hname : isName name = true) (hslash : '/' ∉ name.toList)
    (base : String) : parts (join base name) = parts base ++ [.name name] := by
  have hrelative : isAbsolute name = false := isAbsolute_of_slash_notMem hslash
  have hpieces : pieces name = [name] := pieces_of_slash_notMem hslash
  by_cases hbase : base = ""
  · have hjoin : join base name = name := by simp [join, hrelative, hbase]
    rw [hjoin, parts_of_pieces hpieces, front?_of_isName hname, hbase]
    rfl
  · have hsteps : steps name = [.name name] := by
      rw [steps, hpieces, List.filterMap_cons_some (part?_of_isName hname), List.filterMap_nil]
    rw [parts_join hbase hrelative, hsteps]

end Names

section Extensions

variable {name extension : String}

theorem takeWhile_append_of_dot_notMem {back : Text} (h : '.' ∉ back) (rest : Text) :
    (back.reverse ++ rest).takeWhile (· ≠ '.') = back.reverse ++ rest.takeWhile (· ≠ '.') := by
  apply List.takeWhile_append_of_pos
  intro c hc
  apply decide_eq_true
  rintro rfl
  exact h (List.mem_reverse.1 hc)

theorem extension?_of_dot_notMem (hname : fileName? path = some name) (h : '.' ∉ name.toList) :
    extension? path = none := by
  have hall : name.toList.reverse.takeWhile (· ≠ '.') = name.toList.reverse := by
    simpa using takeWhile_append_of_dot_notMem h []
  unfold extension?
  rw [hname, Option.bind_eq_bind, Option.bind_some]
  dsimp only
  rw [hall, List.drop_length]

theorem extension?_of_last_dot {front back : Text} (hname : fileName? path = some name)
    (hlist : name.toList = front ++ '.' :: back) (hback : '.' ∉ back) :
    extension? path = if front = [] then none else some (String.ofList back) := by
  have hreverse : name.toList.reverse = back.reverse ++ '.' :: front.reverse := by simp [hlist]
  have hafter : (back.reverse ++ '.' :: front.reverse).takeWhile (· ≠ '.') = back.reverse := by
    rw [takeWhile_append_of_dot_notMem hback, List.takeWhile_cons_of_neg (by simp), List.append_nil]
  unfold extension?
  rw [hname, Option.bind_eq_bind, Option.bind_some]
  dsimp only
  rw [hreverse, hafter, List.drop_left, List.reverse_reverse]
  rcases List.eq_nil_or_concat front with rfl | ⟨others, c, rfl⟩
  · rfl
  · simp

theorem extension?_eq_some_iff :
    extension? path = some extension ↔ '.' ∉ extension.toList ∧
      ∃ stem, stem ≠ "" ∧ fileName? path = some (stem ++ "." ++ extension) := by
  constructor
  · intro h
    cases hname : fileName? path with
    | none => simp [extension?, hname] at h
    | some name =>
      by_cases hdot : '.' ∈ name.toList.reverse
      · -- read backwards, the name has its last dot first
        obtain ⟨back, front, hsplit, hback⟩ := List.eq_append_cons_of_mem hdot
        have hlist : name.toList = front.reverse ++ '.' :: back.reverse := by
          rw [← List.reverse_reverse name.toList, hsplit]
          simp
        rw [extension?_of_last_dot hname hlist (by simpa using hback)] at h
        split at h
        · cases h
        · rename_i hfront
          obtain rfl := Option.some.inj h
          exact ⟨by simpa using hback, String.ofList front.reverse, by simpa using hfront,
            congrArg some (String.toList_inj.1 (by simpa using hlist))⟩
      · rw [extension?_of_dot_notMem hname (by simpa using hdot)] at h
        cases h
  · rintro ⟨hdot, stem, hstem, hname⟩
    have hlist : (stem ++ "." ++ extension).toList = stem.toList ++ '.' :: extension.toList := by
      simp
    rw [extension?_of_last_dot hname hlist hdot, if_neg (by simpa using hstem),
      String.ofList_toList]

end Extensions

end FormatConformance.Path
