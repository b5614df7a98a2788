import Mathlib.Data.List.Basic
import FormatConformance.Path

/-!
Spellings of a path. `telling` are the pieces that say something; single dots and empty pieces do
not. The names of a path depend on these pieces only, its parts also on a dot at the front of a
relative path. Names that are put together with slashes are read back, so that they may stand for
all paths with these names.
-/

namespace FormatConformance

namespace Path

variable {path base : String}

def Part.name? : Part → Option String
  | .name text => some text
  | _ => none

def telling (path : String) : List String :=
  (pieces path).filter fun piece => piece ≠ "" && piece ≠ "."

def steps (path : String) : List Part := (pieces path).filterMap part?

def startsHere (path : String) : Bool := (pieces path).head? == some "."

theorem steps_eq_telling (path : String) : steps path = (telling path).filterMap part? := by
  unfold steps telling
  rw [List.filterMap_filter]
  congr 1
  funext piece
  by_cases h : piece = "" ∨ piece = "."
  · rcases h with rfl | rfl <;> rfl
  · rw [not_or] at h
    simp [h]

theorem name?_front (piece : String) (alone : Bool) :
    (front? piece alone).bind Part.name? = (part? piece).bind Part.name? := by
  by_cases hempty : piece = ""
  · subst hempty
    cases alone <;> rfl
  · by_cases hdot : piece = "."
    · subst hdot
      rfl
    · rw [front?, if_neg hempty, if_neg hdot]

theorem names_eq_steps (path : String) : names path = (steps path).filterMap Part.name? := by
  have hnames : names path = (parts path).filterMap Part.name? := by
    unfold names
    congr 1
  rw [hnames]
  unfold parts steps
  cases pieces path with
  | nil => rfl
  | cons first rest =>
    have hfront := congrArg Option.toList (name?_front first rest.isEmpty)
    rw [Option.toList_bind, Option.toList_bind] at hfront
    simp only [List.filterMap_eq_flatMap_toList, List.flatMap_cons, List.flatMap_append]
    exact congrArg (· ++ _) hfront

theorem pieces_append_slash (front back : String) :
    pieces (front ++ "/" ++ back) = pieces front ++ pieces back := by
  have hlist : (front ++ "/" ++ back).toList = front.toList ++ '/' :: back.toList := by simp
  unfold pieces
  rw [hlist, List.splitOn_append_cons_self, List.map_append]

theorem steps_append_slash (front back : String) :
    steps (front ++ "/" ++ back) = steps front ++ steps back := by
  unfold steps
  rw [pieces_append_slash, List.filterMap_append]

theorem steps_empty : steps "" = [] := by decide

theorem exists_of_endsWith_slash (h : base.endsWith "/" = true) : ∃ front, base = front ++ "/" := by
  rw [String.endsWith_eq_endsWith_toSlice, String.Slice.endsWith_string_iff] at h
  obtain ⟨front, hfront⟩ := h
  refine ⟨String.ofList front, String.toList_inj.1 ?_⟩
  simpa using hfront.symm

theorem join_cases (base : String) (h : isAbsolute path = false) :
    (base = "" ∧ join base path = path) ∨
      (∃ front, base = front ++ "/" ∧ join base path = front ++ "/" ++ path) ∨
      (base ≠ "" ∧ join base path = base ++ "/" ++ path) := by
  unfold join
  rw [h, if_neg Bool.false_ne_true]
  by_cases hempty : base = ""
  · exact .inl ⟨hempty, by simp [hempty]⟩
  · by_cases hslash : base.endsWith "/" = true
    · obtain ⟨front, rfl⟩ := exists_of_endsWith_slash hslash
      exact .inr (.inl ⟨front, rfl, by simp [hslash]⟩)
    · exact .inr (.inr ⟨hempty, by simp [hempty, hslash]⟩)

theorem steps_join (h : isAbsolute path = false) :
    steps (join base path) = steps base ++ steps path := by
  obtain ⟨rfl, hjoin⟩ | ⟨front, rfl, hjoin⟩ | ⟨-, hjoin⟩ := join_cases base h
  · rw [hjoin, steps_empty, List.nil_append]
  · have hfront : steps (front ++ "/") = steps front := by
      have hclosed := steps_append_slash front ""
      rwa [String.append_empty, steps_empty, List.append_nil] at hclosed
    rw [hjoin, steps_append_slash, hfront]
  · rw [hjoin, steps_append_slash]

theorem names_join (h : isAbsolute path = false) :
    names (join base path) = names base ++ names path := by
  simp only [names_eq_steps, steps_join h, List.filterMap_append]

theorem exists_pieces_eq_cons (hne : path ≠ "") (hrelative : isAbsolute path = false) :
    ∃ first rest, pieces path = first :: rest ∧ first ≠ "" := by
  obtain ⟨c, rest, hlist⟩ : ∃ c rest, path.toList = c :: rest := by
    apply List.exists_cons_of_ne_nil
    simpa using hne
  have hc : c ≠ '/' := by
    rintro rfl
    have habsolute : isAbsolute path = true := by
      unfold isAbsolute
      rw [String.startsWith_string_iff, hlist]
      exact ⟨rest, rfl⟩
    rw [hrelative] at habsolute
    cases habsolute
  obtain ⟨piece, others, hsplit⟩ := List.exists_cons_of_ne_nil (List.splitOn_ne_nil '/' rest)
  refine ⟨String.ofList (c :: piece), others.map String.ofList, ?_, by simp⟩
  rw [pieces, hlist, List.splitOn_cons_eq_if_modifyHead, if_neg (by simpa using hc), hsplit,
    List.modifyHead_cons, List.map_cons]

theorem parts_of_relative (hne : path ≠ "") (hrelative : isAbsolute path = false) :
    parts path = (if startsHere path then [.here] else []) ++ steps path := by
  obtain ⟨first, rest, hpieces, hfirst⟩ := exists_pieces_eq_cons hne hrelative
  unfold parts steps startsHere
  rw [hpieces]
  by_cases hdot : first = "."
  · subst hdot
    rfl
  · simp [front?, hfirst, hdot, List.filterMap_eq_flatMap_toList]

/-- Spellings of one relative path: they differ in nothing but single dots, repeated slashes and
slashes at the end. -/
structure Respelled (path path' : String) : Prop where
  ne_empty : path ≠ ""
  ne_empty' : path' ≠ ""
  relative : isAbsolute path = false
  relative' : isAbsolute path' = false
  same : telling path = telling path'

variable {path' : String}

theorem Respelled.steps_eq (h : Respelled path path') : steps path = steps path' := by
  rw [steps_eq_telling, steps_eq_telling, h.same]

theorem Respelled.names_eq (h : Respelled path path') : names path = names path' := by
  rw [names_eq_steps, names_eq_steps, h.steps_eq]

theorem Respelled.parts_eq (h : Respelled path path') (hhere : startsHere path = startsHere path') :
    parts path = parts path' := by
  rw [parts_of_relative h.ne_empty h.relative, parts_of_relative h.ne_empty' h.relative', hhere,
    h.steps_eq]

theorem Respelled.names_join_eq (h : Respelled path path') (name : String) :
    names (join path name) = names (join path' name) := by
  by_cases habsolute : isAbsolute name = true
  · simp [join, habsolute]
  · have hrelative : isAbsolute name = false := Bool.eq_false_iff.2 habsolute
    rw [names_join hrelative, names_join hrelative, h.names_eq]

def isName (piece : String) : Bool := piece ≠ "" && piece ≠ "." && piece ≠ ".."

theorem pieces_of_slash_notMem {piece : String} (h : '/' ∉ piece.toList) :
    pieces piece = [piece] := by
  rw [pieces, List.splitOn_eq_singleton h, List.map_singleton, String.ofList_toList]

end Path

end FormatConformance
