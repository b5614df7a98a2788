import FormatConformance.Text.Offset

/-! Looking for a text inside another one. -/

namespace FormatConformance.Text

def occurs (pattern : Text) : Text → Bool
  | [] => pattern.isEmpty
  | c :: rest => pattern.isPrefixOf (c :: rest) || occurs pattern rest

def splitFirst? (pattern : Text) : Text → Option (Text × Text)
  | [] => if pattern.isEmpty then some ([], []) else none
  | c :: rest =>
    match pattern.isPrefixOf? (c :: rest) with
    | some after => some ([], after)
    | none => (splitFirst? pattern rest).map fun (before, after) => (c :: before, after)

def byteIndex? (pattern t : Text) : Option Nat :=
  (splitFirst? pattern t).map fun (before, _) => byteLength before

/-- Replaces the occurrences of a pattern that is not empty, `skip` more characters of the
occurrence in progress being dropped first. -/
def replaceFrom (pattern new : Text) : Nat → Text → Text
  | _, [] => []
  | 0, c :: rest =>
    if pattern.isPrefixOf (c :: rest) then
      new ++ replaceFrom pattern new (pattern.length - 1) rest
    else c :: replaceFrom pattern new 0 rest
  | skip + 1, _ :: rest => replaceFrom pattern new skip rest

/-- Replaces every occurrence, from left to right and without overlaps. The empty pattern occurs
before every character and at the end. -/
def replaceAll (pattern new : Text) (t : Text) : Text :=
  if pattern.isEmpty then t.flatMap (fun c => new ++ [c]) ++ new
  else replaceFrom pattern new 0 t

theorem splitOn_injective (separator : Char) : Function.Injective (List.splitOn separator) :=
  Function.LeftInverse.injective fun _ => List.intercalate_splitOn separator

theorem eq_false_of_mem_splitOnP {p : Char → Bool} {piece t : Text} (h : piece ∈ t.splitOnP p) :
    ∀ c ∈ piece, p c = false := by
  induction t generalizing piece with
  | nil =>
    obtain rfl := List.mem_singleton.1 h
    exact nofun
  | cons a rest ih =>
    obtain ⟨first, others, hsplit⟩ := List.exists_cons_of_ne_nil (List.splitOnP_ne_nil p rest)
    rw [hsplit] at ih
    rw [List.splitOnP_cons_eq_if_modifyHead, hsplit, List.modifyHead_cons] at h
    split at h
    · rcases List.mem_cons.1 h with rfl | h
      · exact nofun
      · exact ih h
    · rename_i ha
      rcases List.mem_cons.1 h with rfl | h
      · exact List.forall_mem_cons.2 ⟨by simpa using ha, ih List.mem_cons_self⟩
      · exact ih (List.mem_cons_of_mem _ h)

end FormatConformance.Text
