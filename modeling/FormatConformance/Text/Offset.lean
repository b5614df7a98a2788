import FormatConformance.Text.Basic

/-! Offsets into a text, counted in characters or in bytes of its UTF-8 form. -/

namespace FormatConformance.Text

def byteLength (t : Text) : Nat := (asString t).utf8ByteSize

def charOffset : Text → Nat → Nat
  | [], _ => 0
  | c :: rest, bytes => if bytes = 0 then 0 else 1 + charOffset rest (bytes - c.utf8Size)

/-- The byte at which the character with this offset starts, the end of the text being the answer
for all offsets past the last character. -/
def byteOffset : Text → Nat → Nat
  | [], _ => 0
  | _ :: _, 0 => 0
  | c :: rest, n + 1 => c.utf8Size + byteOffset rest n

def insertAt (offset : Nat) (inserted t : Text) : Text :=
  t.take offset ++ inserted ++ t.drop offset

/-- The text in front of a byte offset and the text behind it, if a character starts or the text
ends there. -/
def splitAtByte? : Nat → Text → Option (Text × Text)
  | 0, t => some ([], t)
  | _ + 1, [] => none
  | n + 1, c :: rest =>
    if n + 1 < c.utf8Size then none
    else (splitAtByte? (n + 1 - c.utf8Size) rest).map fun (front, back) => (c :: front, back)

def cutBytes? (start count : Nat) (t : Text) : Option Text := do
  let (front, rest) ← splitAtByte? start t
  let (_, back) ← splitAtByte? count rest
  return front ++ back

/-- The text between two byte offsets, if characters start or the text ends there and they are not
the other way round. -/
def slice? (start stop : Nat) (t : Text) : Option Text :=
  if stop < start then none
  else do
    let (_, rest) ← splitAtByte? start t
    let (middle, _) ← splitAtByte? (stop - start) rest
    return middle

@[simp] theorem byteLength_nil : byteLength [] = 0 := rfl

@[simp] theorem byteLength_cons (c : Char) (t : Text) :
    byteLength (c :: t) = c.utf8Size + byteLength t := by
  rw [byteLength, asString, String.ofList_cons, String.utf8ByteSize_append,
    String.utf8ByteSize_singleton, byteLength, asString]

@[simp] theorem byteLength_append (front back : Text) :
    byteLength (front ++ back) = byteLength front + byteLength back := by
  induction front with
  | nil => simp
  | cons c front ih => simp [ih, Nat.add_assoc]

theorem charOffset_append (front back : Text) :
    charOffset (front ++ back) (byteLength front) = front.length := by
  induction front with
  | nil => cases back <;> rfl
  | cons c front ih =>
    have hpos := c.utf8Size_pos
    have hne : ¬ c.utf8Size + byteLength front = 0 := by omega
    simp only [List.cons_append, charOffset, byteLength_cons, if_neg hne, Nat.add_sub_cancel_left,
      ih, List.length_cons]
    omega

theorem splitAtByte?_append (front back : Text) :
    splitAtByte? (byteLength front) (front ++ back) = some (front, back) := by
  induction front with
  | nil => cases back <;> rfl
  | cons c front ih =>
    obtain ⟨size, hsize⟩ := Nat.exists_eq_succ_of_ne_zero (Nat.ne_of_gt c.utf8Size_pos)
    have hlength : byteLength (c :: front) = size + byteLength front + 1 := by
      rw [byteLength_cons, hsize]
      omega
    have hfits : ¬ size + byteLength front + 1 < c.utf8Size := by omega
    have hleft : size + byteLength front + 1 - c.utf8Size = byteLength front := by omega
    rw [List.cons_append, hlength, splitAtByte?, if_neg hfits, hleft, ih]
    rfl

theorem cutBytes?_append (front middle back : Text) :
    cutBytes? (byteLength front) (byteLength middle) (front ++ (middle ++ back)) =
      some (front ++ back) := by
  simp only [cutBytes?, splitAtByte?_append, Option.bind_eq_bind, Option.bind_some]
  rfl

theorem slice?_append (front middle back : Text) :
    slice? (byteLength front) (byteLength (front ++ middle)) (front ++ (middle ++ back)) =
      some middle := by
  have hle : ¬ byteLength (front ++ middle) < byteLength front := by simp
  have hleft : byteLength (front ++ middle) - byteLength front = byteLength middle := by simp
  rw [slice?, if_neg hle, hleft]
  simp only [splitAtByte?_append, Option.bind_eq_bind, Option.bind_some]
  rfl

end FormatConformance.Text
