import FormatConformance.Marker

/-!
Writing tokens into a text one after the other. The bytes at which they are to be written are found
in the text as it is, and each token is written behind the part of the text that is still missing in
front of it. A part that ends before it starts, one that the text does not reach and one that
divides a character have no result.
-/

namespace FormatConformance

structure Insertion where
  written : Text := []
  reached : Nat := 0
  deriving DecidableEq, Repr

namespace Insertion

def write? (t : Text) (i : Insertion) : Nat × Marker → Option Insertion
  | (place, m) =>
    (Text.slice? i.reached place t).map fun part => ⟨i.written ++ part ++ m.token, place⟩

def finish? (t : Text) (i : Insertion) : Option Text :=
  (Text.slice? i.reached (Text.byteLength t) t).map (i.written ++ ·)

def wanted (o : Offsets) (t : Text) : List (Nat × Marker) :=
  Marker.all.filterMap fun m => (o.get m).map fun n => (Text.byteOffset t n, m)

/-- All that is to be written, from left to right and in the order of the markers at one byte. -/
def places (o : Offsets) (t : Text) : List (Nat × Marker) :=
  (wanted o t).mergeSort fun first second => first.1 ≤ second.1

def run? (o : Offsets) (t : Text) : Option Text := do
  let insertion ← (places o t).foldlM (write? t) {}
  finish? t insertion

def showCursor? (t : Text) : Option Nat → Option Text
  | none => some t
  | some offset => do
    let place := Text.byteOffset t offset
    let front ← Text.slice? 0 place t
    let back ← Text.slice? place (Text.byteLength t) t
    return front ++ Marker.cursor.token ++ back

end Insertion

end FormatConformance
