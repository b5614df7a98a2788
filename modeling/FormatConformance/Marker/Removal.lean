import FormatConformance.Marker
import FormatConformance.Text.Search

/-!
Taking tokens out of a text one after the other. The tokens are looked for in the text as it is
written, and each one is taken out of what those before it have left, by its bytes. A difference
below zero, a range that the text does not reach and one that divides a character have no result.
-/

namespace FormatConformance

structure Removal where
  text : Text
  removed : Nat := 0
  offsets : Offsets := {}
  deriving DecidableEq, Repr

namespace Removal

def take? (r : Removal) : Nat × Marker → Option Removal
  | (start, m) =>
    if start < r.removed then none
    else
      let start := start - r.removed
      let bytes := Text.byteLength m.token
      (Text.cutBytes? start bytes r.text).map fun text =>
        ⟨text, r.removed + bytes, r.offsets.set m (Text.charOffset text start)⟩

def starts (markers : List Marker) (t : Text) : List (Nat × Marker) :=
  markers.filterMap fun m => (Text.byteIndex? m.token t).map (·, m)

def found (t : Text) : List (Nat × Marker) :=
  (starts Marker.all t).mergeSort fun first second => first.1 ≤ second.1

def run? (t : Text) : Option Removal := (found t).foldlM take? { text := t }

end Removal

end FormatConformance
