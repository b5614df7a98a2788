import FormatConformance.Text.Offset

/-!
Markers in fixture text. A fixture asks for a cursor or for a range by writing a marker token into
its text. `Offsets.strip` takes the first token of each marker out of the text and notes where it
stood, `Offsets.restore` writes tokens back, and `withCursor` shows a cursor in a text.
-/

namespace FormatConformance

inductive Marker where
  | rangeStart
  | cursor
  | rangeEnd
  deriving DecidableEq, Repr

namespace Marker

/-- In the order in which markers that share an offset are written. -/
def all : List Marker := [rangeStart, cursor, rangeEnd]

def tokenText : Marker → String
  | rangeStart => "<<<PRETTIER_RANGE_START>>>"
  | cursor => "<|>"
  | rangeEnd => "<<<PRETTIER_RANGE_END>>>"

def token (m : Marker) : Text := m.tokenText.toList

end Marker

structure Offsets where
  cursor : Option Nat := none
  rangeStart : Option Nat := none
  rangeEnd : Option Nat := none
  deriving DecidableEq, Repr

namespace Offsets

def get (o : Offsets) : Marker → Option Nat
  | .cursor => o.cursor
  | .rangeStart => o.rangeStart
  | .rangeEnd => o.rangeEnd

def set (o : Offsets) (m : Marker) (n : Nat) : Offsets :=
  match m with
  | .cursor => { o with cursor := some n }
  | .rangeStart => { o with rangeStart := some n }
  | .rangeEnd => { o with rangeEnd := some n }

def isEmpty (o : Offsets) : Bool := o = {}

/-- Reads a text from left to right with `pending` markers still to be found, `kept` characters
already kept and `skip` more characters of a token to be left out. -/
def stripFrom (pending : List Marker) (kept : Nat) : Nat → Text → Text × Offsets
  | _, [] => ([], {})
  | 0, c :: rest =>
    match pending.find? fun m => m.token.isPrefixOf (c :: rest) with
    | some m =>
      let (text, offsets) := stripFrom (pending.erase m) kept (m.token.length - 1) rest
      (text, offsets.set m kept)
    | none =>
      let (text, offsets) := stripFrom pending (kept + 1) 0 rest
      (c :: text, offsets)
  | skip + 1, _ :: rest => stripFrom pending kept skip rest

def strip (t : Text) : Text × Offsets := stripFrom Marker.all 0 0 t

def tokensWhere (o : Offsets) (here : Nat → Bool) : Text :=
  (Marker.all.filter fun m => (o.get m).any here).flatMap Marker.token

/-- Writes tokens into a text whose first character has the offset `n`; offsets past the end count
as the end. -/
def restoreFrom (o : Offsets) (n : Nat) : Text → Text
  | [] => o.tokensWhere (n ≤ ·)
  | c :: rest => o.tokensWhere (· == n) ++ c :: restoreFrom o (n + 1) rest

def restore (o : Offsets) (t : Text) : Text := restoreFrom o 0 t

@[simp] theorem get_set_self (o : Offsets) (m : Marker) (n : Nat) : (o.set m n).get m = some n := by
  cases m <;> rfl

theorem get_set_of_ne (o : Offsets) {m k : Marker} (n : Nat) (h : k ≠ m) :
    (o.set m n).get k = o.get k := by
  cases m <;> cases k <;> first | rfl | exact absurd rfl h

@[simp] theorem get_empty (m : Marker) : ({} : Offsets).get m = none := by
  cases m <;> rfl

theorem ext_get {o o' : Offsets} (h : ∀ m, o.get m = o'.get m) : o = o' := by
  have hcursor : o.cursor = o'.cursor := h .cursor
  have hstart : o.rangeStart = o'.rangeStart := h .rangeStart
  have hend : o.rangeEnd = o'.rangeEnd := h .rangeEnd
  cases o
  cases o'
  subst hcursor hstart hend
  rfl

end Offsets

def withCursor (t : Text) : Option Nat → Text
  | none => t
  | some offset => Text.insertAt offset Marker.cursor.token t

end FormatConformance
