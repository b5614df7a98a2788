/-! Edits that turn one sequence into another, as the runs of elements they keep, take out and put
in. Positions count elements of the old and of the new sequence. -/

namespace FormatConformance.Diff

inductive EditKind where
  | keep
  | delete
  | insert
  deriving DecidableEq, Repr

structure Edit where
  kind : EditKind
  old : Nat
  new : Nat
  size : Nat
  deriving DecidableEq, Repr

structure Range where
  start : Nat
  stop : Nat
  deriving DecidableEq, Repr

namespace Range

def size (r : Range) : Nat := r.stop - r.start

def isEmpty (r : Range) : Bool := r.stop ≤ r.start

end Range

namespace Edit

def oldRange (e : Edit) : Range := ⟨e.old, if e.kind = .insert then e.old else e.old + e.size⟩

def newRange (e : Edit) : Range := ⟨e.new, if e.kind = .delete then e.new else e.new + e.size⟩

def keep (old new size : Nat) : Edit := ⟨.keep, old, new, size⟩

end Edit

variable {α : Type} [BEq α]

def commonFront (old new : Array α) (i j : Nat) : Nat → Nat
  | 0 => 0
  | limit + 1 =>
    match old[i]?, new[j]? with
    | some a, some b => if a == b then commonFront old new (i + 1) (j + 1) limit + 1 else 0
    | _, _ => 0

def commonBack (old new : Array α) (i j : Nat) : Nat → Nat
  | 0 => 0
  | limit + 1 =>
    match old[i - 1]?, new[j - 1]? with
    | some a, some b => if a == b then commonBack old new (i - 1) (j - 1) limit + 1 else 0
    | _, _ => 0

def frontLength (old new : Array α) (r s : Range) : Nat :=
  commonFront old new r.start s.start (min r.size s.size)

def backLength (old new : Array α) (r s : Range) : Nat :=
  commonBack old new r.stop s.stop (min r.size s.size)

end FormatConformance.Diff
