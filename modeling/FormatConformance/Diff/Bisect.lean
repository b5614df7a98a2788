import FormatConformance.Diff.Edit

/-!
Edits by bisection. Searches from both corners of the grid of two sequences advance diagonal by
diagonal until they meet; where they meet the problem is cut in two. The tables of the furthest
points belong to a whole run and carry over from one cut to the next.
-/

namespace FormatConformance.Diff

structure Furthest where
  points : Array Nat
  middle : Int

namespace Furthest

def ofSize (n : Nat) : Furthest := ⟨Array.replicate (2 * n) 0, n⟩

def point (f : Furthest) (diagonal : Int) : Nat := f.points.getD (diagonal + f.middle).toNat 0

def set (f : Furthest) (diagonal : Int) (x : Nat) : Furthest :=
  { f with points := f.points.setIfInBounds (diagonal + f.middle).toNat x }

end Furthest

structure Tables where
  front : Furthest
  back : Furthest

variable {α : Type} [BEq α]

def rounds (n m : Nat) : Nat := (n + m + 1) / 2 + 1

def diagonals (round : Nat) : List Int :=
  (List.range (round + 1)).map fun i : Nat => (round : Int) - 2 * i

def enter (f : Furthest) (round k : Int) : Nat :=
  if k = -round || (k ≠ round && f.point (k - 1) < f.point (k + 1)) then f.point (k + 1)
  else f.point (k - 1) + 1

def sweepFront (old new : Array α) (r s : Range) (round : Nat) :
    List Int → Tables → Tables × Option (Nat × Nat)
  | [], t => (t, none)
  | k :: rest, t =>
    let delta : Int := r.size - s.size
    let x := enter t.front round k
    let y : Int := x - k
    let run :=
      if x < r.size && 0 ≤ y && y < s.size then
        frontLength old new ⟨r.start + x, r.stop⟩ ⟨s.start + y.toNat, s.stop⟩
      else 0
    let t := { t with front := t.front.set k (x + run) }
    if delta % 2 = 1 && (k - delta).natAbs + 1 ≤ round &&
        r.size ≤ x + run + t.back.point (delta - k) then
      (t, some (r.start + x, s.start + y.toNat))
    else sweepFront old new r s round rest t

def sweepBack (old new : Array α) (r s : Range) (round : Nat) :
    List Int → Tables → Tables × Option (Nat × Nat)
  | [], t => (t, none)
  | k :: rest, t =>
    let delta : Int := r.size - s.size
    let x := enter t.back round k
    let y : Int := x - k
    let run :=
      if x < r.size && 0 ≤ y && y < s.size then
        backLength old new ⟨r.start, r.start + r.size - x⟩ ⟨s.start, s.start + s.size - y.toNat⟩
      else 0
    let t := { t with back := t.back.set k (x + run) }
    if delta % 2 = 0 && (k - delta).natAbs ≤ round &&
        r.size ≤ x + run + t.front.point (delta - k) then
      (t, some (r.start + (r.size - (x + run)), s.start + (s.size - (y.toNat + run))))
    else sweepBack old new r s round rest t

def meet (old new : Array α) (r s : Range) :
    Nat → Nat → Tables → Tables × Option (Nat × Nat)
  | 0, _, t => (t, none)
  | left + 1, round, t =>
    match sweepFront old new r s round (diagonals round) t with
    | (t, some place) => (t, some place)
    | (t, none) =>
      match sweepBack old new r s round (diagonals round) t with
      | (t, some place) => (t, some place)
      | (t, none) => meet old new r s left (round + 1) t

def cut (old new : Array α) (r s : Range) (t : Tables) : Tables × Option (Nat × Nat) :=
  meet old new r s (rounds r.size s.size) 0 ⟨t.front.set 1 0, t.back.set 1 0⟩

/-- Keeps the common ends of two ranges and cuts what is left between them; `fuel` bounds the
depth of the cuts. -/
def conquer (old new : Array α) : Nat → Range → Range → Tables → Tables × List Edit
  | 0, _, _, t => (t, [])
  | fuel + 1, r, s, t =>
    let front := frontLength old new r s
    let r' : Range := ⟨r.start + front, r.stop⟩
    let s' : Range := ⟨s.start + front, s.stop⟩
    let back := backLength old new r' s'
    let r'' : Range := ⟨r'.start, r.stop - back⟩
    let s'' : Range := ⟨s'.start, s.stop - back⟩
    let kept := fun (old new size : Nat) => if size = 0 then [] else [Edit.keep old new size]
    let (t, between) :=
      if r''.isEmpty && s''.isEmpty then (t, [])
      else if s''.isEmpty then (t, [⟨.delete, r''.start, s''.start, r''.size⟩])
      else if r''.isEmpty then (t, [⟨.insert, r''.start, s''.start, s''.size⟩])
      else match cut old new r'' s'' t with
        | (t, none) =>
          (t, [⟨.delete, r''.start, s''.start, r''.size⟩,
            ⟨.insert, r''.start, s''.start, s''.size⟩])
        | (t, some (x, y)) =>
          let (t, first) := conquer old new fuel ⟨r''.start, x⟩ ⟨s''.start, y⟩ t
          let (t, second) := conquer old new fuel ⟨x, r''.stop⟩ ⟨y, s''.stop⟩ t
          (t, first ++ second)
    (t, kept r.start s.start front ++ between ++ kept r''.stop s''.stop back)

def bisect (old new : Array α) (r s : Range) : List Edit :=
  let table := Furthest.ofSize (rounds r.size s.size)
  (conquer old new (r.size + s.size + 1) r s ⟨table, table⟩).2

end FormatConformance.Diff
