import FormatConformance.Diff.Bisect

/-! Edits anchored at the elements that occur once in each sequence: these are matched first, and
what lies between two matches is bisected. -/

namespace FormatConformance.Diff

variable {α : Type} [BEq α]

def uniquePositions (items : Array α) : List Nat :=
  (List.range items.size).filter fun i =>
    match items[i]? with
    | some a => items.toList.countP (· == a) == 1
    | none => false

structure Progress where
  old : Nat
  new : Nat
  edits : List Edit

def Progress.upTo (old new : Array α) (p : Progress) (i j : Nat) : Progress :=
  let run := frontLength old new ⟨p.old, i⟩ ⟨p.new, j⟩
  let kept := if run = 0 then [] else [Edit.keep p.old p.new run]
  let between := bisect old new ⟨p.old + run, i⟩ ⟨p.new + run, j⟩
  ⟨i, j, p.edits ++ kept ++ between⟩

def matchedPairs (edits : List Edit) : List (Nat × Nat) :=
  edits.flatMap fun e =>
    if e.kind = .keep then (List.range e.size).map fun i => (e.old + i, e.new + i) else []

def patience (old new : Array α) : List Edit :=
  let oldUnique := uniquePositions old
  let newUnique := uniquePositions new
  let oldItems := (oldUnique.filterMap fun i => old[i]?).toArray
  let newItems := (newUnique.filterMap fun i => new[i]?).toArray
  let anchors := matchedPairs (bisect oldItems newItems ⟨0, oldItems.size⟩ ⟨0, newItems.size⟩)
  let step := fun (p : Progress) (pair : Nat × Nat) =>
    p.upTo old new (oldUnique.getD pair.1 0) (newUnique.getD pair.2 0)
  let p := anchors.foldl step ⟨0, 0, []⟩
  p.edits ++ bisect old new ⟨p.old, old.size⟩ ⟨p.new, new.size⟩

end FormatConformance.Diff
