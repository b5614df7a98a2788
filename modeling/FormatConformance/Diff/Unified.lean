import FormatConformance.Text.Basic
import FormatConformance.Diff.Patience
import FormatConformance.Diff.Slide

/-!
Unified diffs of two texts. `diff expected actual` is nothing for equal texts; otherwise it shows
the lines that differ in hunks, each with three lines of context.
-/

namespace FormatConformance.Diff

def linesFrom : Text → Text → List Text
  | [], [] => []
  | [], current => [current.reverse]
  | '\r' :: '\n' :: rest, current => ('\n' :: '\r' :: current).reverse :: linesFrom rest []
  | '\r' :: rest, current => ('\r' :: current).reverse :: linesFrom rest []
  | '\n' :: rest, current => ('\n' :: current).reverse :: linesFrom rest []
  | c :: rest, current => linesFrom rest (c :: current)

def lines (t : Text) : List Text := linesFrom t []

structure Block where
  kept : Bool
  old : Range
  new : Range
  deriving DecidableEq, Repr

structure Pending where
  deleted : Option Edit := none
  inserted : Option Edit := none

def Pending.add (p : Pending) (e : Edit) : Pending :=
  let grow := fun (o : Option Edit) => match o with
    | some first => some { first with size := first.size + e.size }
    | none => some e
  if e.kind = .delete then { p with deleted := grow p.deleted }
  else { p with inserted := grow p.inserted }

def Pending.blocks (p : Pending) : List Block :=
  match p.deleted, p.inserted with
  | some d, some i => [⟨false, d.oldRange, i.newRange⟩]
  | some d, none => [⟨false, d.oldRange, d.newRange⟩]
  | none, some i => [⟨false, i.oldRange, i.newRange⟩]
  | none, none => []

def blocksFrom : List Edit → Option Edit → Pending → List Block
  | [], kept, p => keptBlocks kept ++ p.blocks
  | e :: rest, kept, p =>
    if e.kind = .keep then
      let joined := match kept with
        | some k => { k with size := k.size + e.size }
        | none => e
      p.blocks ++ blocksFrom rest (some joined) {}
    else keptBlocks kept ++ blocksFrom rest none (p.add e)
where
  keptBlocks (kept : Option Edit) : List Block :=
    (kept.map fun k => Block.mk true k.oldRange k.newRange).toList

def blocks (edits : List Edit) : List Block := blocksFrom edits none {}

namespace Block

def dropLines (n : Nat) (b : Block) : Block :=
  { b with old := { b.old with start := b.old.start + n },
           new := { b.new with start := b.new.start + n } }

def takeLines (n : Nat) (b : Block) : Block :=
  { b with old := { b.old with stop := b.old.start + n },
           new := { b.new with stop := b.new.start + n } }

end Block

def mapLast {α : Type} (f : α → α) : List α → List α
  | [] => []
  | [a] => [f a]
  | a :: rest => a :: mapLast f rest

def trimEnds (context : Nat) (blocks : List Block) : List Block :=
  let first := match blocks with
    | b :: rest => (if b.kept then b.dropLines (b.old.size - context) else b) :: rest
    | [] => []
  mapLast (fun b => if b.kept then b.takeLines (min b.old.size context) else b) first

/-- Cuts the blocks into hunks where more lines are kept than two contexts hold; `current` is the
hunk in progress, last block first. -/
def hunksFrom (context : Nat) : List Block → List Block → List (List Block)
  | [], current =>
    match current with
    | [] => []
    | [b] => if b.kept then [] else [[b]]
    | _ => [current.reverse]
  | b :: rest, current =>
    if b.kept && 2 * context < b.old.size then
      (b.takeLines context :: current).reverse ::
        hunksFrom context rest [b.dropLines (b.old.size - context)]
    else hunksFrom context rest (b :: current)

def hunks (context : Nat) (blocks : List Block) : List (List Block) :=
  if blocks.isEmpty then [] else hunksFrom context (trimEnds context blocks) []

def numberChars (n : Nat) : Text := Nat.toDigits 10 n

/-- A range in a hunk's header. An empty range is named by the line before it. -/
def rangeChars (start stop : Nat) : Text :=
  let size := stop - start
  if size = 1 then numberChars (start + 1)
  else if size = 0 then numberChars start ++ ",0".toList
  else numberChars (start + 1) ++ ',' :: numberChars size

def headerChars (hunk : List Block) : Text :=
  match hunk.head?, hunk.getLast? with
  | some first, some last =>
    "@@ -".toList ++ rangeChars first.old.start last.old.stop ++ " +".toList ++
      rangeChars first.new.start last.new.stop ++ " @@\n".toList
  | _, _ => []

def lineChars (tag : Char) (line : Text) : Text :=
  let ended := line.getLast? == some '\n' || line.getLast? == some '\r'
  tag :: line ++ if ended then [] else "\n\\ No newline at end of file\n".toList

def linesIn (items : Array (Text)) (r : Range) : List Text :=
  (items.toList.take r.stop).drop r.start

def blockChars (old new : Array (Text)) (b : Block) : Text :=
  if b.kept then (linesIn old b.old).flatMap (lineChars ' ')
  else (linesIn old b.old).flatMap (lineChars '-') ++ (linesIn new b.new).flatMap (lineChars '+')

def hunkChars (old new : Array (Text)) (hunk : List Block) : Text :=
  let body := hunk.flatMap (blockChars old new)
  if body.isEmpty then [] else headerChars hunk ++ body

def contextLines : Nat := 3

def unified (expected actual : Text) : Text :=
  let old := (lines expected).toArray
  let new := (lines actual).toArray
  let found := hunks contextLines (blocks (slide old new (patience old new)))
  if found.isEmpty then []
  else "--- expected\n+++ actual\n".toList ++ found.flatMap (hunkChars old new)

end FormatConformance.Diff

namespace FormatConformance

def diff (expected actual : Text) : Option String :=
  if expected = actual then none else some (String.ofList (Diff.unified expected actual))

theorem diff_eq_none_iff (expected actual : Text) :
    diff expected actual = none ↔ expected = actual := by
  simp [diff]

end FormatConformance
