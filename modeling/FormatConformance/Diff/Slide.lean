import FormatConformance.Diff.Edit

/-!
Sliding edits. An insertion next to kept elements can often be moved along them without a change
of its effect; it is moved up and then down as far as it goes, so that it meets edits that it can
be merged with. Deletions change places with insertions and merge with deletions, but do not move
along kept elements.
-/

namespace FormatConformance.Diff

structure Focus where
  before : List Edit
  here : Edit
  after : List Edit

variable {α : Type} [BEq α]

def Focus.up? (old new : Array α) (f : Focus) : Option Focus :=
  match f.before with
  | [] => none
  | p :: before =>
    match f.here.kind, p.kind with
    | .insert, .keep | .delete, .keep =>
      let run := backLength old new p.oldRange f.here.newRange
      if 0 < run then
        let after := match f.after with
          | n :: rest =>
            if n.kind = .keep then
              ⟨.keep, n.old - run, n.new - run, n.size + run⟩ :: rest
            else Edit.keep (p.oldRange.stop - run) (f.here.newRange.stop - run) run :: f.after
          | [] => [Edit.keep (p.oldRange.stop - run) (f.here.newRange.stop - run) run]
        let here := { f.here with old := f.here.old - run, new := f.here.new - run }
        let shrunk := { p with size := p.size - run }
        some ⟨if shrunk.size = 0 then before else shrunk :: before, here, after⟩
      else if p.size = 0 then some ⟨before, f.here, f.after⟩
      else none
    | .insert, .delete | .delete, .insert => some ⟨before, f.here, p :: f.after⟩
    | .insert, .insert | .delete, .delete =>
      some ⟨before, { p with size := p.size + f.here.size }, f.after⟩
    | .keep, _ => none

def Focus.down? (old new : Array α) (f : Focus) : Option Focus :=
  match f.after with
  | [] => none
  | n :: after =>
    match f.here.kind, n.kind with
    | .insert, .keep | .delete, .keep =>
      let run := frontLength old new n.oldRange f.here.newRange
      if 0 < run then
        let before := match f.before with
          | p :: rest =>
            if p.kind = .keep then { p with size := p.size + run } :: rest
            else Edit.keep n.oldRange.start f.here.newRange.start run :: f.before
          | [] => [Edit.keep n.oldRange.start f.here.newRange.start run]
        let here := { f.here with old := f.here.old + run, new := f.here.new + run }
        let shrunk := ⟨.keep, n.old + run, n.new + run, n.size - run⟩
        some ⟨before, here, if shrunk.size = 0 then after else shrunk :: after⟩
      else if n.size = 0 then some ⟨f.before, f.here, after⟩
      else none
    | .insert, .delete | .delete, .insert => some ⟨n :: f.before, f.here, after⟩
    | .insert, .insert | .delete, .delete =>
      some ⟨f.before, { f.here with size := f.here.size + n.size }, after⟩
    | .keep, _ => none

def settle (move : Focus → Option Focus) : Nat → Focus → Focus
  | 0, f => f
  | fuel + 1, f =>
    match move f with
    | some f => settle move fuel f
    | none => f

/-- Slides the edits of one kind, from the first edit to the last; `reach` bounds the moves of a
single edit and `fuel` the number of edits visited. -/
def slideKind (old new : Array α) (kind : EditKind) (reach : Nat) :
    Nat → List Edit → List Edit → List Edit
  | 0, before, after => before.reverse ++ after
  | _, before, [] => before.reverse
  | fuel + 1, before, e :: after =>
    if e.kind = kind then
      let f := settle (Focus.up? old new) reach ⟨before, e, after⟩
      let f := settle (Focus.down? old new) reach f
      slideKind old new kind reach fuel (f.here :: f.before) f.after
    else slideKind old new kind reach fuel (e :: before) after

def slide (old new : Array α) (edits : List Edit) : List Edit :=
  let reach := 4 * (old.size + new.size + edits.length) + 8
  let once := slideKind old new .delete reach reach [] edits
  slideKind old new .insert reach reach [] once

end FormatConformance.Diff
