import FormatConformance.Yaml.Scanner

/-!
Texts in YAML: without quotes, between quotes, and set off as a block. A single line end inside of a
text is a blank; of more of them all but the first are kept.
-/

namespace FormatConformance.Yaml

inductive Gap where
  | blanks (t : Text)
  | lines (escaped : Bool) (more : Nat)

namespace Gap

def isBroken : Gap → Bool
  | blanks _ => false
  | lines _ _ => true

def isEmpty : Gap → Bool
  | blanks t => t.isEmpty
  | lines _ _ => false

def addBlank (c : Char) : Gap → Gap
  | blanks t => blanks (c :: t)
  | lines escaped more => lines escaped more

def addBreak : Gap → Gap
  | blanks _ => lines false 0
  | lines escaped more => lines escaped (more + 1)

def foldInto (content : Text) : Gap → Text
  | blanks t => t ++ content
  | lines false 0 => ' ' :: content
  | lines _ more => List.replicate more '\n' ++ content

end Gap

namespace Scanner

/-- Reads a text without quotes; `content` has its last character first, and `gap` is what was met
behind it. -/
def readPlain (indent : Nat) : Nat → Scanner → Text → Gap → Option (Text × Scanner)
  | 0, _, _, _ => none
  | fuel + 1, s, content, gap =>
    let ended := some (content.reverse, if gap.isBroken then s.allowKey true else s)
    match s.rest with
    | [] => ended
    | c :: behind =>
      if isBreak c then readPlain indent fuel s.skipBreak content gap.addBreak
      else if isSpace c then
        if gap.isBroken && s.column < indent && c == '\t' then none
        else readPlain indent fuel s.advance content (gap.addBlank c)
      else if (!gap.isEmpty && ((!s.inFlow && s.column < indent) || s.atMarker || c == '#')) ||
        (c == ':' && (endsWord behind || (s.inFlow && behind.head?.any isFlowSign))) ||
        (s.inFlow && isFlowSign c) then ended
      else readPlain indent fuel s.advance (c :: gap.foldInto content) (.blanks [])

def unescape? : Text → Option (Char × Nat)
  | '0' :: _ => some (Char.ofNat 0, 1)
  | 'a' :: _ => some (Char.ofNat 7, 1)
  | 'b' :: _ => some (Char.ofNat 8, 1)
  | 't' :: _ | '\t' :: _ => some ('\t', 1)
  | 'n' :: _ => some ('\n', 1)
  | 'v' :: _ => some (Char.ofNat 11, 1)
  | 'f' :: _ => some (Char.ofNat 12, 1)
  | 'r' :: _ => some ('\r', 1)
  | 'e' :: _ => some (Char.ofNat 27, 1)
  | ' ' :: _ => some (' ', 1)
  | '"' :: _ => some ('"', 1)
  | '\'' :: _ => some ('\'', 1)
  | '\\' :: _ => some ('\\', 1)
  | 'N' :: _ => some (Char.ofNat 0x85, 1)
  | '_' :: _ => some (Char.ofNat 0xA0, 1)
  | 'L' :: _ => some (Char.ofNat 0x2028, 1)
  | 'P' :: _ => some (Char.ofNat 0x2029, 1)
  | kind :: rest => do
    let count ← if kind = 'x' then some 2 else if kind = 'u' then some 4
      else if kind = 'U' then some 8 else none
    let digits := rest.take count
    let value := digitsValue 16 digits
    guard (digits.length = count && digits.all isHexDigit && (Nat.isValidChar value : Bool))
    return (Char.ofNat value, count + 1)
  | [] => none

def readQuoted (quote : Char) : Nat → Scanner → Text → Gap → Option (Text × Scanner)
  | 0, _, _, _ => none
  | fuel + 1, s, content, gap =>
    if s.atMarker then none
    else
      let folded := gap.foldInto content
      match s.rest with
      | [] => none
      | c :: behind =>
        if isBreak c then readQuoted quote fuel s.skipBreak content gap.addBreak
        else if isSpace c then readQuoted quote fuel s.advance content (gap.addBlank c)
        else if c == quote then
          if quote == '\'' && behind.head? == some '\'' then
            readQuoted quote fuel (s.advanceBy 2) ('\'' :: folded) (.blanks [])
          else some (folded.reverse, s.advance)
        else if c == '\\' && quote == '"' then
          if behind.head?.any isBreak then
            readQuoted quote fuel s.advance.skipBreak folded (.lines true 0)
          else match unescape? behind with
            | none => none
            | some (c, count) =>
              readQuoted quote fuel (s.advanceBy (count + 1)) (c :: folded) (.blanks [])
        else readQuoted quote fuel s.advance (c :: folded) (.blanks [])

inductive Chomping where
  | clip
  | strip
  | keep
  deriving DecidableEq, Repr

def Chomping.ofSign? : Char → Option Chomping
  | '-' => some .strip
  | '+' => some .keep
  | _ => none

structure BlockText where
  content : Text := []
  ended : Bool := false
  vacant : Nat := 0
  set : Bool := false

def BlockText.add (literal : Bool) (b : BlockText) (line : Text) : BlockText :=
  let starts := line.head?.any isSpace
  let gap :=
    if !literal && b.ended && !b.set && !starts then (if b.vacant = 0 then [' '] else [])
    else if b.ended then ['\n'] else []
  { content := line.reverse ++ List.replicate b.vacant '\n' ++ gap ++ b.content, set := starts }

def BlockText.finish (chomping : Chomping) (b : BlockText) : Text :=
  b.content.reverse ++
    (if b.ended && chomping ≠ .strip then ['\n'] else []) ++
    (if chomping = .keep then List.replicate b.vacant '\n' else [])

/-- Passes over empty lines and indentation in front of a line of a block text; `most` is the
greatest column that was met, `count` the number of lines. An indentation of none is not known
yet. -/
def skipIndent (indent : Option Nat) : Nat → Scanner → Nat → Nat → Option (Scanner × Nat × Nat)
  | 0, _, _, _ => none
  | fuel + 1, s, most, count =>
    let inside := indent.any (s.column ≥ ·)
    let most := max most s.column
    match s.rest with
    | ' ' :: _ =>
      if inside then some (s, most, count) else skipIndent indent fuel s.advance most count
    | '\t' :: _ => if inside then some (s, most, count) else none
    | '\n' :: _ | '\r' :: _ => skipIndent indent fuel s.skipBreak most (count + 1)
    | _ => some (s, most, count)

def readLines (literal : Bool) (indent : Nat) :
    Nat → Scanner → BlockText → Option (BlockText × Scanner)
  | 0, _, _ => none
  | fuel + 1, s, b =>
    if s.column ≠ indent || s.rest.isEmpty then some (b, s)
    else do
      let line := s.rest.takeWhile (!isBreak ·)
      let b := b.add literal line
      let s := s.advanceBy line.length
      if s.rest.isEmpty then return (b, s)
      let (s, _, vacant) ← skipIndent (some indent) (s.rest.length + 1) s.skipBreak 0 0
      readLines literal indent fuel s { b with ended := true, vacant }

/-- What the signs in front of a block text say: what becomes of its last line end and how far it is
indented; and how many signs there are. An indentation of zero is refused. -/
def blockSigns (t : Text) : Option (Chomping × Option Nat × Nat) :=
  let depth (c : Char) : Option Nat := if c == '0' then none else some (digitsValue 10 [c])
  match t.head?.bind Chomping.ofSign?, t.head?.filter (·.isDigit), t[1]? with
  | some chomping, _, second =>
    match second.filter (·.isDigit) with
    | some digit => (depth digit).map fun n => (chomping, some n, 2)
    | none => some (chomping, none, 1)
  | none, some digit, second => do
    let n ← depth digit
    match second.bind Chomping.ofSign? with
    | some chomping => return (chomping, some n, 2)
    | none => return (.clip, some n, 1)
  | none, none, _ => some (.clip, none, 0)

def readBlock (literal : Bool) (s : Scanner) : Option (Text × Scanner) := do
  let s := s.advance
  let (chomping, given, count) ← blockSigns s.rest
  let s := ((s.advanceBy count).advanceWhile isSpace).skipComment
  guard (s.rest.head?.all isBreak)
  let s := s.skipBreak
  let known := given.map fun n => (s.margin - 1) + n
  let (s, most, vacant) ← skipIndent known (s.rest.length + 1) s 0 0
  let indent := known.getD (max (max most s.margin) 1)
  let (b, s) ← readLines literal indent (s.rest.length + 1) s { vacant }
  return (b.finish chomping, s)

end Scanner

end FormatConformance.Yaml
