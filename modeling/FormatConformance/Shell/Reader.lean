import FormatConformance.Shell.Syntax
import FormatConformance.Text.Search

/-!
Reading shell scripts. Words are read together with what is expanded in them, so that scripts in
substitutions are read in place. Every step takes characters or goes down in the grammar, which has
few levels; `fuel` is larger than the number of steps that a text allows.
-/

namespace FormatConformance.Shell

/-- The text that is left to read. The number of lines of the whole text tells where it starts. -/
structure Source where
  rest : Text
  lineCount : Nat

namespace Source

def line (s : Source) : Nat := s.lineCount - s.rest.count '\n'

def ofText (t : Text) : Source := ⟨t, t.count '\n' + 1⟩

end Source

abbrev Parser := StateT Source (Except SyntaxFault)

def isBlank (c : Char) : Bool := c == ' ' || c == '\t'

def isNameStart (c : Char) : Bool := c.isAlpha || c == '_'

def isNameChar (c : Char) : Bool := c.isAlphanum || c == '_'

def isName (t : Text) : Bool := t.head?.any isNameStart && t.all isNameChar

def isSpecial (c : Char) : Bool := "@*#?-$!".toList.contains c

def endsWord (c : Char) : Bool := isBlank c || "\n;&|<>()".toList.contains c

def assignment? (word : Word) : Option (String × Word) :=
  match word with
  | .text content false :: rest =>
    let name := content.takeWhile isNameChar
    match content.drop name.length with
    | '=' :: value =>
      if isName name then
        some (Text.asString name, if value.isEmpty then rest else .text value false :: rest)
      else none
    | _ => none
  | _ => none

namespace Parser

def peek : Parser Text := do return (← get).rest

def replaceRest (t : Text) : Parser Unit := modify fun s => { s with rest := t }

def drop (count : Nat) : Parser Unit := modify fun s => { s with rest := s.rest.drop count }

def fault {α : Type} (message : Text) : Parser α := do throw ⟨(← get).line, message⟩

def accept (t : Text) : Parser Bool := do
  match t.isPrefixOf? (← peek) with
  | some rest =>
    replaceRest rest
    return true
  | none => return false

def within {α : Type} (t : Text) (parser : Parser α) : Parser α := do
  let outer ← get
  set (Source.mk t (outer.line + t.count '\n'))
  let result ← parser
  set outer
  return result

def dropBlanks : Text → Text
  | '\\' :: '\n' :: rest => dropBlanks rest
  | '#' :: rest => rest.dropWhile (· ≠ '\n')
  | c :: rest => if isBlank c then dropBlanks rest else c :: rest
  | [] => []

def skipBlanks : Parser Unit := modify fun s => { s with rest := dropBlanks s.rest }

def dropLines : Nat → Text → Text
  | 0, t => t
  | fuel + 1, t =>
    match dropBlanks t with
    | '\n' :: rest => dropLines fuel rest
    | t => t

def skipLines : Parser Unit :=
  modify fun s => { s with rest := dropLines (s.rest.length + 1) s.rest }

def plainWord (t : Text) : Text := t.takeWhile fun c => !endsWord c

def keywords : List String :=
  ["!", "case", "do", "done", "elif", "else", "esac", "fi", "for", "if", "in", "then", "until",
    "while", "\x7b", "\x7d"]

def closers : List String := ["do", "done", "elif", "else", "esac", "fi", "then", "\x7d"]

def keyword (word : String) : Parser Bool := do
  if plainWord (← peek) == word.toList then
    drop word.length
    return true
  else return false

def inQuotes (t : Text) : Text := '"' :: t ++ ['"']

def startsRedirect : Text → Bool
  | '<' :: _ | '>' :: _ => true
  | d :: '<' :: _ | d :: '>' :: _ => d.isDigit
  | _ => false

def tokenName (t : Text) : Text :=
  match t with
  | [] => "end of file".toList
  | '\n' :: _ => "newline".toList
  | c :: rest =>
    if startsRedirect t then "redirection".toList
    else if ";&|".toList.contains c then
      inQuotes (if rest.head? == some c then [c, c] else [c])
    else if c == '(' || c == ')' then inQuotes [c]
    else
      let word := plainWord t
      if keywords.contains (Text.asString word) then inQuotes word else "word".toList

def unexpected {α : Type} (wanted : Option Text) : Parser α := do
  skipBlanks
  let rest ← peek
  let wanted := match wanted with
    | some token => " (expecting ".toList ++ token ++ [')']
    | none => []
  if rest.head? == some '\n' then drop 1
  fault ("Syntax error: ".toList ++ tokenName rest ++ " unexpected".toList ++ wanted)

def expectKeyword (word : String) : Parser Unit := do
  skipBlanks
  if ← keyword word then pure () else unexpected (some (inQuotes word.toList))

def expectChar (c : Char) : Parser Unit := do
  skipBlanks
  if ← accept [c] then pure () else unexpected (some (inQuotes [c]))

def atEnd : Parser Bool := do
  match ← peek with
  | [] => return true
  | ')' :: _ => return true
  | ';' :: ';' :: _ => return true
  | rest => return closers.contains (Text.asString (plainWord rest))

def singleQuoted : Parser Text := do
  let rest ← peek
  let content := rest.takeWhile (· ≠ '\'')
  drop (content.length + 1)
  if content.length < rest.length then return content
  else fault "Syntax error: Unterminated quoted string".toList

/-- The text up to a back quote, without the backslashes before characters of `escapable`, and the
number of characters that it takes. -/
def backQuoted? (escapable : Text) : Text → Option (Text × Nat)
  | '\\' :: c :: rest => do
    let (content, count) ← backQuoted? escapable rest
    return (if escapable.contains c then c :: content else '\\' :: c :: content, count + 2)
  | '`' :: _ => some ([], 1)
  | c :: rest => do
    let (content, count) ← backQuoted? escapable rest
    return (c :: content, count + 1)
  | [] => none

def splitDocument (withoutTabs : Bool) (delimiter : Text) : Nat → Text → Text × Text
  | 0, t => (t, [])
  | fuel + 1, t =>
    let written := t.takeWhile (· ≠ '\n')
    let behind := t.drop written.length
    let line := if withoutTabs then written.dropWhile (· == '\t') else written
    if line == delimiter then ([], behind.drop 1)
    else match behind with
      | [] => (line, [])
      | _ :: behind =>
        let (content, rest) := splitDocument withoutTabs delimiter fuel behind
        (line ++ '\n' :: content, rest)

def takeDocument (withoutTabs : Bool) (delimiter : Text) : Parser Text := do
  let rest ← peek
  let line := rest.takeWhile (· ≠ '\n')
  let (content, behind) :=
    splitDocument withoutTabs delimiter (rest.length + 1) (rest.drop (line.length + 1))
  replaceRest (line ++ '\n' :: behind)
  return content

def literal (word : Word) : Text × Bool :=
  (word.flatMap fun piece => match piece with
    | .text content _ => content
    | _ => [],
   word.any fun piece => match piece with
    | .text _ quoted => quoted
    | _ => false)

def trim? : Text → Option (Trim × Nat)
  | '#' :: '#' :: _ => some (.longestStart, 2)
  | '#' :: _ => some (.shortestStart, 1)
  | '%' :: '%' :: _ => some (.longestEnd, 2)
  | '%' :: _ => some (.shortestEnd, 1)
  | _ => none

def fallback? : Char → Option Fallback
  | '-' => some .value
  | '=' => some .assigned
  | '?' => some .complaint
  | '+' => some .alternative
  | _ => none

def parameterName (t : Text) : Text :=
  match t with
  | c :: _ =>
    if isNameStart c then t.takeWhile isNameChar
    else if c.isDigit then t.takeWhile Char.isDigit
    else if isSpecial c then [c]
    else []
  | [] => []

def asksLength (t : Text) : Bool :=
  match t with
  | '#' :: rest =>
    let name := parameterName rest
    !name.isEmpty && (rest.drop name.length).head? == some '\x7d'
  | _ => false

mutual

def dollar (quoted : Bool) : Nat → Parser Piece
  | 0 => unexpected none
  | fuel + 1 => do
    match ← peek with
    | '(' :: '(' :: rest =>
      replaceRest rest
      return .computed (← arithmetic 0 fuel) quoted
    | '(' :: rest =>
      replaceRest rest
      let commands ← list false fuel
      skipLines
      expectChar ')'
      return .printed commands quoted
    | '\x7b' :: rest =>
      replaceRest rest
      braced quoted fuel
    | c :: rest =>
      if isNameStart c then
        let name := (c :: rest).takeWhile isNameChar
        drop name.length
        return .parameter (Text.asString name) quoted
      else if c.isDigit || isSpecial c then
        replaceRest rest
        return .parameter (String.singleton c) quoted
      else return .text ['$'] quoted
    | [] => return .text ['$'] quoted

def braced (quoted : Bool) : Nat → Parser Piece
  | 0 => unexpected none
  | fuel + 1 => do
    let rest ← peek
    if asksLength rest then
      let name := parameterName (rest.drop 1)
      drop (name.length + 2)
      return .length (Text.asString name) quoted
    let name := parameterName rest
    let behind := rest.drop name.length
    replaceRest behind
    let named := Text.asString name
    if name.isEmpty then
      let _ ← bracedWord quoted fuel
      return .senseless
    match behind with
    | '\x7d' :: behind =>
      replaceRest behind
      return .parameter named quoted
    | c :: further =>
      match trim? behind with
      | some (trim, count) =>
        drop count
        return .trimmed named trim (← bracedWord false fuel) quoted
      | none =>
        let emptyToo := c == ':'
        let sign := if emptyToo then further.headD ' ' else c
        drop (if emptyToo then 2 else 1)
        let word ← bracedWord quoted fuel
        match fallback? sign with
        | some kind => return .fallback named kind emptyToo word quoted
        | none => return .senseless
    | [] => fault "Syntax error: Missing '\x7d'".toList

def bracedWord (quoted : Bool) : Nat → Parser Word
  | 0 => unexpected none
  | fuel + 1 => do
    match ← peek with
    | [] => fault "Syntax error: Missing '\x7d'".toList
    | c :: rest =>
      replaceRest rest
      match c with
      | '\x7d' => return []
      | '$' =>
        let piece ← dollar quoted fuel
        return piece :: (← bracedWord quoted fuel)
      | '`' =>
        let piece ← backQuoted quoted fuel
        return piece :: (← bracedWord quoted fuel)
      | '\\' =>
        let next := rest.take 1
        drop 1
        let content :=
          if next == ['\n'] then []
          else if quoted && !next.all "$`\"\\\x7d".toList.contains then '\\' :: next
          else next
        return .text content true :: (← bracedWord quoted fuel)
      | '"' =>
        if quoted then bracedWord quoted fuel
        else
          let inside ← doubleQuoted fuel
          return inside ++ (← bracedWord quoted fuel)
      | '\'' =>
        if quoted then return .text [c] true :: (← bracedWord quoted fuel)
        else
          let content ← singleQuoted
          return .text content true :: (← bracedWord quoted fuel)
      | c => return .text [c] quoted :: (← bracedWord quoted fuel)

def arithmetic (depth : Nat) : Nat → Parser Word
  | 0 => unexpected none
  | fuel + 1 => do
    match ← peek with
    | [] => fault "Syntax error: Missing '))'".toList
    | c :: rest =>
      replaceRest rest
      match c with
      | ')' =>
        match depth with
        | 0 =>
          if ← accept [')'] then return []
          else fault "Syntax error: Missing '))'".toList
        | depth + 1 => return .text [c] true :: (← arithmetic depth fuel)
      | '(' => return .text [c] true :: (← arithmetic (depth + 1) fuel)
      | '$' =>
        let piece ← dollar true fuel
        return piece :: (← arithmetic depth fuel)
      | '`' =>
        let piece ← backQuoted true fuel
        return piece :: (← arithmetic depth fuel)
      | '\\' =>
        if ← accept ['\n'] then arithmetic depth fuel
        else return .text [c] true :: (← arithmetic depth fuel)
      | '"' => arithmetic depth fuel
      | c => return .text [c] true :: (← arithmetic depth fuel)

def backQuoted (quoted : Bool) : Nat → Parser Piece
  | 0 => unexpected none
  | fuel + 1 => do
    match backQuoted? (if quoted then "$`\\\"".toList else "$`\\".toList) (← peek) with
    | none => fault "Syntax error: EOF in backquote substitution".toList
    | some (content, count) =>
      drop count
      let commands ← within content do
        let commands ← list false fuel
        skipLines
        if (← peek).isEmpty then return commands else unexpected none
      return .printed commands quoted

def doubleQuoted : Nat → Parser Word
  | 0 => unexpected none
  | fuel + 1 => do
    if ← accept ['"'] then return [.text [] true]
    insideQuotes fuel

def insideQuotes : Nat → Parser Word
  | 0 => unexpected none
  | fuel + 1 => do
    match ← peek with
    | [] => fault "Syntax error: Unterminated quoted string".toList
    | c :: rest =>
      replaceRest rest
      match c with
      | '"' => return []
      | '$' =>
        let piece ← dollar true fuel
        return piece :: (← insideQuotes fuel)
      | '`' =>
        let piece ← backQuoted true fuel
        return piece :: (← insideQuotes fuel)
      | '\\' =>
        let next := rest.take 1
        drop 1
        let content :=
          if next == ['\n'] then []
          else if next.all "$`\"\\".toList.contains then next
          else '\\' :: next
        return .text content true :: (← insideQuotes fuel)
      | c => return .text [c] true :: (← insideQuotes fuel)

def document : Nat → Parser Word
  | 0 => unexpected none
  | fuel + 1 => do
    match ← peek with
    | [] => return []
    | c :: rest =>
      replaceRest rest
      match c with
      | '$' =>
        let piece ← dollar true fuel
        return piece :: (← document fuel)
      | '`' =>
        let piece ← backQuoted true fuel
        return piece :: (← document fuel)
      | '\\' =>
        let next := rest.take 1
        drop 1
        let content :=
          if next == ['\n'] then []
          else if next.all "$`\\".toList.contains then next
          else '\\' :: next
        return .text content true :: (← document fuel)
      | c => return .text [c] true :: (← document fuel)

def word : Nat → Parser Word
  | 0 => unexpected none
  | fuel + 1 => do
    match ← peek with
    | [] => return []
    | c :: rest =>
      if endsWord c then return []
      replaceRest rest
      match c with
      | '\'' =>
        let content ← singleQuoted
        return .text content true :: (← word fuel)
      | '"' =>
        let inside ← doubleQuoted fuel
        return inside ++ (← word fuel)
      | '\\' =>
        let next := rest.take 1
        drop 1
        if next == ['\n'] then word fuel
        else return .text (if next.isEmpty then ['\\'] else next) true :: (← word fuel)
      | '$' =>
        let piece ← dollar false fuel
        return piece :: (← word fuel)
      | '`' =>
        let piece ← backQuoted false fuel
        return piece :: (← word fuel)
      | c =>
        let more := rest.takeWhile fun d => !endsWord d && !"'\"\\$`".toList.contains d
        drop more.length
        return .text (c :: more) false :: (← word fuel)

def someWord : Nat → Parser Word
  | 0 => unexpected none
  | fuel + 1 => do
    skipBlanks
    let w ← word fuel
    if w.isEmpty then unexpected none else return w

def redirect? : Nat → Parser (Option Redirect)
  | 0 => unexpected none
  | fuel + 1 => do
    skipBlanks
    if !startsRedirect (← peek) then return none
    let digits := (← peek).takeWhile Char.isDigit
    drop digits.length
    let descriptor := fun usual => (digits.head?.map fun d => d.toNat - 48).getD usual
    if ← accept ['<', '<'] then
      let withoutTabs ← accept ['-']
      let (delimiter, quoted) := literal (← someWord fuel)
      let content ← takeDocument withoutTabs delimiter
      if quoted then return some (.document (descriptor 0) [.text content true])
      else return some (.document (descriptor 0) (← within content (document fuel)))
    else if ← accept ['<', '&'] then return some (.copy (descriptor 0) (← someWord fuel))
    else if ← accept ['<', '>'] then
      return some (.file (descriptor 0) .reading (← someWord fuel))
    else if ← accept ['<'] then return some (.file (descriptor 0) .reading (← someWord fuel))
    else if ← accept ['>', '>'] then
      return some (.file (descriptor 1) .appending (← someWord fuel))
    else if ← accept ['>', '&'] then return some (.copy (descriptor 1) (← someWord fuel))
    else
      let _ ← accept ['>', '|'] <||> accept ['>']
      return some (.file (descriptor 1) .writing (← someWord fuel))

def redirects : Nat → Parser (List Redirect)
  | 0 => unexpected none
  | fuel + 1 => do
    match ← redirect? fuel with
    | some r => return r :: (← redirects fuel)
    | none => return []

def arguments : Nat → Parser (List Word × List Redirect)
  | 0 => unexpected none
  | fuel + 1 => do
    match ← redirect? fuel with
    | some r =>
      let (words, redirects) ← arguments fuel
      return (words, r :: redirects)
    | none =>
      let first ← word fuel
      if first.isEmpty then return ([], [])
      let (words, redirects) ← arguments fuel
      return (first :: words, redirects)

def loopWords : Nat → Parser (List Word)
  | 0 => unexpected none
  | fuel + 1 => do
    skipBlanks
    let first ← word fuel
    if first.isEmpty then return [] else return first :: (← loopWords fuel)

def conditional : Nat → Parser Command
  | 0 => unexpected none
  | fuel + 1 => do
    let test ← list true fuel
    expectKeyword "then"
    let yes ← list true fuel
    skipBlanks
    if ← keyword "elif" then return .branch test yes [← conditional fuel]
    let no ← if ← keyword "else" then list true fuel else pure []
    expectKeyword "fi"
    return .branch test yes no

def loopBody : Nat → Parser Script
  | 0 => unexpected none
  | fuel + 1 => do
    expectKeyword "do"
    let body ← list true fuel
    expectKeyword "done"
    return body

/-- A loop over words after its keyword. Without words it goes over the arguments. -/
def eachLoop (line : Nat) : Nat → Parser Command
  | 0 => unexpected none
  | fuel + 1 => do
    skipBlanks
    let name := plainWord (← peek)
    if !isName name then fault "Syntax error: Bad for loop variable".toList
    drop name.length
    skipLines
    let words ←
      if ← keyword "in" then
        let words ← loopWords fuel
        if !(← accept [';'] <||> accept ['\n']) then unexpected none
        pure words
      else
        let _ ← accept [';']
        pure [[.parameter "@" true]]
    skipLines
    return .each line (Text.asString name) words (← loopBody fuel)

def patterns : Nat → Parser (List Word)
  | 0 => unexpected none
  | fuel + 1 => do
    skipBlanks
    let first ← word fuel
    skipBlanks
    if ← accept ['|'] then return first :: (← patterns fuel)
    expectChar ')'
    return [first]

def clauses : Nat → Parser (List (List Word × Script))
  | 0 => unexpected none
  | fuel + 1 => do
    skipLines
    if ← keyword "esac" then return []
    let _ ← accept ['(']
    let found ← patterns fuel
    let commands ← list false fuel
    skipLines
    if ← accept [';', ';'] then return (found, commands) :: (← clauses fuel)
    if ← keyword "esac" then return [(found, commands)]
    unexpected (some (inQuotes [';', ';']))

def simple (line : Nat) : Nat → Parser Command
  | 0 => unexpected none
  | fuel + 1 => do
    let (words, redirects) ← arguments fuel
    match words, redirects with
    | [], [] => unexpected none
    | [name], [] =>
      if (← peek).head? == some '(' && (assignment? name).isNone then
        drop 1
        expectChar ')'
        let (name, quoted) := literal name
        if quoted || !isName name then fault "Syntax error: Bad function name".toList
        skipLines
        return .define (Text.asString name) (← command fuel)
      else pure ()
    | _, _ => pure ()
    let given := words.takeWhile fun w => (assignment? w).isSome
    return .simple line (given.filterMap assignment?) (words.drop given.length) redirects

def command : Nat → Parser Command
  | 0 => unexpected none
  | fuel + 1 => do
    skipBlanks
    let line := (← get).line
    let rest ← peek
    let compound? ←
      if ← keyword "if" then some <$> conditional fuel
      else if ← keyword "case" then
        let subject ← someWord fuel
        skipLines
        expectKeyword "in"
        pure (some (.choice line subject (← clauses fuel)))
      else if ← keyword "for" then some <$> eachLoop line fuel
      else if ← keyword "while" then
        let test ← list true fuel
        pure (some (.loop false test (← loopBody fuel)))
      else if ← keyword "until" then
        let test ← list true fuel
        pure (some (.loop true test (← loopBody fuel)))
      else if ← keyword "\x7b" then
        let commands ← list true fuel
        expectKeyword "\x7d"
        pure (some (.group commands))
      else if ← accept ['('] then
        let commands ← list true fuel
        expectChar ')'
        pure (some (.subshell commands))
      else pure none
    match compound? with
    | some compound =>
      let redirects ← redirects fuel
      return if redirects.isEmpty then compound else .redirected compound redirects
    | none =>
      if keywords.contains (Text.asString (plainWord rest)) then unexpected none
      simple line fuel

def piped : Nat → Parser (List Command)
  | 0 => unexpected none
  | fuel + 1 => do
    let first ← command fuel
    skipBlanks
    match ← peek with
    | '|' :: '|' :: _ => return [first]
    | '|' :: rest =>
      replaceRest rest
      skipLines
      return first :: (← piped fuel)
    | _ => return [first]

def pipeline : Nat → Parser Command
  | 0 => unexpected none
  | fuel + 1 => do
    skipBlanks
    if ← keyword "!" then return .negated (← pipeline fuel)
    match ← piped fuel with
    | [c] => return c
    | commands => return .pipeline commands

def joined (first : Command) : Nat → Parser Command
  | 0 => unexpected none
  | fuel + 1 => do
    skipBlanks
    if ← accept ['&', '&'] then
      skipLines
      joined (.both first (← pipeline fuel)) fuel
    else if ← accept ['|', '|'] then
      skipLines
      joined (.either first (← pipeline fuel)) fuel
    else return first

/-- Commands up to a token that ends them. Unless the text ends, there has to be one if `needsOne`.
-/
def list (needsOne : Bool) : Nat → Parser Script
  | 0 => unexpected none
  | fuel + 1 => do
    skipLines
    if (← peek).isEmpty then return []
    if !needsOne then if ← atEnd then return []
    let first ← pipeline fuel
    let c ← joined first fuel
    skipBlanks
    match ← peek with
    | ';' :: ';' :: _ => return [c]
    | ';' :: rest | '\n' :: rest =>
      replaceRest rest
      return c :: (← list false fuel)
    | '&' :: rest =>
      replaceRest rest
      return .background c :: (← list false fuel)
    | _ => return [c]

def line : Nat → Parser Script
  | 0 => unexpected none
  | fuel + 1 => do
    skipBlanks
    match ← peek with
    | [] => return []
    | '\n' :: rest =>
      replaceRest rest
      return []
    | _ =>
      let first ← pipeline fuel
      let c ← joined first fuel
      skipBlanks
      match ← peek with
      | ';' :: ';' :: _ => unexpected none
      | ';' :: rest =>
        replaceRest rest
        return c :: (← line fuel)
      | '&' :: rest =>
        replaceRest rest
        return .background c :: (← line fuel)
      | [] => return [c]
      | '\n' :: rest =>
        replaceRest rest
        return [c]
      | _ => unexpected none

end

end Parser

def Reading.ofSource (fuel : Nat) : Nat → Source → Reading
  | 0, _ => ⟨[], none⟩
  | count + 1, source =>
    if source.rest.isEmpty then ⟨[], none⟩
    else match (Parser.line fuel).run source with
      | .error fault => ⟨[], some fault⟩
      | .ok (commands, source) =>
        let reading := ofSource fuel count source
        { reading with lines := commands :: reading.lines }

def Reading.ofText (t : Text) : Reading :=
  Reading.ofSource (16 * t.length + 64) (t.length + 1) (Source.ofText t)

end FormatConformance.Shell
