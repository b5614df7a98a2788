import FormatConformance.Text.Basic

/-!
Shell scripts as they are read: words with what is expanded in them, redirections and commands.
All texts in them are byte texts.
-/

namespace FormatConformance.Shell

inductive Trim where
  | shortestStart
  | longestStart
  | shortestEnd
  | longestEnd
  deriving DecidableEq, Repr

inductive Fallback where
  | value
  | assigned
  | complaint
  | alternative
  deriving DecidableEq, Repr

inductive OpenMode where
  | reading
  | writing
  | appending
  deriving DecidableEq, Repr

mutual

/-- A piece of a word. Quoted pieces are neither split nor matched as patterns. -/
inductive Piece where
  | text (content : Text) (quoted : Bool)
  | parameter (name : String) (quoted : Bool)
  | length (name : String) (quoted : Bool)
  /-- An empty value counts as missing if `emptyToo`. -/
  | fallback (name : String) (kind : Fallback) (emptyToo : Bool) (word : List Piece)
      (quoted : Bool)
  | trimmed (name : String) (trim : Trim) (pattern : List Piece) (quoted : Bool)
  | printed (script : List Command) (quoted : Bool)
  | computed (expression : List Piece) (quoted : Bool)
  | senseless

inductive Redirect where
  | file (descriptor : Nat) (mode : OpenMode) (path : List Piece)
  | copy (descriptor : Nat) (source : List Piece)
  | document (descriptor : Nat) (content : List Piece)

inductive Command where
  | simple (line : Nat) (assignments : List (String × List Piece)) (words : List (List Piece))
      (redirects : List Redirect)
  | pipeline (commands : List Command)
  | negated (command : Command)
  | both (first second : Command)
  | either (first second : Command)
  | branch (test yes no : List Command)
  | choice (line : Nat) (subject : List Piece)
      (clauses : List (List (List Piece) × List Command))
  | loop (isUntil : Bool) (test body : List Command)
  | each (line : Nat) (name : String) (words : List (List Piece)) (body : List Command)
  | group (script : List Command)
  | subshell (script : List Command)
  | background (command : Command)
  | define (name : String) (body : Command)
  | redirected (command : Command) (redirects : List Redirect)

end

abbrev Word := List Piece

abbrev Script := List Command

structure SyntaxFault where
  line : Nat
  message : Text
  deriving DecidableEq, Repr

/-- A script that was read up to a fault. The commands of a line are carried out before the next
line is read, so that a fault does not undo the lines in front of it. -/
structure Reading where
  lines : List Script
  fault : Option SyntaxFault

end FormatConformance.Shell
