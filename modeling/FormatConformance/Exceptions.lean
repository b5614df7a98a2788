import FormatConformance.Options
import FormatConformance.Path

/-!
Known exceptions to the checks: fixtures whose output does not settle, fixtures whose tree changes,
and grammars that are left out for a directory or a fixture. All three are looked up by the names
in a path, so that two spellings of a path are one exception.
-/

namespace FormatConformance

abbrev Condition := Options → Bool

structure Exceptions where
  unstable : List (String × Condition) := []
  unstableTree : List (String × Condition) := []
  disabled : List (Grammar × String) := []

namespace Exceptions

def key (path : String) : String := Path.ofPieces (Path.names path)

/-- The last entry made for a path is the one that counts. -/
def holds (table : List (String × Condition)) (path : String) (options : Options) : Bool :=
  match table.lookup (key path) with
  | some condition => condition options
  | none => false

def markUnstable (e : Exceptions) (path : String) (condition : Condition) : Exceptions :=
  { e with unstable := (key path, condition) :: e.unstable }

def markUnstableTree (e : Exceptions) (path : String) (condition : Condition) : Exceptions :=
  { e with unstableTree := (key path, condition) :: e.unstableTree }

def disable (e : Exceptions) (grammar : Grammar) (path : String) : Exceptions :=
  { e with disabled := (grammar, key path) :: e.disabled }

def isUnstable (e : Exceptions) (fixture : String) (options : Options) : Bool :=
  holds e.unstable fixture options

def isTreeUnstable (e : Exceptions) (fixture : String) (options : Options) : Bool :=
  holds e.unstableTree fixture options

def isDisabled (e : Exceptions) (grammar : Grammar) (path : String) : Bool :=
  e.disabled.contains (grammar, key path)

def always : Condition := fun _ => true

def withoutSemicolons : Condition := Options.dropsSemicolons

def wrappingProse : Condition := fun options =>
  (options.get? "proseWrap").bind Json.string? == some "always"

def knownUnstable : List (String × Condition) :=
  [("js/class-comment/misc.js", always),
    ("js/comments/dangling_array.js", withoutSemicolons),
    ("js/comments/jsx.js", withoutSemicolons),
    ("js/comments/return-statement.js", always),
    ("js/comments/tagged-template-literal.js", always),
    ("markdown/spec/example-234.md", always),
    ("markdown/spec/example-235.md", always),
    ("html/multiparser/js/script-tag-escaping.html", always),
    ("js/multiparser-markdown/codeblock.js", wrappingProse),
    ("js/no-semi/comments.js", withoutSemicolons),
    ("flow/no-semi/comments.js", withoutSemicolons),
    ("typescript/prettier-ignore/mapped-types.ts", always),
    ("js/comments/html-like/comment.js", always),
    ("js/for/continue-and-break-comment-without-blocks.js", always),
    ("typescript/satisfies-operators/comments-unstable.ts", always)]

def mainGrammarOnly : List String := ["js/comments-closure-typecast"]

def misreadAccessors : List String :=
  ["js/decorator-auto-accessors/basic.js",
    "js/decorator-auto-accessors/computed.js",
    "js/decorator-auto-accessors/private.js",
    "js/decorator-auto-accessors/static-computed.js",
    "js/decorator-auto-accessors/static-private.js",
    "js/decorator-auto-accessors/static.js",
    "js/decorator-auto-accessors/with-semicolon-1.js",
    "js/decorator-auto-accessors/with-semicolon-2.js",
    "js/babel-plugins/decorator-auto-accessors.js"]

def known : Exceptions :=
  let marked := knownUnstable.foldl (fun e (path, condition) => e.markUnstable path condition) {}
  let limited := mainGrammarOnly.foldl
    (fun e path => Grammar.babel.alternates.foldl (fun e grammar => e.disable grammar path) e)
    marked
  misreadAccessors.foldl (fun e path => e.disable .meriyah path) limited

end Exceptions

end FormatConformance
