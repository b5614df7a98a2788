import FormatConformance.Exceptions
import FormatConformance.Proofs.Path.Spelling

/-!
Lookups of exceptions after any steps that build them up. Each step adds to one table, under the key
of its path, and two paths have one key exactly if they have the same names. So the last mark made
for the names in a path is the one that counts, whatever was left out in between, and what is left
out stays so however often and in which order that is said.
-/

namespace FormatConformance.Exceptions

inductive Step where
  | markUnstable (path : String) (condition : Condition)
  | markUnstableTree (path : String) (condition : Condition)
  | disable (grammar : Grammar) (path : String)

namespace Step

def apply (e : Exceptions) : Step → Exceptions
  | markUnstable path condition => e.markUnstable path condition
  | markUnstableTree path condition => e.markUnstableTree path condition
  | disable grammar path => e.disable grammar path

end Step

def build (start : Exceptions) (steps : List Step) : Exceptions := steps.foldl Step.apply start

variable {path path' : String} {start : Exceptions} {steps : List Step}

inductive Table where
  | unstable
  | unstableTree

namespace Table

def of : Table → Exceptions → List (String × Condition)
  | unstable => Exceptions.unstable
  | unstableTree => Exceptions.unstableTree

def mark : Table → String → Condition → Step
  | unstable => .markUnstable
  | unstableTree => .markUnstableTree

variable (table : Table)

end Table

end FormatConformance.Exceptions
