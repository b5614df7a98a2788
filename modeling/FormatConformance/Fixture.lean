import FormatConformance.FileTree
import FormatConformance.Specification

/-!
Fixtures: the texts that are formatted. `loadFixtures` finds those of a directory, in the order of
their file names, and puts the snippets of a run behind them.
-/

namespace FormatConformance

structure Fixture where
  name : String
  path : Option String
  code : Text
  output : Option Text
  deriving DecidableEq, Repr

def specificationFile : String := "format.spec.json"

def leftovers : List String := ["debug.log"]

def snapshotExtension : String := "snap"

def isFixtureName (name : String) : Bool :=
  !(name.startsWith "." || name == specificationFile || leftovers.contains name ||
    Path.extension? name == some snapshotExtension)

namespace Snippet

def toFixture (snippet : Snippet) (index : Nat) : Fixture :=
  { name := "snippet: " ++ snippet.name.getD ("#" ++ toString index)
    path := none
    code := snippet.code.toList
    output := snippet.output.map String.toList }

end Snippet

def snippetFixtures (snippets : List Snippet) : List Fixture :=
  snippets.zipIdx.map fun (snippet, index) => snippet.toFixture index

def fileFixture (dir name : String) : FileNode → Except FileError Fixture
  | .text code | .script code => .ok ⟨name, some (Path.join dir name), code.toList, none⟩
  | _ => .error ⟨.readFile, Path.join dir name, .notText⟩

def sortByName (fixtures : List Fixture) : List Fixture :=
  fixtures.mergeSort fun a b => a.name ≤ b.name

def fixtureFiles (entries : List (String × FileNode)) : List (String × FileNode) :=
  entries.filter fun (name, node) => node ≠ .directory && isFixtureName name

def readFixtureFiles (tree : FileTree) (dir : String) : Except FileError (List Fixture) := do
  let entries ← tree.list dir
  let fixtures ← (fixtureFiles entries).mapM fun (name, node) => fileFixture dir name node
  return sortByName fixtures

/-- The fixture files of a directory by name, then the snippets in their order. -/
def loadFixtures (tree : FileTree) (dir : String) (snippets : List Snippet) :
    Except FileError (List Fixture) :=
  return (← readFixtureFiles tree dir) ++ snippetFixtures snippets

end FormatConformance
