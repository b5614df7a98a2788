import FormatConformance.Text.Blank

/-! Switches that apply to a whole run, and how the environment sets them. -/

namespace FormatConformance

inductive EngineBuild where
  | localBuild
  | standaloneBuild
  deriving DecidableEq, Repr

def EngineBuild.select {α : Type} (build : EngineBuild) (forLocal forStandalone : α) : α :=
  match build with
  | localBuild => forLocal
  | standaloneBuild => forStandalone

structure Settings where
  root : String
  deep : Bool := false
  checkReaders : Bool := false
  build : EngineBuild := .localBuild
  deriving DecidableEq, Repr

namespace Settings

def lowered (t : Text) : String := Text.asString (t.map Char.toLower)

/-- Whether the value of a variable turns a switch on. Blanks around it mean nothing. -/
def isOn (value : String) : Bool :=
  !(["", "0", "false", "no", "off"].contains (lowered (Text.trim value.toList)))

def deepVariable : String := "FULL_TEST"

def checkReadersVariable : String := "CHECK_TEST_PARSERS"

def standaloneVariable : String := "TEST_STANDALONE"

/-- The settings under an environment; of two values of a variable the first one counts. -/
def ofEnvironment (root : String) (environment : List (String × String)) : Settings :=
  let enabled := fun (name : String) => (environment.lookup name).any isOn
  { root
    deep := enabled deepVariable
    checkReaders := enabled checkReadersVariable
    build := if enabled standaloneVariable then .standaloneBuild else .localBuild }

end Settings

end FormatConformance
