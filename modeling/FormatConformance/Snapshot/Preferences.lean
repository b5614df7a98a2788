import FormatConformance.Workplace
import FormatConformance.Yaml.Reader

/-! Preferences for baselines: a file of a workspace says how they are kept up to date where the
environment does not. -/

namespace FormatConformance

structure SnapshotPreferences where
  update : Option Text := none
  forced : Bool := false
  lenient : Bool := false
  exact : Bool := false
  output : Option Text := none
  deriving DecidableEq, Repr

namespace SnapshotPreferences

def fileNames : List String := [".config/insta.yaml", "insta.yaml", ".insta.yaml"]

/-- The preferences in the value of such a file. What is not of the expected kind says nothing. -/
def ofYaml (y : Yaml) : SnapshotPreferences :=
  let value? (key : String) : Option Yaml := (y.get? "behavior").bind (·.get? key)
  let isOn (key : String) : Bool := (value? key).bind Yaml.boolean? == some true
  { update := (value? "update").bind Yaml.text?
    forced := isOn "force_update"
    lenient := isOn "force_pass"
    exact := isOn "require_full_match"
    output := (value? "output").bind Yaml.text? }

def ofWorkspace? (place : Workplace) (directory : String) : Option SnapshotPreferences :=
  match fileNames.findSome? fun name =>
    (place.node? (Path.join directory name)).bind FileNode.content? with
  | none => some {}
  | some content => ((Yaml.read? content.toList).filter Yaml.isUsable).map ofYaml

end SnapshotPreferences

end FormatConformance
