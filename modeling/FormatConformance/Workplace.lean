import FormatConformance.FileTree

/-! Workplaces: a file tree together with the directory that relative paths start from. -/

namespace FormatConformance

structure Workplace where
  tree : FileTree
  directory : List String

namespace Workplace

def resolve (place : Workplace) (path : String) : Except FileTrouble (List String) :=
  place.tree.resolveFrom place.directory path

def canonical (place : Workplace) (path : String) : Except FileTrouble String :=
  (place.resolve path).map fun names => "/" ++ Path.ofPieces names

def node? (place : Workplace) (path : String) : Option FileNode :=
  (place.resolve path).toOption.bind place.tree.node?

def withTree (place : Workplace) (tree : FileTree) : Workplace := { place with tree := tree }

end Workplace

end FormatConformance
