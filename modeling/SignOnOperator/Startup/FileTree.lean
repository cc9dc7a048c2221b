/-!
# Files

The files and directories below the directory in which the operator runs, and what a relative path names among them.
-/
namespace SignOnOperator

/-- Files and directories, each as the names on the way to it. -/
structure FileTree where
  files : List (List String)
  directories : List (List String)

namespace FileTree

/-- The names on a path, between its slashes. -/
def components (path : String) : List String := path.splitOn "/"

def ofPaths (files directories : List String) : FileTree := ⟨files.map components, directories.map components⟩

/-- Whether a directory was given, or anything lies in it. -/
def isDirectory (tree : FileTree) (names : List String) : Bool :=
  names.isEmpty || (tree.files ++ tree.directories).any fun path =>
    names.isPrefixOf path && (path.length > names.length || tree.directories.contains path)

/-- Whether a path from a directory leads to a file.  Only a directory can be walked on from. -/
def leadsToFile (tree : FileTree) : List String → List String → Bool
  | _, [] => false
  | here, name :: rest =>
    if name = "" ∨ name = "." then leadsToFile tree here rest
    else if name = ".." then !here.isEmpty && leadsToFile tree here.dropLast rest
    else
      let there := here ++ [name]
      if tree.isDirectory there then leadsToFile tree there rest
      else rest.isEmpty && tree.files.contains there

/-- Whether a path names a regular file.  What lies outside of the tree is not known to be one. -/
def isFile (tree : FileTree) (path : String) : Bool :=
  !path.startsWith "/" && tree.leadsToFile [] (components path)

end FileTree
end SignOnOperator
