import EvalSession.Value

/-!
# Directories

A path is a list of names from the root down. Written paths may start at the root, at the working directory or at the
home directory; empty names and single dots in them say nothing, and two dots go up.
-/
namespace EvalSession.Settings

/-- The directories that exist, besides the root and the working directory, and where paths may start. -/
structure Places where
  home : String
  working : List String
  directories : List (List String)
  deriving DecidableEq, Repr

def namesOf (path : String) : List String := (path.splitOn "/").filter fun n => n ≠ "" && n ≠ "."

def isRooted (path : String) : Bool := path.toList.head? == some '/'

def writePath (names : List String) : String := "/" ++ "/".intercalate names

namespace Places

def isDirectory (p : Places) (path : List String) : Bool :=
  path.isEmpty || path == p.working || p.directories.contains path

/-- The directory that names lead to, if every directory on the way exists. -/
def walk (p : Places) : List String → List String → Option (List String)
  | here, [] => some here
  | here, name :: rest =>
    if name == ".." then p.walk here.dropLast rest
    else if p.isDirectory (here ++ [name]) then p.walk (here ++ [name]) rest else none

def start (p : Places) (path : String) : List String := if isRooted path then [] else p.working

/-- The directory a written path leads to. A leading tilde stands for the home directory; `none` in the outer place if
it is someone else's, which is not known. -/
def resolve (p : Places) (path : String) : Option (Option (List String)) :=
  match isRooted path, namesOf path with
  | false, first :: rest =>
    if first == "~" then some (p.walk (p.start p.home) (namesOf p.home ++ rest))
    else if first.toList.head? == some '~' then none
    else some (p.walk p.working (first :: rest))
  | _, names => some (p.walk (p.start path) names)

end Places

end EvalSession.Settings
