import ClusterTriage.Text.Substitution

/-!
# Paths

A path is text. It is absolute if it starts with a slash; otherwise it starts in the working
directory. This file holds what can be said of a path without looking at any file.
-/

namespace ClusterTriage
namespace Path

def isAbsolute (path : String) : Bool := path.toList.head? == some '/'

/-- Whether a path ends in a slash, so that it can only name a directory. -/
def namesDirectory (path : String) : Bool := path.toList.getLast? == some '/'

def names (path : String) : List String :=
  (Text.splitString '/' path).filter (· ≠ "")

/-- `name` as seen from the directory `base`. An absolute name stands on its own. -/
def join (base name : String) : String :=
  if isAbsolute name then name
  else if base = "" || namesDirectory base then base ++ name
  else base ++ "/" ++ name

/-- The path without its last name, or `none` where there is no name to leave out. -/
def parent? (path : String) : Option String :=
  match (names path).reverse with
  | [] => none
  | _ :: rest =>
    let start := if isAbsolute path then "/" else ""
    some (start ++ "/".intercalate rest.reverse)

end Path
end ClusterTriage
