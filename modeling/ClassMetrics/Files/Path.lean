namespace ClassMetrics

namespace Path

/-- All that stands between slashes, empty texts included. -/
def pieces (path : String) : List String :=
  (path.toList.splitOn '/').map String.ofList

def isAbsolute (path : String) : Bool :=
  path.toList.head? == some '/'

/-- Pieces that lead somewhere: neither empty nor `.`. -/
def steps (path : String) : List String :=
  (pieces path).filter fun piece => piece != "" && piece != "."

/-- A path as seen from a directory. An absolute one stays as it is. -/
def join (base path : String) : String :=
  if isAbsolute path || base == "" then path
  else if base.toList.getLast? == some '/' then base ++ path
  else base ++ "/" ++ path

/-- The last name of a path, unless the path ends by going up or has no name. -/
def fileName? (path : String) : Option String :=
  match (steps path).getLast? with
  | some ".." => none
  | name => name

end Path

end ClassMetrics
