import ClassMetrics.Cohesion.MethodGraph
import ClassMetrics.Coupling.Graph
import ClassMetrics.Dependency.Graph

namespace ClassMetrics.Dot

def escapeChar (mark : Char) : List Char :=
  if mark = '\\' ∨ mark = '"' then ['\\', mark] else [mark]

def quotedChars (name : List Char) : List Char :=
  '"' :: name.flatMap escapeChar ++ ['"']

/-- A name in quotes, with a backslash before quotes and backslashes. -/
def quote (name : String) : String :=
  String.ofList (quotedChars name.toList)

def statement (text : String) : String := "  " ++ text ++ ";\n"

/-- Header, statements and closing brace. -/
def document (keyword name : String) (statements : List String) : String :=
  keyword ++ " " ++ quote name ++ " \x7b\n" ++ String.join (statements.map statement) ++ "\x7d\n"

def relationStatement (relation : Relation) : String :=
  quote relation.source ++ " -> " ++ quote relation.target ++
    " [label=" ++ quote relation.kind.name ++ ", color=" ++ quote relation.kind.colour ++ "]"

/-- Every relation with its kind as label and in the colour of its kind. -/
def ofCoupling (graph : CouplingGraph) : String :=
  document "digraph" "coupling"
    (graph.vertices.toList.map quote ++ graph.edges.toList.map relationStatement)

def arcStatement (highlighted : List Arc) (arc : Arc) : String :=
  quote arc.source ++ " -> " ++ quote arc.target ++
    if highlighted.contains arc then " [color=\"red\", style=\"bold\"]" else ""

/-- Highlighted arcs are red and bold. -/
def ofDependencies (highlighted : List Arc) (graph : DependencyGraph) : String :=
  document "digraph" "dependencies"
    (graph.vertices.map quote ++ graph.arcs.map (arcStatement highlighted))

def ofMethods (className : String) (methods : List String) (links : List (String × String)) : String :=
  document "graph" className
    (methods.map quote ++ links.map fun (first, second) => quote first ++ " -- " ++ quote second)

end ClassMetrics.Dot
