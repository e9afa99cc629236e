import ClassMetrics.Cohesion.Analysis
import ClassMetrics.Dependency.Analysis
import ClassMetrics.Dot.Write
import ClassMetrics.Failure
import ClassMetrics.Files.FileSystem
import ClassMetrics.Value.Json

namespace ClassMetrics

structure Artifact where
  name : String
  content : String
deriving Repr, DecidableEq

namespace Artifact

def scoresValue (scores : List (String × Nat)) : Value :=
  .object (scores.map fun (name, score) => (name, .nat score))

def pairsValue (pairs : List PairScore) : Value :=
  .list (pairs.map fun pair => .list [.text pair.first, .text pair.second, .nat pair.score])

def arcsValue (arcs : List Arc) : Value :=
  .list (arcs.map fun arc => .texts [arc.source, arc.target])

def ofCoupling (analysis : CouplingAnalysis) : List Artifact := [
  ⟨"sca-coupling-cbo-results.json", (scoresValue analysis.scores).pretty⟩,
  ⟨"sca-coupling-pair-cbo-results.json", (pairsValue analysis.pairs).pretty⟩,
  ⟨"coupling_graph.dot", Dot.ofCoupling analysis.graph⟩]

/-- The class name with `_` for `/`, so that the file stands in the directory itself. -/
def methodGraphName (className : String) : String :=
  String.ofList (className.toList.map fun mark => if mark = '/' then '_' else mark) ++ "_lcom_graph.dot"

def ofCohesion (analysis : CohesionAnalysis) : List Artifact :=
  ⟨"sca-cohesion-results.json", (scoresValue analysis.scores).pretty⟩ ::
    analysis.classes.map fun entry =>
      ⟨methodGraphName entry.className, Dot.ofMethods entry.className entry.methods entry.links⟩

/-- The arcs to cut are highlighted in the graph. -/
def ofCycles (analysis : CycleAnalysis) : List Artifact := [
  ⟨"sca-cycles-results.json", (arcsValue analysis.feedbackArcs).pretty⟩,
  ⟨"dependency_graph.dot", Dot.ofDependencies analysis.feedbackArcs analysis.graph⟩]

/-- Writes result files into a directory, one after the other, up to the first that is refused. -/
def writeAll (directory : String) (files : FileSystem) :
    List Artifact → FileSystem × Except Failure (List String)
  | [] => (files, .ok [])
  | artifact :: rest =>
      match files.writeText (Path.join directory artifact.name) artifact.content with
      | .error reason => (files, .error (.io reason))
      | .ok files =>
          let (files, written) := writeAll directory files rest
          (files, written.map (artifact.name :: ·))

end Artifact

end ClassMetrics
