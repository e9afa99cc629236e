namespace ClassMetrics

inductive Violation where
  | cbo (score : Nat) (className : String) (limit : Nat)
  | pairCbo (score : Nat) (first second : String) (limit : Nat)
  | lcom (score : Nat) (className : String) (limit : Nat)
  /-- Cycles are not allowed; `arcs` edges would have to be cut. -/
  | cycles (arcs : Nat)
deriving Repr, DecidableEq

namespace Violation

/-- The number that exceeds its limit. -/
def score : Violation → Nat
  | .cbo score _ _ => score
  | .pairCbo score _ _ _ => score
  | .lcom score _ _ => score
  | .cycles arcs => arcs

def message : Violation → String
  | .cbo score className limit => s!"CBO {score} of {className} exceeds threshold {limit}"
  | .pairCbo score first second limit =>
      s!"pair CBO {score} of {first} <-> {second} exceeds threshold {limit}"
  | .lcom score className limit => s!"LCOM {score} of {className} exceeds threshold {limit}"
  | .cycles arcs => s!"dependency graph has cycles; {arcs} edge(s) to cut"

end Violation

end ClassMetrics
