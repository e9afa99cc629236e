import ClassMetrics.Data.Lists

namespace ClassMetrics

inductive Value where
  | null
  | bool (value : Bool)
  | int (value : Int)
  | float (value : Float)
  | text (value : String)
  | list (items : List Value)
  | record (fields : List (String × Value))
deriving Repr, Inhabited

namespace Value

abbrev Field := String × Value

/-- A record with the given fields; of equal keys the last one counts. -/
def object (fields : List Field) : Value :=
  .record (Keyed.ofList fields)

def nat (value : Nat) : Value := .int value

def texts (values : List String) : Value := .list (values.map .text)

def isRecord : Value → Bool
  | .record _ => true
  | _ => false

end Value

end ClassMetrics
