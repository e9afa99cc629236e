import ClassMetrics.Data.Lists
import ClassMetrics.Value.Basic

namespace ClassMetrics.Toml

/-!
Tables while a document is read. How a table came to be decides what may still be added to it: one that a
header names is closed to a second header and to dotted keys, one that only stands above a header may get its
own header later, and one made by a dotted key grows by dotted keys alone.
-/

inductive Origin where
  /-- Stands above a table that a header names. -/
  | implied
  | dotted
  | header
deriving Repr, DecidableEq

inductive Item where
  | value (content : Value)
  | table (origin : Origin) (entries : List (String × Item))
  /-- Tables of one name, latest last. -/
  | tables (elements : List (List (String × Item)))
deriving Repr

abbrev Entries := List (String × Item)

namespace Entries

def find? (entries : Entries) (key : String) : Option Item := entries.lookup key

def put (entries : Entries) (key : String) (item : Item) : Entries :=
  entries.filter (·.1 != key) ++ [(key, item)]

/-- The value of a key with the keys before it, inside a table. The table that takes it has to be made by
dotted keys, unless no key stands before. -/
def assign? (entries : Entries) (dotted : Bool) (key : String) (content : Value) :
    List String → Option Entries
  | [] =>
      if dotted && (entries.find? key).isNone then some (entries.put key (.value content)) else none
  | above :: path =>
      match entries.find? above with
      | none => do return entries.put above (.table .dotted (← assign? [] true key content path))
      | some (.value _) => none
      | some (.tables elements) => do
          let last ← elements.getLast?
          return entries.put above (.tables (elements.dropLast ++ [← assign? last false key content path]))
      | some (.table origin inner) =>
          if origin = .header then none
          else do
            return entries.put above (.table origin (← assign? inner (origin = .dotted) key content path))

/-- Changes the table at the end of a path. Tables on the way that are missing are made. -/
def changeAt? (change : Entries → Option Entries) (entries : Entries) : List String → Option Entries
  | [] => change entries
  | above :: path =>
      match entries.find? above with
      | none => do return entries.put above (.table .implied (← changeAt? change [] path))
      | some (.value _) => none
      | some (.tables elements) => do
          let last ← elements.getLast?
          return entries.put above (.tables (elements.dropLast ++ [← changeAt? change last path]))
      | some (.table origin inner) => do
          return entries.put above (.table origin (← changeAt? change inner path))

/-- A header that names one table. -/
def declare? (key : String) (entries : Entries) : Option Entries :=
  match entries.find? key with
  | none => some (entries.put key (.table .header []))
  | some (.table .implied inner) => some (entries.put key (.table .header inner))
  | _ => none

/-- A header that adds a table to those of its name. -/
def append? (key : String) (entries : Entries) : Option Entries :=
  match entries.find? key with
  | none => some (entries.put key (.tables [[]]))
  | some (.tables elements) => some (entries.put key (.tables (elements ++ [[]])))
  | _ => none

end Entries

mutual

def Item.toValue : Item → Value
  | .value content => content
  | .table _ entries => .object (fieldsOf entries)
  | .tables elements => .list (recordsOf elements)

def fieldsOf : List (String × Item) → List Value.Field
  | [] => []
  | (key, item) :: rest => (key, item.toValue) :: fieldsOf rest

def recordsOf : List (List (String × Item)) → List Value
  | [] => []
  | entries :: rest => .object (fieldsOf entries) :: recordsOf rest

end

end ClassMetrics.Toml
