import ClassMetrics.ClassFile.FormatError

namespace ClassMetrics

/-!
Type descriptors and internal names. Both spellings of a class lead to one class key: the
slash-separated name without array marks and object wrapping, with `_` for the nested-class mark `$`.
Types that are no classes have the empty key.
-/

/-- The name with every `$` read as `_`. -/
def collapseNested (name : List Char) : List Char :=
  name.map fun mark => if mark = '$' then '_' else mark

/-- One closing `;`, if there is one, is not part of the name. -/
def withoutTerminator (name : List Char) : List Char :=
  if name.getLast? = some ';' then name.dropLast else name

namespace Descriptor

def keyChars (descriptor : List Char) : List Char :=
  match descriptor.dropWhile (· == '[') with
  | 'L' :: object => collapseNested (withoutTerminator object)
  | _ => []

/-- The class key of a field, local or parameter type. -/
def classKey (descriptor : String) : String :=
  String.ofList (keyChars descriptor.toList)

def isPrimitive (mark : Char) : Bool :=
  "BCDFIJSZ".toList.contains mark

/-- Why a scan for parameter types ends without them. -/
inductive ScanFault where
  | malformed
  /-- A cut at an offset that is not between two characters. -/
  | insideCharacter
deriving Repr, DecidableEq

/-- Cuts are made at byte offsets, and none may fall inside a character. -/
def checkOffset (text : String) (offset : Nat) : Except ScanFault Unit :=
  if String.Pos.Raw.isValid text ⟨offset⟩ then .ok () else .error .insideCharacter

/-- The part of a text between two byte offsets. -/
def cut (text : String) (start stop : Nat) : Except ScanFault String :=
  if valid : String.Pos.Raw.IsValid text ⟨start⟩ ∧ String.Pos.Raw.IsValid text ⟨stop⟩ then
    .ok (text.extract ⟨⟨start⟩, valid.1⟩ ⟨⟨stop⟩, valid.2⟩)
  else
    .error .insideCharacter

/-- The number of bytes that a type has behind its array marks, where it starts with `lead`: one for a
primitive letter, and for a class those up to its `;`, which is looked for from `offset` on. -/
def elementWidth (text : String) (offset : Nat) (lead : UInt8) (rest : List UInt8) : Except ScanFault Nat :=
  match Char.ofUInt8 lead with
  | 'L' =>
      match checkOffset text offset with
      | .error fault => .error fault
      | .ok () =>
          match rest.idxOf? ';'.toUInt8 with
          | some between => .ok (between + 2)
          | none => .error .malformed
  | letter => if isPrimitive letter then .ok 1 else .error .malformed

/-- Splits a run of types, byte by byte. The type at hand starts at the byte `start`, its array marks reach to
`offset`, `bytes` are those from there on, and `done` holds the types already split off. -/
def scanTypes (text : String) (start offset : Nat) (done : Array String) (bytes : List UInt8) :
    Except ScanFault (Array String) :=
  match bytes with
  | [] => if start = offset then .ok done else .error .malformed
  | lead :: rest =>
      if lead = '['.toUInt8 then
        scanTypes text start (offset + 1) done rest
      else
        match elementWidth text offset lead rest with
        | .error fault => .error fault
        | .ok width =>
            match cut text start (offset + width) with
            | .error fault => .error fault
            | .ok type => scanTypes text (offset + width) (offset + width) (done.push type) (rest.drop (width - 1))
termination_by bytes.length
decreasing_by
  · simp
  · simp only [List.length_drop, List.length_cons]
    omega

/-- The text between the opening `(` and the first `)`. -/
def parameterText? : List Char → Option (List Char)
  | '(' :: rest => if rest.contains ')' then some (rest.takeWhile (· != ')')) else none
  | _ => none

def splitTypes (text : String) : Except ScanFault (Array String) :=
  scanTypes text 0 0 #[] text.toUTF8.data.toList

/-- One raw descriptor per parameter of a method descriptor. -/
def parameters (descriptor : String) : Except FormatError (List String) :=
  match parameterText? descriptor.toList with
  | none => .error (.invalidDescriptor descriptor)
  | some text =>
      match splitTypes (String.ofList text) with
      | .ok types => .ok types.toList
      | .error _ => .error (.invalidDescriptor descriptor)

end Descriptor

/-- The class key of an internal name, which may be an array descriptor. -/
def InternalName.classKey (name : String) : String :=
  match name.toList with
  | '[' :: _ => Descriptor.classKey name
  | marks => String.ofList (collapseNested marks)

end ClassMetrics
