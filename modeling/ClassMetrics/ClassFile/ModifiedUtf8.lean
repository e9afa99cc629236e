namespace ClassMetrics.ModifiedUtf8

/-!
Text constants. A constant that is UTF-8 as a whole is that text. Otherwise it is read as UTF-16 code
units in one, two or three bytes each: NUL may take two bytes, and a character beyond the basic plane
takes two units of three bytes. Main definition: `decode?`.
-/

/-- The code units of the bytes, in reverse, in front of `units`. The upper bits of a following byte
are not looked at. -/
def unitsReverse (bytes : List UInt8) (units : List Nat) : Option (List Nat) :=
  match bytes with
  | [] => some units
  | lead :: rest =>
      if lead < 0x80 then
        unitsReverse rest (lead.toNat :: units)
      else if lead &&& 0xE0 = 0xC0 then
        match rest with
        | second :: rest =>
            unitsReverse rest (((lead &&& 0x1F).toNat * 64 + (second &&& 0x3F).toNat) :: units)
        | [] => none
      else if lead &&& 0xF0 = 0xE0 then
        match rest with
        | second :: third :: rest =>
            let unit := (lead &&& 0x0F).toNat * 4096 + (second &&& 0x3F).toNat * 64 + (third &&& 0x3F).toNat
            unitsReverse rest (unit :: units)
        | _ => none
      else
        none

def isHighSurrogate (unit : Nat) : Bool := 0xD800 ≤ unit && unit < 0xDC00

def isLowSurrogate (unit : Nat) : Bool := 0xDC00 ≤ unit && unit < 0xE000

/-- The character of a surrogate pair. -/
def combine (high low : Nat) : Char :=
  Char.ofNat (0x10000 + (high - 0xD800) * 1024 + (low - 0xDC00))

/-- The characters of UTF-16 units, in reverse, in front of `chars`; a lone surrogate is refused. -/
def charsReverse (units : List Nat) (chars : List Char) : Option (List Char) :=
  match units with
  | [] => some chars
  | unit :: rest =>
      if isHighSurrogate unit then
        match rest with
        | low :: rest => if isLowSurrogate low then charsReverse rest (combine unit low :: chars) else none
        | [] => none
      else if isLowSurrogate unit then
        none
      else
        charsReverse rest (Char.ofNat unit :: chars)

/-- Reads the bytes unit by unit. -/
def decodeUnits? (bytes : List UInt8) : Option String := do
  let units ← unitsReverse bytes []
  let chars ← charsReverse units.reverse []
  return String.ofList chars.reverse

def decode? (bytes : List UInt8) : Option String :=
  match String.fromUTF8? bytes.toByteArray with
  | some text => some text
  | none => decodeUnits? bytes

end ClassMetrics.ModifiedUtf8
