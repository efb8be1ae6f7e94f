/-! # Character and entity references

A reference stands between `&` and `;`. With `#` it names a code point in decimal
digits, or in hexadecimal digits after an `x`; without it, it names one of five
predefined entities. Attribute values are unescaped as a whole, while the
content of an element is read reference by reference.
-/

namespace PrefAccessors.Markup

/-- Why a character reference does not denote a character. -/
inductive CharacterFault
  | signed
  | noDigits
  | notDigit
  | tooLarge
  | null
  | notCharacter (code : Nat)
  deriving DecidableEq, Repr

def CharacterFault.message : CharacterFault → String
  | signed => "unexpected number sign"
  | noDigits => "cannot parse integer from empty string"
  | notDigit => "invalid digit found in string"
  | tooLarge => "number too large to fit in target type"
  | null => "0x0 character is not permitted in XML"
  | notCharacter code => "`" ++ toString code ++ "` is not a valid codepoint"

/-- Why a reference cannot be resolved. -/
inductive ReferenceFault
  | character (fault : CharacterFault)
  | unknownEntity (name : String)
  deriving DecidableEq, Repr

/-- The value of a digit in a radix of at most 16. -/
def digitValue? (radix : Nat) (char : Char) : Option Nat :=
  let value :=
    if '0' ≤ char ∧ char ≤ '9' then char.toNat - '0'.toNat
    else if 'a' ≤ char ∧ char ≤ 'f' then char.toNat - 'a'.toNat + 10
    else if 'A' ≤ char ∧ char ≤ 'F' then char.toNat - 'A'.toNat + 10
    else radix
  if value < radix then some value else none

/-- Reads digits after a number that is already read. A code is below `2 ^ 32`, and of
several faults the leftmost one counts. -/
def readDigits (radix : Nat) (number : Nat) : List Char → Except CharacterFault Nat
  | [] => .ok number
  | char :: rest =>
    match digitValue? radix char with
    | none => .error .notDigit
    | some value =>
      if 2 ^ 32 ≤ number * radix + value then .error .tooLarge
      else readDigits radix (number * radix + value) rest

def readNumber (radix : Nat) : List Char → Except CharacterFault Nat
  | [] => .error .noDigits
  | char :: rest =>
    if char = '+' ∨ char = '-' then .error .signed else readDigits radix 0 (char :: rest)

/-- Reads the code point of a character reference, without its `#`. -/
def readCode : List Char → Except CharacterFault Nat
  | 'x' :: digits => readNumber 16 digits
  | digits => readNumber 10 digits

/-- The character of a code point other than zero. -/
def characterOfCode (code : Nat) : Except CharacterFault Char :=
  if code = 0 then .error .null
  else if code.isValidChar then .ok (Char.ofNat code)
  else .error (.notCharacter code)

/-- The character that a predefined entity stands for. -/
def predefined? : List Char → Option Char
  | ['l', 't'] => some '<'
  | ['g', 't'] => some '>'
  | ['a', 'm', 'p'] => some '&'
  | ['a', 'p', 'o', 's'] => some '\''
  | ['q', 'u', 'o', 't'] => some '"'
  | _ => none

/-- The character that a reference denotes, given what stands between `&` and `;`. -/
def resolveReference : List Char → Except ReferenceFault Char
  | '#' :: digits =>
    match readCode digits >>= characterOfCode with
    | .ok char => .ok char
    | .error fault => .error (.character fault)
  | name =>
    match predefined? name with
    | some char => .ok char
    | none => .error (.unknownEntity (String.ofList name))

/-- Unescapes a value of which an unfinished reference may already be read. The value must
not end in a reference, and a reference must not contain `&`. -/
def unescapeFrom (reference? : Option (List Char)) : List Char → Option (List Char)
  | [] => if reference?.isNone then some [] else none
  | char :: rest =>
    match reference? with
    | none =>
      if char = '&' then unescapeFrom (some []) rest
      else (unescapeFrom none rest).map (char :: ·)
    | some name =>
      if char = ';' then
        match resolveReference name with
        | .ok resolved => (unescapeFrom none rest).map (resolved :: ·)
        | .error _ => none
      else if char = '&' then none
      else unescapeFrom (some (name ++ [char])) rest

/-- The value with every reference replaced by its character, if all can be resolved. -/
def unescape? (value : List Char) : Option (List Char) := unescapeFrom none value

end PrefAccessors.Markup
