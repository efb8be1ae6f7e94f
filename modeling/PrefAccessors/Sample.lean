import PrefAccessors.ValueType

/-! # A sample document

Documents of any size for measurements. They have one group, whose entries go
through the types of the catalog in turn; every other entry has a default.
-/

namespace PrefAccessors.Sample

def entryType (position : Nat) : ValueType :=
  ValueType.all.getD (position % ValueType.all.length) .boolean

/-- A default for a type, as it is written in an attribute. -/
def literal : ValueType → String
  | .boolean => "true"
  | .float => "1.5f"
  | .integer => "42"
  | .long => "42L"
  | .string => "&quot;text&quot;"
  | .stringSet => "null"

def entryName (position : Nat) : String :=
  "SETTING_" ++ toString position ++ "_" ++
    String.ofList ((entryType position).spelling.toList.map Char.toUpper)

def entryLine (position : Nat) : String :=
  let type := entryType position
  "    <entry name=\"" ++ entryName position ++ "\" type=\"" ++ type.spelling ++ "\"" ++
    (if position % 2 = 0 then " default=\"" ++ literal type ++ "\"" else "") ++ "/>\n"

/-- The sample document with a number of entries. -/
def document (entries : Nat) (chained : Bool) : String :=
  "<preferences name=\"BenchSettings\" package=\"com.example.bench\" editor=\"" ++
    (if chained then "chained" else "immediate") ++ "\">\n" ++
    String.join ((List.range entries).map entryLine) ++ "</preferences>\n"

end PrefAccessors.Sample
