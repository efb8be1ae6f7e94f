/-! # Case mappings

Most characters that have another case are mapped to a single character, and
neighbouring ones are mapped by the same shift. A mapping therefore consists of
runs of shifted code points, together with the few characters whose image has
several characters. Everything else is mapped to itself.
-/

namespace PrefAccessors.Text

/-- The code points `first`, `first + stride`, … up to `last`, mapped in order to
`image`, `image + stride`, …. -/
structure CaseRun where
  first : Nat
  last : Nat
  stride : Nat
  image : Nat

/-- A character mapping: characters with a longer image, and runs, both in increasing order. -/
structure CaseMapping where
  expansions : List (Nat × List Nat)
  runs : List CaseRun

/-- The longer image of a code point, if the table has one. -/
def expansion? : List (Nat × List Nat) → Nat → Option (List Nat)
  | [], _ => none
  | (source, image) :: rest, point =>
    if point < source then none
    else if point = source then some image
    else expansion? rest point

/-- The image of a code point under the runs; a code point in no run is its own image. -/
def shift : List CaseRun → Nat → Nat
  | [], point => point
  | run :: rest, point =>
    if point < run.first then point
    else if point ≤ run.last ∧ (point - run.first) % run.stride = 0 then
      run.image + (point - run.first)
    else shift rest point

/-- The image of a character. -/
def CaseMapping.apply (mapping : CaseMapping) (char : Char) : List Char :=
  match expansion? mapping.expansions char.toNat with
  | some image => image.map Char.ofNat
  | none => [Char.ofNat (shift mapping.runs char.toNat)]

end PrefAccessors.Text
