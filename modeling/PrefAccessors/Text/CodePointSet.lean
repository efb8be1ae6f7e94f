/-! # Sets of code points

A character property is a set of code points, written as the increasing list of
its boundaries: the first code point inside, the first one after it that is
outside, the next one inside, and so on. Membership counts boundaries, so each
table is read from its start and a small code point is decided after few steps.
-/

namespace PrefAccessors.Text

/-- A set of code points given by its boundaries in increasing order. -/
structure CodePointSet where
  boundaries : List Nat

/-- Whether an odd number of the leading boundaries lie at or below `point`. -/
def oddBelow : List Nat → Nat → Bool
  | [], _ => false
  | boundary :: rest, point => if point < boundary then false else !oddBelow rest point

/-- A code point is inside after each boundary with an even number of boundaries before it. -/
def CodePointSet.contains (set : CodePointSet) (char : Char) : Bool :=
  oddBelow set.boundaries char.toNat

end PrefAccessors.Text
