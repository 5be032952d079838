/-!
# Ranges of code points

A character class is a table of ranges of code points in ascending order, which
is searched by halving.
-/

namespace CommandHost.Text

/-- Looks for the range that holds a code point among the `size` ranges from `first`
on. The first argument bounds the number of halvings. -/
def inRanges (ranges : Array (Nat × Nat)) (code : Nat) : Nat → Nat → Nat → Bool
  | 0, _, _ => false
  | steps + 1, first, size =>
    if size = 0 then false
    else
      let half := size / 2
      match ranges[first + half]? with
      | none => false
      | some (low, high) =>
        if code < low then inRanges ranges code steps first half
        else if high < code then inRanges ranges code steps (first + half + 1) (size - half - 1)
        else true

/-- Whether a character belongs to the class of a table. -/
def isIn (ranges : Array (Nat × Nat)) (c : Char) : Bool :=
  inRanges ranges c.toNat ranges.size 0 ranges.size

end CommandHost.Text
