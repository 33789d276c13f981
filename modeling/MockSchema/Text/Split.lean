/-!
# Taking text apart
-/

namespace MockSchema.Text

/-- The text before and after the first occurrence of another text. -/
def splitAtFirst (mark : List Char) : List Char → Option (List Char × List Char)
  | [] => none
  | c :: r =>
    if mark.isPrefixOf (c :: r) then some ([], (c :: r).drop mark.length)
    else (splitAtFirst mark r).map fun (a, b) => (c :: a, b)

/-- Drops characters that satisfy a condition from both ends. -/
def trim (p : Char → Bool) (cs : List Char) : List Char :=
  ((cs.dropWhile p).reverse.dropWhile p).reverse

end MockSchema.Text
