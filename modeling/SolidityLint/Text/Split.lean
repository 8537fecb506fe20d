/-!
# Splitting text at separators
-/

namespace SolidityLint.Text

def splitBy (separates : Char → Bool) : List Char → List (List Char)
  | [] => [[]]
  | c :: rest =>
    let later := splitBy separates rest
    if separates c then [] :: later
    else match later with
      | [] => [[c]]
      | part :: parts => (c :: part) :: parts

def listItems (offset : Nat) (text : List Char) : List (Nat × List Char) :=
  go offset (splitBy (· == ',') text)
where
  go (offset : Nat) : List (List Char) → List (Nat × List Char)
    | [] => []
    | part :: parts => (offset, part) :: go (offset + part.length + 1) parts

end SolidityLint.Text
