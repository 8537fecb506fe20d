/-!
# Solidity names

A name starts with an ASCII letter or an underscore and goes on with ASCII letters, digits and
underscores.
-/

namespace SolidityLint.Text

def startsName (c : Char) : Bool :=
  c.isAlpha || c == '_'

def continuesName (c : Char) : Bool :=
  c.isAlphanum || c == '_'

def isName : List Char → Bool
  | [] => false
  | c :: rest => startsName c && rest.all continuesName

/-- The longest name at the start of a text, empty if there is none. -/
def leadingName : List Char → List Char
  | [] => []
  | c :: rest => if startsName c then c :: rest.takeWhile continuesName else []

def firstName? (text : List Char) : Option (Nat × List Char) :=
  match leadingName (text.dropWhile (!startsName ·)) with
  | [] => none
  | name => some ((text.takeWhile (!startsName ·)).length, name)

def isKeywordOf (keywords : List String) (word : List Char) : Bool :=
  keywords.any fun keyword => keyword.toList == word.map Char.toLower

end SolidityLint.Text
