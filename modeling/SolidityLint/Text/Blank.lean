import SolidityLint.Text.CodeRange

/-!
# Blanks, trimming and tokens

A blank is a space, tab, line break, one of the four separator controls or a separator of any
script. Trimming and splitting go by blanks.
-/

namespace SolidityLint.Text

def blankRanges : List CodeRange :=
  [(9, 13), (28, 32), (133, 133), (160, 160), (5760, 5760), (8192, 8202), (8232, 8233),
    (8239, 8239), (8287, 8287), (12288, 12288)]

def isBlank (c : Char) : Bool :=
  inRanges blankRanges c.toNat

def trimStart (text : List Char) : List Char :=
  text.dropWhile isBlank

def trimEnd (text : List Char) : List Char :=
  (text.reverse.dropWhile isBlank).reverse

def trim (text : List Char) : List Char :=
  trimEnd (trimStart text)

/-- A maximal run of characters that are not blank, and where it starts. -/
structure Token where
  text : List Char
  offset : Nat
  deriving DecidableEq, Repr

/-- The tokens of a text whose first character stands at `offset`. A character joins the token
that starts right behind it. -/
def tokensFrom (offset : Nat) : List Char → List Token
  | [] => []
  | c :: rest =>
    let later := tokensFrom (offset + 1) rest
    if isBlank c then later
    else match later with
      | [] => [⟨[c], offset⟩]
      | token :: more =>
        if token.offset = offset + 1 then ⟨c :: token.text, offset⟩ :: more
        else ⟨[c], offset⟩ :: later

def tokens (text : List Char) : List Token :=
  tokensFrom 0 text

def words (text : List Char) : List (List Char) :=
  (tokens text).map Token.text

end SolidityLint.Text
