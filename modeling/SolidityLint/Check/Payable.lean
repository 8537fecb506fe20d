import SolidityLint.Check.Basic

/-!
# Functions that should accept value

In a document that moves value somewhere, every function header without `payable` is marked, unless
the function only reads.
-/

namespace SolidityLint.Check

open Pattern

def functionHeader : Pattern :=
  all [boundary, caseless "function", blanks1, word, blanks, char '(', many (noneOf [.char ')']),
    char ')', blanks,
    optional (all [caselessAny ["public", "private", "internal", "external"], blanks])]

def payableWord : Pattern := all [boundary, caseless "payable", boundary]

def readOnlyWord : Pattern := all [boundary, caselessAny ["view", "pure"], boundary]

def missingPayable (here : Context) : List Mark :=
  match functionHeader.search? here.code with
  | none => []
  | some found =>
    if payableWord.occursIn here.code || readOnlyWord.occursIn here.code then []
    else
      [⟨found.span, "Function that handles ETH should have 'payable' modifier.", .missingPayable⟩]

end SolidityLint.Check
