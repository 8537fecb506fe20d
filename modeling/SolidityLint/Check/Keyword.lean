import SolidityLint.Check.Basic

/-!
# Missing parentheses and wrong keywords
-/

namespace SolidityLint.Check

open Pattern

def strayCharacter : Pattern :=
  all [start, blanks, word, blanks,
    noneOf [.inClass .word, .char '(', .inClass .blank, .char '{', .char ';', .char '}'], finish]

/-- A call without parentheses. Assignments, literals of mappings and structs, and the last line of
a list of arguments are left alone. -/
def missingParentheses (here : Context) : List Mark :=
  let line := here.line
  if strayCharacter.opens line && !Line.endsWithAny [','] (Text.trim line) && !line.contains '=' &&
      !line.contains ':' && !here.previous.head?.any (·.endsWithAny [',', '(']) then
    [⟨⟨line.length - 1, line.length - 1 + 1⟩, "Missing parentheses for function call.",
      .missingParentheses⟩]
  else []

def wrongKeywordPatterns : List (Pattern × String) :=
  [(all [boundary, .group 1 (all [caseless "var", blanks1])],
      "Use specific data type instead of 'var'"),
    (all [boundary, .group 1 (all [caseless "suicide", blanks, char '('])],
      "'suicide' is deprecated, use 'selfdestruct'")]

def wrongKeywords (here : Context) : List Mark :=
  wrongKeywordPatterns.filterMap fun (pattern, message) =>
    ((pattern.search? here.code).bind (·.group? 1)).map (⟨·, message, .wrongKeyword⟩)

end SolidityLint.Check
