import SolidityLint.Check.Basic
import SolidityLint.Line.Mapping
import SolidityLint.Line.Vocabulary
import SolidityLint.Text.Name

/-!
# Missing semicolons

Declarations, statements, the last line of a statement over several lines, and names that stand
alone. The mark is on the last character of the code.
-/

namespace SolidityLint.Check

open Pattern Text Vocabulary

def semicolonMark (here : Context) (message : String) : Mark :=
  ⟨⟨here.line.lastCodeColumn, here.line.lastCodeColumn + 1⟩, message, .missingSemicolon⟩

def declarationMessage : String := "Missing semicolon at end of declaration."

def statementMessage : String := "Missing semicolon at end of statement."

def listGoesOn (here : Context) (text : Line) : Bool :=
  text.endsWithAny [',', '('] || here.next?.any ([')'].isPrefixOf ·)

def mentionsFunction (text : Line) : Bool :=
  "function ".toList.isPrefixOf text || (literal " function ").occursIn text

def namesDeclared (token : List Char) : Bool :=
  !isKeywordOf modifiers token && !typeToken.opens token && !arrayToken.occursIn token &&
    (firstName? token).isSome

def leavesNameOpen (text : Line) : Bool :=
  (words (Line.maskMappings text)).tail.any namesDeclared

/-- A line that starts with a type and leaves a name without a terminator. -/
def openDeclaration (here : Context) : List Mark :=
  let text := here.trimmedCode
  if leadingType.opens text && !mentionsFunction text && !text.isTerminated &&
      !listGoesOn here text && (!text.contains '(' || Line.mappingOpening.occursIn text) &&
      leavesNameOpen text then
    [semicolonMark here declarationMessage]
  else []

def assignmentStart : Pattern :=
  all [start, blanks, word, blanks, char '=', blanks, noneOf [.char '=']]

def statementStarts : List Pattern :=
  [assignmentStart,
    all [start, blanks, caselessAny ["require", "assert", "revert"], blanks, char '('],
    all [start, blanks, caselessAny ["emit", "return", "break", "continue"], boundary]]

/-- An assignment, a call of a guard or a jump without a terminator. -/
def openStatement (here : Context) : List Mark :=
  let text := here.trimmedCode
  if !text.isEmpty && !text.isTerminated && !text.endsWithAny [',', '('] &&
      statementStarts.any (·.opens text) then
    [semicolonMark here statementMessage]
  else []

def multilineStarts : List Pattern :=
  [assignmentStart,
    all [start, blanks, caselessAny ["require", "assert", "revert", "emit", "return"], boundary],
    all [start, blanks, char '(', many (noneOf [.char ')']), char ')', blanks, char '='],
    all [start, blanks, word, char '.', word, blanks, char '('],
    all [start, blanks, word, blanks, char '(']]

def constructStarts : List String :=
  ["require", "emit", "return", "\x7d", "function", "contract", "modifier", "event", "struct",
    "enum"]

def startsConstruct (text : Line) : Bool :=
  constructStarts.any (·.toList.isPrefixOf text)

/-- Whether the lines above, nearest first, hold the start of a statement before anything that
ends one. -/
def opensStatement : List Line → Bool
  | [] => false
  | text :: above =>
    if text.isTerminated then false
    else multilineStarts.any (·.opens text) || opensStatement above

/-- The last line of a statement over several lines: it ends with a parenthesis and a new
construct, or nothing, follows. -/
def openLastLine (here : Context) : List Mark :=
  if here.trimmedCode.endsWithAny [')'] && here.next?.all startsConstruct &&
      opensStatement here.previous then
    [semicolonMark here statementMessage]
  else []

def loneNameExceptions : Pattern :=
  all [start, caselessAny ["function", "modifier", "event", "struct", "enum", "contract",
    "interface", "library", "import", "pragma", "using", "constructor", "else", "do", "unchecked",
    "assembly", "public", "private", "internal", "external", "view", "pure", "payable", "virtual",
    "override"], boundary]

def loneName (here : Context) : List Mark :=
  if isName here.trimmedCode && !loneNameExceptions.opens here.trimmedCode then
    [semicolonMark here statementMessage]
  else []

end SolidityLint.Check
