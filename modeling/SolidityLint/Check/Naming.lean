import SolidityLint.Check.Basic
import SolidityLint.Line.Mapping
import SolidityLint.Line.Vocabulary
import SolidityLint.Text.Name

/-!
# Naming checks

The name of a function, variable or contract is taken from a line that declares it. It must start
like a name, nothing may follow it before the delimiter, and it must contain a match of the pattern
that is asked for.
-/

namespace SolidityLint.Check

open Pattern Text Vocabulary

/-- What is wrong with the name in a segment of a line that starts at `offset`. -/
def nameMarks (offset : Nat) (segment : List Char) (pattern : Expression) (code : Code)
    (label : String) : Except Fault (List Mark) :=
  let text := trimStart segment
  let first := offset + (segment.length - text.length)
  match leadingName text with
  | [] => .ok [⟨⟨first, first + 1⟩, "Invalid " ++ label ++ " identifier.", code⟩]
  | name =>
    let span : Span := ⟨first, first + name.length⟩
    if !(trim (text.drop name.length)).isEmpty then
      .ok [⟨span, "Invalid " ++ label ++ " identifier.", code⟩]
    else match pattern.search name with
      | .error fault => .error (.matching fault)
      | .ok (some _) => .ok []
      | .ok none =>
        .ok [⟨span, "Invalid " ++ label ++ " identifier '" ++ String.ofList name ++ "'.", code⟩]

def functionDeclaration : Pattern :=
  all [boundary, literal "function", boundary, .group 1 (many (noneOf [.char '('])), char '(']

def functionNaming (pattern : Expression) (here : Context) : Except Fault (List Mark) :=
  match (functionDeclaration.search? here.code).bind (·.group? 1) with
  | none => .ok []
  | some span => nameMarks span.start (span.of here.code) pattern .functionNaming "function"

def constantWord : Pattern := all [boundary, caselessAny ["constant", "immutable"], boundary]

def typeCast : Pattern := all [start, elementaryType, blanks, char '(']

def otherDeclaration : Pattern :=
  all [start, blanks, caselessAny ["function", "contract", "interface", "library", "event",
    "modifier", "enum", "struct"], boundary]

def declaresVariable (text : Line) : Bool :=
  leadingType.opens text && !otherDeclaration.opens text && !typeCast.opens text

def endsVariable (c : Char) : Bool := [';', '=', '{', ',', ')'].contains c

def variableSegment (code : Line) (column : Nat) : List Char :=
  (code.drop column).takeWhile (!endsVariable ·)

def startsVariable (code : Line) (token : Token) : Bool :=
  !isKeywordOf modifiers token.text && !isKeywordOf ["indexed"] token.text &&
    !arrayToken.occursIn token.text && !(variableSegment code token.offset).isEmpty

def variablePattern? (patterns : NamePatterns) (text : Line) : Option Expression :=
  if constantWord.occursIn text then patterns.constantNames else patterns.variableNames

def variableNaming (patterns : NamePatterns) (here : Context) : Except Fault (List Mark) :=
  if declaresVariable here.trimmedCode then
    match variablePattern? patterns here.trimmedCode with
    | none => .ok []
    | some pattern =>
      let code := here.code
      match (tokens (Line.maskMappings code)).tail.find? (startsVariable code) with
      | none => .ok []
      | some token =>
        nameMarks token.offset (variableSegment code token.offset) pattern .variableNaming
          "variable"
  else .ok []

def contractDeclaration : Pattern :=
  all [boundary, any [literal "contract", literal "interface", literal "library"], boundary,
    .group 1 (many (noneOf [.char '{'])), char '{']

def inheritance : Pattern := all [blanks1, literal "is", boundary]

def beforeInheritance (segment : List Char) : List Char :=
  match inheritance.search? segment with
  | some found => segment.take found.span.start
  | none => segment

def contractNaming (pattern : Expression) (here : Context) : Except Fault (List Mark) :=
  match (contractDeclaration.search? here.code).bind (·.group? 1) with
  | none => .ok []
  | some span =>
    nameMarks span.start (beforeInheritance (span.of here.code)) pattern .contractNaming
      "contract/interface/library"

end SolidityLint.Check
