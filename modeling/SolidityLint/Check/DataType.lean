import SolidityLint.Check.Basic
import SolidityLint.Line.Mapping
import SolidityLint.Line.Vocabulary
import SolidityLint.Text.Name
import SolidityLint.Text.Split

/-!
# Missing data types

Names that are declared with a type are remembered. Names that are used like declarations without a
type are marked, remembered, and marked again wherever they occur later.
-/

namespace SolidityLint.Check

open Pattern Text Vocabulary

def dataTypeMark (span : Span) : Mark :=
  ⟨span, "Missing data type declaration for variable.", .missingDataType⟩

/-! ## Typed declarations -/

def functionWord : Pattern := all [boundary, caseless "function", boundary]

def nameStart : Pattern := oneOf nameStartItems

def wideName : Pattern := all [nameStart, many wordChar]

def dataLocation : Pattern := any [literal "memory", literal "storage", literal "calldata"]

def locatedDeclaration : Pattern :=
  all [boundary, nameStart, many wordChar, many arraySuffix, blanks1, dataLocation, blanks1,
    .group 1 wideName]

def capitalName : Pattern := all [oneOf [.range 65 90], many (oneOf nameItems)]

def memberAccess : Pattern := optional (all [char '.', nameStart, many wordChar])

/-- Not followed by a second equals sign. -/
def assigns : Pattern := all [char '=', notAhead (char '=')]

def declarationModifier : Pattern :=
  any (["public", "private", "internal", "external", "constant", "immutable", "memory", "storage",
    "calldata"].map literal)

def userTypedDeclaration : Pattern :=
  all [start, blanks, capitalName, memberAccess, many arraySuffix,
    many (all [blanks1, declarationModifier]), blanks1, .group 1 wideName, blanks,
    any [char ';', assigns]]

def trailingArrays : Pattern := all [many1 arraySuffix, finish]

def withoutTrailingArrays (token : List Char) : List Char :=
  match trailingArrays.search? token with
  | some found => token.take found.span.start ++ token.drop found.span.stop
  | none => token

def withoutPunctuation (token : List Char) : List Char :=
  if token.getLast?.any [',', ';', '{', '}', '(', ')'].contains then token.dropLast else token

def namesBehindType (tokens : List (List Char)) : List (List Char) :=
  (tokens.filter (!isKeywordOf modifiers ·)).flatMap fun token =>
    (splitBy (fun c => c == ',' || c == ';') token).filter isName

def isTypeToken (token : List Char) : Bool := typeToken.opens (withoutTrailingArrays token)

def elementaryDeclarations (code : Line) : List (List Char) :=
  let tokens := (words (Line.maskMappings code)).map withoutPunctuation
  namesBehindType ((tokens.dropWhile (!isTypeToken ·)).drop 1)

def groupTexts (index : Nat) (text : Line) (found : List Match) : List (List Char) :=
  (found.filterMap (·.group? index)).map (·.of text)

/-- The names that a line declares with a type. Lines with functions declare none. -/
def typedNames (code : Line) : List (List Char) :=
  if functionWord.occursIn code then []
  else
    groupTexts 1 code (locatedDeclaration.findAll code) ++
      groupTexts 1 code (userTypedDeclaration.match? code).toList ++
      if someType.occursIn code then elementaryDeclarations code else []

def typedDeclarations (here : Context) (names : Names) : Outcome :=
  { names := (typedNames here.code).foldl Names.declare names }

/-! ## Names without a type -/

def statementStart : Pattern :=
  any [all [start, blanks], all [oneOf [.char ';', .char '{'], blanks]]

def plainAssignment : Pattern := all [statementStart, .group 1 name, blanks, assigns]

/-- Marks for names at these places, which are remembered as missing. -/
def missingNames (found : List (Span × List Char)) (names : Names) : Outcome where
  marks := found.map fun (span, _) => dataTypeMark span
  names := (found.map Prod.snd).foldl Names.markMissing names

def placesIn (text : Line) (spans : List Span) : List (Span × List Char) :=
  spans.map fun span => (span, span.of text)

def assignedNames (here : Context) (names : Names) : Outcome :=
  let spans := (plainAssignment.findAll here.code).filterMap (·.group? 1)
  missingNames ((placesIn here.code spans).filter fun (_, name) => !names.declared.contains name)
    names

def emptyBrackets : Pattern := all [char '[', blanks, char ']']

def arrayWithoutType : Pattern :=
  all [statementStart, .group 1 emptyBrackets, blanks, name, blanks,
    oneOf [.char ';', .char '=']]

def bracketDeclarations (here : Context) : List Mark :=
  ((arrayWithoutType.findAll here.code).filterMap (·.group? 1)).map dataTypeMark

def tupleAssignment : Pattern :=
  all [char '(', .group 1 (many (noneOf [.char '(', .char ')'])), char ')', blanks, assigns]

def leadingUserType : Pattern :=
  all [start, capitalName, memberAccess, many arraySuffix, blanks1, nameStart]

def opensWithType (text : List Char) : Bool :=
  leadingSlotType.opens text || leadingUserType.opens text

def namePlace? (offset : Nat) (part : List Char) : Option (Span × List Char) :=
  (firstName? part).map fun (before, name) =>
    (⟨offset + before, offset + before + name.length⟩, name)

def untypedSlot? (names : Names) (slot : Nat × List Char) : Option (Span × List Char) :=
  let text := trim slot.2
  if text.isEmpty || opensWithType text then none
  else (namePlace? slot.1 slot.2).filter fun (_, name) => !names.declared.contains name

def tupleNames (here : Context) (names : Names) : Outcome :=
  match (tupleAssignment.search? here.code).bind (·.group? 1) with
  | none => { names }
  | some slots =>
    missingNames ((listItems slots.start (slots.of here.code)).filterMap (untypedSlot? names)) names

def bareDeclaration : Pattern :=
  all [start, blanks,
    optional (all [any (["public", "private", "internal", "external"].map literal), blanks1]),
    .group 1 name, blanks, char ';', blanks, finish]

/-- Statements that look like a name without a type. -/
def bareStatements : List String := ["_", "return", "break", "continue", "throw"]

def bareNames (here : Context) (names : Names) : Outcome :=
  match (bareDeclaration.match? here.code).bind (·.group? 1) with
  | none => { names }
  | some span =>
    let name := span.of here.code
    if someType.occursIn here.code || bareStatements.any (·.toList == name) then { names }
    else missingNames [(span, name)] names

def functionParameters : Pattern :=
  all [boundary, literal "function", boundary, many (noneOf [.char '{', .char '(']), char '(',
    .group 1 (many (noneOf [.char ')'])), char ')']

/-- Brackets without an element type, an optional data location and a name, in letters of any
case. -/
def bracketParameter : Pattern :=
  all [.group 1 emptyBrackets, blanks, optional (caselessAny ["memory", "calldata", "storage"]),
    blanks, .one { items := nameStartItems, ignoreCase := true },
    many (.one { items := nameItems, ignoreCase := true })]

def leadingBracketParameter : Pattern := all [start, blanks, bracketParameter]

inductive UntypedParameter
  | brackets (span : Span)
  | named (span : Span) (text : List Char)

def untypedParameter? (parameter : Nat × List Char) : Option UntypedParameter :=
  let text := trim parameter.2
  if text.isEmpty then none
  else match leadingBracketParameter.match? parameter.2 with
    | some found => (found.group? 1).map fun span => .brackets (span.shift parameter.1)
    | none =>
      if opensWithType text then none
      else (namePlace? parameter.1 parameter.2).map fun (span, name) => .named span name

def UntypedParameter.span : UntypedParameter → Span
  | .brackets span => span
  | .named span _ => span

def UntypedParameter.name? : UntypedParameter → Option (List Char)
  | .brackets _ => none
  | .named _ text => some text

def parameterNames (here : Context) (names : Names) : Outcome :=
  match (functionParameters.search? here.code).bind (·.group? 1) with
  | none => { names }
  | some span =>
    let found := (listItems span.start (span.of here.code)).filterMap untypedParameter?
    { marks := found.map fun parameter => dataTypeMark parameter.span
      names := (found.filterMap (·.name?)).foldl Names.markMissing names }

def endsElementType (c : Char) : Bool := continuesName c || c == ']'

def followsElementType (parameters : List Char) (column : Nat) : Bool :=
  (trimEnd (parameters.take column)).getLast?.any endsElementType

def parameterBrackets (here : Context) : List Mark :=
  match (functionParameters.search? here.code).bind (·.group? 1) with
  | none => []
  | some span =>
    let parameters := span.of here.code
    let brackets := (bracketParameter.findAll parameters).filterMap (·.group? 1)
    (brackets.filter (!followsElementType parameters ·.start)).map fun found =>
      dataTypeMark (found.shift span.start)

def wholeWord (name : List Char) : Pattern :=
  all [boundary, all (name.map char), boundary]

/-- The first use on the line of every name that was found without a type. -/
def laterUses (here : Context) (names : Names) : List Mark :=
  names.missing.filterMap fun name =>
    ((wholeWord name).search? here.code).map fun found => dataTypeMark found.span

end SolidityLint.Check
