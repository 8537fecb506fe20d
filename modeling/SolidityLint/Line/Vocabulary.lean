import SolidityLint.Line.Comment
import SolidityLint.Pattern.Match

/-!
# Type and modifier vocabulary

The words by which lines are recognised as declarations. Case is ignored throughout.
-/

namespace SolidityLint.Vocabulary

open Pattern

/-- Elementary value types; a number may follow those that come in sizes. -/
def elementaryType : Pattern :=
  any [all [caseless "uint", digits], all [caseless "int", digits], caseless "address",
    caseless "bool", caseless "string", all [caseless "bytes", digits]]

def mappingType : Pattern := all [caseless "mapping", blanks, char '(']

def typeToken : Pattern := all [start, any [elementaryType, caseless "mapping"], finish]

def leadingType : Pattern := all [start, any [all [elementaryType, boundary], mappingType]]

def structType : Pattern := all [caseless "struct", blanks1, word]

def enumType : Pattern := all [caseless "enum", blanks1, word]

def leadingSlotType : Pattern :=
  all [start, any [all [elementaryType, boundary], mappingType, structType, enumType,
    all [caselessAny ["calldata", "memory", "storage"], boundary]]]

def someType : Pattern :=
  any [all [boundary, any [elementaryType, caseless "mapping"], boundary],
    all [boundary, structType], all [boundary, enumType]]

def modifiers : List String :=
  ["public", "private", "internal", "external", "view", "pure", "payable", "constant", "immutable",
    "memory", "storage", "calldata"]

def arrayToken : Pattern := all [char '[', many anyOnLine, char ']', finish]

def arraySuffix : Pattern := all [char '[', many (noneOf [.char ']']), char ']']

end SolidityLint.Vocabulary
