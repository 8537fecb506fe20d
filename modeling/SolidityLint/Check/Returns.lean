import SolidityLint.Document
import SolidityLint.Finding.Sink
import SolidityLint.SyntaxTree
import SolidityLint.Text.Utf8

/-!
# Missing return statements

A function whose header promises a result and whose body returns nothing, found in a syntax tree.
Functions without a body are left alone.
-/

namespace SolidityLint.Check

open Pattern Text

def returnsClause : Pattern := all [boundary, caseless "returns", blanks, char '(']

def functionKinds : List String := ["function_definition", "function_declaration"]

def returnMessage : String := "Missing return statement in function with return type."

/-- The column of a byte column. Without a byte column it is the end of the row. -/
def columnOfByte (text : List Char) (row : Int) (column : Option Int) : Except TreeFault Int :=
  let rows := rows text
  match (position? rows.length row).bind (rows[·]?) with
  | some line => .ok (charsBefore line column)
  | none => .error .positionOutOfRange

/-- The column of a point whose column is in bytes. Behind the last row nothing is counted: what
stands for the byte column is the column there. -/
def columnOf (text : List Char) (row column : Value) : Except TreeFault Value := do
  let some number := row.number? | .error .uselessValue
  if number.isAtLeast (rows text).length then return column
  let some index := row.index? | .error .uselessValue
  return .int (← columnOfByte text index (← SyntaxNode.bound column))

/-- The row and the column of a point. Both must be numbers, but not integers. -/
def pointOf (text : List Char) (row column : Value) : Except TreeFault (Number × Number) := do
  let column ← columnOf text row column
  let some row := row.number? | .error .uselessValue
  let some column := column.number? | .error .uselessValue
  return (row, column)

def returnSighting? (text : List Char) (node : SyntaxNode) :
    Except TreeFault (Option Sighting) := do
  unless ← node.isAnyKind functionKinds do return none
  let some body ← node.bodyNode? | return none
  let header := byteSlice text (← node.startByte) (← body.startByte)
  unless returnsClause.occursIn header do return none
  if (← SyntaxNode.findKind? "return_statement" body.traverse).isSome then return none
  let (row, byteColumn) ← node.startPoint
  let (row, column) ← pointOf text row byteColumn
  return some ⟨row, column, column.addOne, returnMessage, .missingReturn⟩

end SolidityLint.Check
