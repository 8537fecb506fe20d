import SolidityLint.Line.Comment

/-!
# A line and its neighbours

Statements may go on over several lines, so a line is judged with a bounded look at the lines
before it and a look at the next line of code.
-/

namespace SolidityLint

/-- A line with all lines above it, nearest first, and all lines below it. -/
structure Context where
  above : List Line
  line : Line
  below : List Line
  deriving DecidableEq, Repr

def defaultLookback : Int := 5

/-- The first line that holds code. -/
def nextCode? : List Line → Option Line
  | [] => none
  | line :: lines => if line.trimmedCode.isEmpty then nextCode? lines else some line.trimmedCode

def codeLines (lines : List Line) : List Line :=
  (lines.map Line.trimmedCode).filter (!·.isEmpty)

namespace Context

def code (here : Context) : Line := here.line.code

def trimmedCode (here : Context) : Line := here.line.trimmedCode

def next? (here : Context) : Option Line := nextCode? here.below

/-- The lines of code among the nearest lines above, nearest first. -/
def previous (here : Context) : List Line :=
  codeLines (here.above.take defaultLookback.toNat)

def eachFrom (above : List Line) : List Line → List Context
  | [] => []
  | line :: below => ⟨above, line, below⟩ :: eachFrom (line :: above) below

def each (lines : List Line) : List Context :=
  eachFrom [] lines

end Context

end SolidityLint
