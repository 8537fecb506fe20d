import SolidityLint.Finding.Summary
import SolidityLint.Session
import SolidityLint.Value.Basic

/-!
# Analysis

The whole run over a document: the pass over a syntax tree if one is asked for, then the balance of
braces, then all rules that are switched on, line by line.
-/

namespace SolidityLint

def defaultCap : Int := 100

/-- What is asked for. Without a tree source there is no pass over a tree. Naming patterns are read
as far as they fit on the stack. -/
structure Options where
  rules : Rules := .allOn
  cap : Int := defaultCap
  naming : Option Naming := none
  trees : Option TreeSource := none
  fits : List Char → Bool := fitsUsually

abbrev Options.patterns (options : Options) : Except PatternFault (Option NamePatterns) :=
  options.naming.mapM (Naming.patterns options.fits)

namespace Session

def assistIf (trees : Option TreeSource) (session : Session) : Session :=
  match trees with
  | some source => (session.assist source).1
  | none => session

def checkBracesIf (session : Session) : Session :=
  if session.rules.enabled .missingBraces then session.checkBraces else session

def analyze (table : List Rule) (trees : Option TreeSource) (session : Session) : Session :=
  let active := table.filter (session.rules.enabled ·.switch)
  applyLines active 0 (Context.each session.document.lines)
    (session.assistIf trees).checkBracesIf

end Session

def analyzeWith (table : List Rule) (text : List Char) (options : Options) :
    Except PatternFault (List Finding) := do
  let session ← Session.start text options.rules options.cap options.naming options.fits
  return (session.analyze table options.trees).sink.findings

def analyze (text : List Char) (options : Options) : Except PatternFault (List Finding) :=
  analyzeWith lineRules text options

/-! ## Caps of any kind -/

inductive AnalysisFault
  | infiniteCap
  | pattern (fault : PatternFault)
  deriving DecidableEq, Repr

def AnalysisFault.message : AnalysisFault → String
  | .infiniteCap => "cannot convert float infinity to integer"
  | .pattern fault => fault.message

/-- An analysis whose cap may be any value. The cap is looked at before the patterns. -/
def analyzeUpTo (cap : Value) (table : List Rule) (text : List Char) (options : Options) :
    Except AnalysisFault (List Finding) :=
  match capOf? cap with
  | none => .error .infiniteCap
  | some cap => match analyzeWith table text { options with cap } with
    | .error fault => .error (.pattern fault)
    | .ok findings => .ok findings

end SolidityLint
