import SolidityLint.Finding.Sink

/-!
# Summaries

How many findings there are, in all, by severity and by code.
-/

namespace SolidityLint

structure Summary where
  total : Nat
  bySeverity : Severity → Nat
  byCode : Code → Nat

def Summary.of (findings : List Finding) : Summary where
  total := findings.length
  bySeverity severity := findings.countP (·.severity == severity)
  byCode code := findings.countP (·.code == code)

def Summary.severities (summary : Summary) : List (Severity × Nat) :=
  (Severity.all.map fun severity => (severity, summary.bySeverity severity)).filter (0 < ·.2)

def Summary.codes (summary : Summary) : List (Code × Nat) :=
  (Code.all.map fun code => (code, summary.byCode code)).filter (0 < ·.2)

end SolidityLint
