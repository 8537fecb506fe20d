import SolidityLint.Finding.Code
import SolidityLint.Schema.Read
import SolidityLint.Value.Number

/-!
# Findings and the sink that collects them

A finding names a stretch of one line, a message and a code. The sink keeps findings in the order
in which they are pushed, one for each line, stretch and code, and no more than its cap. What is
seen in a syntax tree comes with numbers from outside. Its key is taken before the finding is made,
so a key stays taken also where no finding can be made of such numbers.
-/

namespace SolidityLint

structure Position where
  line : Int
  character : Int
  deriving DecidableEq, Repr

structure Range where
  start : Position
  stop : Position
  deriving DecidableEq, Repr

structure Finding where
  message : String
  code : Code
  severity : Severity
  range : Range
  deriving DecidableEq, Repr

/-- What a check has to say about one line. -/
structure Report where
  line : Int
  start : Int
  stop : Int
  message : String
  code : Code
  deriving DecidableEq, Repr

/-- Two reports with one key are the same finding, whatever their messages. -/
structure Key where
  line : Int
  start : Int
  stop : Int
  code : Code
  deriving DecidableEq, Repr

def Finding.key (finding : Finding) : Key :=
  ⟨finding.range.start.line, finding.range.start.character, finding.range.stop.character,
    finding.code⟩

namespace Report

def key (report : Report) : Key :=
  ⟨report.line, report.start, report.stop, report.code⟩

def finding (report : Report) : Finding where
  message := report.message
  code := report.code
  severity := report.code.severity
  range := ⟨⟨report.line, report.start⟩, ⟨report.line, report.stop⟩⟩

end Report

/-! ## Places in numbers from outside -/

structure Sighting where
  line : Number
  start : Number
  stop : Number
  message : String
  code : Code
  deriving DecidableEq, Repr

structure Spot where
  line : Value.Key
  start : Value.Key
  stop : Value.Key
  code : Code
  deriving DecidableEq, Repr

def Key.spot (key : Key) : Spot :=
  ⟨.number key.line, .number key.start, .number key.stop, key.code⟩

/-- What is no number is equal to nothing, so a spot that has it is never met again. -/
def Spot.isAmong (spot : Spot) (spots : List Spot) : Bool :=
  spots.contains spot && !([spot.line, spot.start, spot.stop].contains (.fraction .nan))

/-- The integer that a number is taken for in a finding. -/
def Number.integer? : Number → Option Int
  | .int value => some value
  | .real value => (Schema.integerOf value).value?

namespace Sighting

def spot (sighting : Sighting) : Spot :=
  ⟨sighting.line.key, sighting.start.key, sighting.stop.key, sighting.code⟩

def report? (sighting : Sighting) : Option Report := do
  return {
    line := ← sighting.line.integer?
    start := ← sighting.start.integer?
    stop := ← sighting.stop.integer?
    message := sighting.message
    code := sighting.code }

end Sighting

/-! ## The sink -/

/-- `refused` are the keys that were taken for findings that could not be made. -/
structure Sink where
  cap : Nat
  findings : List Finding := []
  refused : List Spot := []
  deriving DecidableEq, Repr

inductive Reception
  | kept
  | passedOver
  | unfit
  deriving DecidableEq, Repr

namespace Sink

/-- A negative cap keeps nothing. -/
def ofCap (cap : Int) : Sink := { cap := cap.toNat }

def isFull (sink : Sink) : Bool := sink.cap ≤ sink.findings.length

def reported (sink : Sink) : List Spot :=
  sink.findings.map (·.key.spot) ++ sink.refused

def knows (sink : Sink) (spot : Spot) : Bool := spot.isAmong sink.reported

def accepts (sink : Sink) (report : Report) : Bool :=
  !sink.isFull && !sink.knows report.key.spot

def push (sink : Sink) (report : Report) : Sink :=
  if sink.accepts report then { sink with findings := sink.findings ++ [report.finding] } else sink

def pushAll (sink : Sink) (reports : List Report) : Sink :=
  reports.foldl push sink

/-- A sighting is pushed like a report, except that no finding may come of it. -/
def offer (sink : Sink) (sighting : Sighting) : Sink × Reception :=
  if sink.isFull then (sink, .passedOver)
  else if sink.knows sighting.spot then (sink, .passedOver)
  else match sighting.report? with
    | some report => ({ sink with findings := sink.findings ++ [report.finding] }, .kept)
    | none => ({ sink with refused := sink.refused ++ [sighting.spot] }, .unfit)

end Sink

end SolidityLint
