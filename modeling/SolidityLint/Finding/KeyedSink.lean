import SolidityLint.Finding.Sink

/-!
# A sink that remembers keys

The keys of what was kept are held in a set of their own, so that a report need not be compared
with all findings. Reports are in integers, of which a finding can always be made, so a key enters
the set together with its finding and at no other time.
-/

namespace SolidityLint

/-- `reported` is a set: the order of its keys carries no meaning. -/
structure KeyedSink where
  cap : Nat
  findings : List Finding := []
  reported : List Key := []
  deriving DecidableEq, Repr

namespace KeyedSink

def ofCap (cap : Int) : KeyedSink := { cap := (max 0 cap).toNat }

def isFull (sink : KeyedSink) : Bool := sink.cap ≤ sink.findings.length

/-- Also tells whether the report was kept. -/
def push (sink : KeyedSink) (report : Report) : KeyedSink × Bool :=
  if sink.isFull then (sink, false)
  else if sink.reported.contains report.key then (sink, false)
  else
    ({ sink with
       reported := sink.reported.insert report.key
       findings := sink.findings ++ [report.finding] }, true)

def pushAll (sink : KeyedSink) (reports : List Report) : KeyedSink :=
  reports.foldl (fun sink report => (sink.push report).1) sink

end KeyedSink

end SolidityLint
