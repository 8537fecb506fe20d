import SolidityLint.Pattern.Basic

/-!
# Widths of patterns

How many characters a match takes, at least and at most. A look behind needs a body of one width.
The bound up to which widths are counted (`Width.maxLeast`) is that of the early releases of the
engine, which `Pattern.Attempt` follows; later releases count further.
-/

namespace SolidityLint

/-- The least and the greatest number of characters; no greatest one if there is no bound. -/
structure Width where
  least : Nat
  most : Option Nat
  deriving DecidableEq, Repr

namespace Width

def exactly (n : Nat) : Width := ⟨n, some n⟩

def add (v w : Width) : Width :=
  ⟨v.least + w.least, do return (← v.most) + (← w.most)⟩

def either (v w : Width) : Width :=
  ⟨min v.least w.least, do return max (← v.most) (← w.most)⟩

def times (low : Nat) (high : Option Nat) (w : Width) : Width :=
  ⟨low * w.least,
    if w.most = some 0 || high = some 0 then some 0 else do return (← high) * (← w.most)⟩

/-- Widths are not counted beyond this one. -/
def maxLeast : Nat := 4294967294

def fixed? (w : Width) : Option Nat :=
  if w.most = some w.least && w.least ≤ maxLeast then some w.least else none

end Width

/-- The width of a pattern, given the widths of the groups that are complete. -/
def Pattern.width (groups : List (Nat × Width)) : Pattern → Width
  | .empty => .exactly 0
  | .one _ => .exactly 1
  | .anchor _ => .exactly 0
  | .seq p q => (p.width groups).add (q.width groups)
  | .alt p q => (p.width groups).either (q.width groups)
  | .times _ low high p => (p.width groups).times low high
  | .group _ p | .scoped p => p.width groups
  | .again index _ _ => (groups.lookup index).getD (.exactly 0)
  | .given _ p q => (p.width groups).either (q.width groups)
  | .look _ _ _ => .exactly 0
  | .atomic p => p.width groups

end SolidityLint
