/-!
# Marks of groups

A group is set once it was opened and closed. Every time it is entered it is opened anew, and its
end stays where it was until it is closed again.
-/

namespace SolidityLint

/-- Where groups were opened and closed. The first group has the first two marks, and so on. Marks
behind the last one that was set do not exist; of those before it some may be unset. -/
abbrev Marks := List (Option Nat)

namespace Marks

def set (marks : Marks) (index pos : Nat) : Marks :=
  if index < marks.length then List.set marks index (some pos)
  else marks ++ List.replicate (index - marks.length) none ++ [some pos]

def openGroup (marks : Marks) (index pos : Nat) : Marks := marks.set (2 * (index - 1)) pos

def closeGroup (marks : Marks) (index pos : Nat) : Marks := marks.set (2 * (index - 1) + 1) pos

def ends? (marks : Marks) (index : Nat) : Option (Nat × Nat) := do
  let first ← (← marks[2 * (index - 1)]?)
  let last ← (← marks[2 * (index - 1) + 1]?)
  return (first, last)

/-- Where a group matched last. A group that was opened again behind its last end is not set. -/
def group? (marks : Marks) (index : Nat) : Option (Nat × Nat) :=
  (marks.ends? index).filter fun (first, last) => first ≤ last

def areCrossed : Marks → Bool
  | first :: last :: rest =>
    (match first, last with
      | some first, some last => last < first
      | _, _ => false) || areCrossed rest
  | _ => false

end Marks

end SolidityLint
