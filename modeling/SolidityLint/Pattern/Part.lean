import SolidityLint.Pattern.Basic

/-!
# Parts of written patterns

Parts are put together as plainly as can be. A group that neither captures nor has flags dissolves
in the sequence around it, parts with which all alternatives begin are taken out in front of them,
and alternatives of one character each become one set.
-/

namespace SolidityLint

/-- A part of a sequence. Dots and carets are told from other ways to write the same. -/
structure Part where
  pattern : Pattern
  sign : Option Char := none
  deriving DecidableEq

namespace Part

/-- Parts that hold no other parts are the same if they are written the same. -/
def isSame (one other : Part) : Bool :=
  match one.pattern with
  | .one _ | .anchor _ | .again _ _ _ => one == other
  | _ => false

def sequence : List Part → Pattern
  | [] => .empty
  | part :: rest => .seq part.pattern (sequence rest)

def choice : List (List Part) → Pattern
  | [] => .empty
  | [parts] => sequence parts
  | parts :: rest => .alt (sequence parts) (choice rest)

def factor : List Part → List (List Part) → List Part × List (List Part)
  | [], others => ([], [] :: others)
  | part :: rest, others =>
    if others.all (·.head?.any part.isSame) then
      let (shared, alternatives) := factor rest (others.map List.tail)
      (part :: shared, alternatives)
    else ([], (part :: rest) :: others)

def member? : List Part → Option CharSet
  | [⟨.one set, _⟩] => if set.negated then none else some set
  | _ => none

def union? (alternatives : List (List Part)) : Option CharSet := do
  let sets ← alternatives.mapM member?
  let set ← sets.head?
  return { set with items := (sets.flatMap (·.items)).eraseDups }

def alternatives : List (List Part) → List Part
  | [] => []
  | [parts] => parts
  | first :: others =>
    let (shared, rest) := factor first others
    match union? rest with
    | some set => shared ++ [⟨.one set, none⟩]
    | none => shared ++ [⟨choice rest, none⟩]

end Part

end SolidityLint
