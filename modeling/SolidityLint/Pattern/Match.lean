import SolidityLint.Pattern.Attempt

/-!
# Matching

A pattern is run from a place with a continuation for the rest of the match. Alternatives are
tried in order, repeats in the order of their mode, and the first way for which the continuation
succeeds is the match. `search?` takes the leftmost position from which there is a match.
-/

namespace SolidityLint

namespace Pattern

def run : Pattern → Setting → Runner
  | .empty, _, place, trail, rest => rest place trail
  | .one set, _, place, trail, rest => match place.after with
    | [] => .failure trail
    | c :: after => if set.contains c then rest (place.step c after) trail else .failure trail
  | .anchor condition, _, place, trail, rest =>
    if condition.holds place then rest place trail else .failure trail
  | .seq p q, setting, place, trail, rest =>
    p.run { setting with next := q.lead?.getD setting.next } place trail fun place trail =>
      q.run setting place trail rest
  | .alt p q, setting, place, trail, rest =>
    let inner := { setting with next := .other }
    let first := setting.tryWay p.lead fun place trail rest =>
      p.run inner place trail rest
    let second := fun place trail rest => q.run inner place trail rest
    (first place trail rest).onFailure fun trail =>
      if q.isAlt then second place trail rest
      else setting.tryWay q.lead second place trail rest
  | .times mode low high p, setting, place, trail, rest =>
    match p.single? with
    | some set => setting.runSingle set mode low high place trail rest
    | none =>
      let inner := ⟨setting.repeated || mode != .possessive, .other⟩
      setting.runTimes (fun place trail rest => p.run inner place trail rest) mode low high place
        trail rest
  | .group index p, setting, place, trail, rest =>
    p.run { setting with next := .other } place
      { trail with marks := trail.marks.openGroup index place.pos } fun place trail =>
        rest place { trail with marks := trail.marks.closeGroup index place.pos }
  | .scoped p, setting, place, trail, rest => p.run setting place trail rest
  | .again index ignoreCase ascii, _, place, trail, rest =>
    runAgain index ignoreCase ascii place trail rest
  | .given index p q, setting, place, trail, rest =>
    if (trail.marks.group? index).isSome then
      let inner := if q = .empty then setting else { setting with next := .other }
      p.run inner place trail rest
    else q.run setting place trail rest
  | .look direction negated p, setting, place, trail, rest =>
    setting.runLook (fun place trail rest => p.run { setting with next := .other } place trail rest)
      direction negated place trail rest
  | .atomic p, setting, place, trail, rest =>
    match p.run { setting with next := .other } place (trail.reach place) settle with
    | .success trail => rest trail.reached trail
    | .failure left => .failure (left.reach place)

end Pattern

/-- A stretch of a text, from `start` up to but not including `stop`. -/
structure Span where
  start : Nat
  stop : Nat
  deriving DecidableEq, Repr

def Span.of (span : Span) (text : List Char) : List Char :=
  Text.slice text span.start span.stop

def Span.shift (span : Span) (offset : Nat) : Span :=
  ⟨span.start + offset, span.stop + offset⟩

structure Match where
  span : Span
  marks : Marks
  deriving DecidableEq, Repr

def Match.group? (found : Match) (index : Nat) : Option Span :=
  (found.marks.group? index).map fun (start, stop) => ⟨start, stop⟩

namespace Pattern

def matchAt? (p : Pattern) (place : Place) : Option Match :=
  match p.run {} place ⟨place, []⟩ settle with
  | .success trail => some ⟨⟨place.pos, trail.reached.pos⟩, trail.marks⟩
  | .failure _ => none

def match? (p : Pattern) (text : List Char) : Option Match :=
  p.matchAt? { after := text }

def opens (p : Pattern) (text : List Char) : Bool :=
  (p.match? text).isSome

def searchFrom? (p : Pattern) (pos : Nat) (before : List Char) : List Char → Option Match
  | [] => p.matchAt? { pos, before, after := [] }
  | c :: after => match p.matchAt? { pos, before, after := c :: after } with
    | some found => some found
    | none => p.searchFrom? (pos + 1) (c :: before) after

def search? (p : Pattern) (text : List Char) : Option Match :=
  p.searchFrom? 0 [] text

def occursIn (p : Pattern) (text : List Char) : Bool :=
  (p.search? text).isSome

/-- The leftmost matches that do not overlap, in order. `skip` characters belong to the match
found last. For patterns that match no empty text. -/
def findAllFrom (p : Pattern) (pos : Nat) (before : List Char) (skip : Nat) :
    List Char → List Match
  | [] => []
  | c :: after => match skip with
    | skip + 1 => p.findAllFrom (pos + 1) (c :: before) skip after
    | 0 => match p.matchAt? { pos, before, after := c :: after } with
      | some found =>
        found :: p.findAllFrom (pos + 1) (c :: before) (found.span.stop - pos - 1) after
      | none => p.findAllFrom (pos + 1) (c :: before) 0 after

def findAll (p : Pattern) (text : List Char) : List Match :=
  p.findAllFrom 0 [] 0 text

end Pattern

end SolidityLint
