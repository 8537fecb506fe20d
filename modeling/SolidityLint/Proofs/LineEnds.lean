import SolidityLint.Proofs.Cap
import SolidityLint.Proofs.Document
import SolidityLint.Proofs.Pattern.Words

/-!
# Line ends have no part in what is found

Checks see the lines of a document. The one look at the text itself is for calls that move value,
and it finds one exactly if some line holds one (`Document.movesValue_iff`): no such call goes over
a line feed, and none ends with the carriage return that a line end may have. So the findings on a
text depend on its lines alone, and lines have the same findings whatever line ends stand between
them (`analyze_joinLines`).
-/

namespace SolidityLint

-- ---------------------------------------------------------------------------
-- Words within lines
-- ---------------------------------------------------------------------------

namespace Pattern

variable {p : Pattern} {word letters : List Char}

/-- A word that does not go beyond the line in which it stands. -/
def StaysOnLine (word : List Char) : Prop := '\n' ∉ word ∧ word.getLast? ≠ some '\r'

theorem StaysOnLine.append {front : List Char} (hf : '\n' ∉ front) (h : StaysOnLine word)
    (hne : word ≠ []) : StaysOnLine (front ++ word) := by
  refine ⟨by simp [hf, h.1], ?_⟩
  rw [List.getLast?_append_of_ne_nil _ hne]
  exact h.2

theorem SameLetters.staysOnLine (h : SameLetters word letters)
    (hx : (letters.all fun c => Text.foldCode '\n'.toNat != Text.foldCode c.toNat &&
      Text.foldCode '\r'.toNat != Text.foldCode c.toNat) = true) : StaysOnLine word := by
  simp only [List.all_eq_true, Bool.and_eq_true] at hx
  have hfeed : '\n' ∉ word := h.not_mem (List.all_eq_true.mpr fun c hc => (hx c hc).1)
  have hreturn : '\r' ∉ word := h.not_mem (List.all_eq_true.mpr fun c hc => (hx c hc).2)
  exact ⟨hfeed, fun hlast => hreturn (List.mem_of_getLast? hlast)⟩

theorem occursIn_iff_exists_line (hp : p.isRegular = true)
    (hwords : ∀ word, p.Spells word → StaysOnLine word) (text : List Char) :
    p.occursIn text = true ↔ ∃ line ∈ splitLines text, p.occursIn line = true := by
  simp only [occursIn_iff_spells hp]
  constructor
  · rintro ⟨word, hs, hin⟩
    obtain ⟨hn, hr⟩ := hwords word hs
    obtain ⟨line, hl, hword⟩ := exists_mem_splitLines hn hr hin
    exact ⟨line, hl, word, hs, hword⟩
  · rintro ⟨line, hl, word, hs, hword⟩
    exact ⟨word, hs, hword.trans (infix_of_mem_splitLines hl)⟩

end Pattern

namespace Document

open Pattern

theorem spells_valueTransfer {word : List Char} :
    valueTransfer.Spells word ↔
      SameLetters word ".transfer(".toList ∨ SameLetters word ".send(".toList ∨
        ∃ opening between value, word = opening ++ between ++ value ∧
          SameLetters opening ".call\x7b".toList ∧ '\n' ∉ between ∧
            SameLetters value "value".toList := by
  simp only [valueTransfer, spells_any_cons, not_spells_any_nil, or_false, spells_caseless]
  refine or_congr_right (or_congr_right ?_)
  simp only [spells_all_cons, spells_all_nil, anyOnLine, spells_caseless, spells_many_noneOf]
  constructor
  · rintro ⟨opening, _, opens, ⟨between, _, hbetween, ⟨value, _, letters, rfl, rfl⟩, rfl⟩, rfl⟩
    exact ⟨opening, between, value, by simp, opens, hbetween, letters⟩
  · rintro ⟨opening, between, value, rfl, opens, hbetween, letters⟩
    refine ⟨opening, between ++ value, opens, ⟨between, value, hbetween, ?_, rfl⟩, by simp⟩
    exact ⟨value, [], letters, rfl, (List.append_nil value).symm⟩

theorem staysOnLine_valueTransfer {word : List Char} (h : valueTransfer.Spells word) :
    StaysOnLine word := by
  rcases spells_valueTransfer.mp h with
    h | h | ⟨opening, between, value, rfl, opens, hbetween, letters⟩
  · exact h.staysOnLine (by decide +kernel)
  · exact h.staysOnLine (by decide +kernel)
  · have hne : value ≠ [] := by
      rintro rfl
      cases letters.length_eq
    refine StaysOnLine.append ?_ (letters.staysOnLine (by decide +kernel)) hne
    simp [hbetween, (opens.staysOnLine (by decide +kernel)).1]

theorem movesValue_iff (text : List Char) :
    (ofText text).movesValue = true ↔
      ∃ line ∈ splitLines text, valueTransfer.occursIn line = true :=
  occursIn_iff_exists_line (by decide) (fun _ => staysOnLine_valueTransfer) text

theorem movesValue_eq_of_lines {text other : List Char} (h : splitLines text = splitLines other) :
    (ofText text).movesValue = (ofText other).movesValue := by
  rw [Bool.eq_iff_iff, movesValue_iff, movesValue_iff, h]

end Document

-- ---------------------------------------------------------------------------
-- Texts with the same lines
-- ---------------------------------------------------------------------------

theorem Options.reports_eq_of_lines {text other : List Char} {options : Options}
    (h : splitLines text = splitLines other) (htrees : options.trees = none)
    (patterns : Option NamePatterns) :
    options.reports lineRules text patterns = options.reports lineRules other patterns := by
  have hscope : (Session.fresh text options.rules options.cap patterns).scope =
      (Session.fresh other options.rules options.cap patterns).scope := by
    simp only [Session.fresh, Document.movesValue_eq_of_lines h]
  have hlines : (Session.fresh text options.rules options.cap patterns).document.lines =
      (Session.fresh other options.rules options.cap patterns).document.lines := h
  simp only [reports, Session.reports, Session.treeReports, Session.braceReports, htrees, hscope,
    hlines]
  rfl

theorem analyze_joinLines (lines : List Line) (ends : Nat → LineEnd) (hne : lines ≠ [])
    (hlines : ∀ line ∈ lines, '\n' ∉ line ∧ line.getLast? ≠ some '\r') :
    (Document.ofText (joinLines ends lines)).lines = lines ∧
      ∀ options : Options, options.trees = none →
        analyze (joinLines ends lines) options =
            analyze (joinLines (fun _ => .feed) lines) options ∧
          ∀ cap : Value, analyzeUpTo cap lineRules (joinLines ends lines) options =
            analyzeUpTo cap lineRules (joinLines (fun _ => .feed) lines) options := by
  have hsplit : ∀ ends, splitLines (joinLines ends lines) = lines := by
    intro ends
    refine splitLines_joinLines hne (fun line hl => (hlines line hl).1) ?_
    exact fun k line hk _ => (hlines line (List.mem_of_getElem? hk)).2
  refine ⟨hsplit ends, fun options htrees => ?_⟩
  have hsame := analyze_eq_of_reports_eq
    (Options.reports_eq_of_lines ((hsplit ends).trans (hsplit fun _ => .feed).symm) htrees)
  exact ⟨hsame options.cap, analyzeUpTo_congr hsame⟩

/-- Carriage returns in front of a line feed, within a call that moves value and before the last
brace. -/
theorem analyze_joinLines_with_returns :
    let lines := ["function f() \x7b", "a.call\x7b\rvalue", "\r\x7d"].map String.toList
    let ends : Nat → LineEnd := fun k => if k = 0 then .returnFeed else .feed
    joinLines ends lines = "function f() \x7b\r\na.call\x7b\rvalue\n\r\x7d".toList ∧
      (analyze (joinLines ends lines) {}).toOption.map (·.map Finding.code) =
        some [.missingBraces, .missingPayable] ∧
      (Document.ofText (joinLines ends lines)).lines = lines ∧
      analyze (joinLines ends lines) {} = analyze (joinLines (fun _ => .feed) lines) {} := by
  intro lines ends
  have hfound : (analyze (joinLines ends lines) {}).toOption.map (·.map Finding.code) =
      some [.missingBraces, .missingPayable] := by
    decide +kernel
  obtain ⟨hlines, hsame⟩ := analyze_joinLines lines ends (by decide) (by decide)
  exact ⟨by decide, hfound, hlines, (hsame {} rfl).1⟩

end SolidityLint
