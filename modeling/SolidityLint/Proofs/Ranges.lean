import SolidityLint.Proofs.Cap
import SolidityLint.Proofs.Marks

/-!
# Ranges of findings

Without a syntax tree every finding lies on one line of the document, is not empty and ends where
the line ends or before. Only braces are found in comments: all other findings end where the code
of their line ends or before (`analyze_ranges_on_lines`).
-/

namespace SolidityLint

-- ---------------------------------------------------------------------------
-- Rules on lines
-- ---------------------------------------------------------------------------

section
variable {scope : Scope} {names : Names} {rules : List Rule} {report : Report}

theorem rulesOutcome_onCode (scope : Scope) (here : Context) (hr : ∀ rule ∈ rules, rule ∈ lineRules)
    (hn : names.AllNamed) : (rulesOutcome scope here rules names).OnCode here := by
  induction rules generalizing names with
  | nil => exact .silent hn
  | cons rule rules ih =>
    obtain ⟨check, -, rfl⟩ := List.mem_map.mp (hr rule List.mem_cons_self)
    have hfirst := check.outcome_onCode scope here hn
    have hlater := ih (fun other ho => hr other (List.mem_cons_of_mem _ ho)) hfirst.names
    refine ⟨fun mark hm => ?_, hlater.names⟩
    rcases List.mem_append.mp hm with hm | hm
    · exact hfirst.marks mark hm
    · exact hlater.marks mark hm

theorem linesReports_onCode {row : Nat} {contexts : List Context}
    (hr : ∀ rule ∈ rules, rule ∈ lineRules) (hn : names.AllNamed)
    (h : report ∈ linesReports scope rules row contexts names) :
    ∃ (k : Nat) (here : Context) (mark : Mark), contexts[k]? = some here ∧ mark.OnCode here ∧
      report = mark.report (row + k : Nat) := by
  induction contexts generalizing row names with
  | nil => cases h
  | cons here rest ih =>
    have honCode := rulesOutcome_onCode scope here hr hn
    rcases List.mem_append.mp h with h | h
    · obtain ⟨mark, hm, rfl⟩ := List.mem_map.mp h
      exact ⟨0, here, mark, rfl, honCode.marks mark hm, rfl⟩
    · obtain ⟨k, other, mark, hk, hm, rfl⟩ := ih honCode.names h
      refine ⟨k + 1, other, mark, hk, hm, ?_⟩
      rw [Nat.add_right_comm]
      rfl

end

-- ---------------------------------------------------------------------------
-- Braces
-- ---------------------------------------------------------------------------

namespace Check.Braces

variable {braces : Braces} {P : Nat × Nat → Prop}

def All (P : Nat × Nat → Prop) (braces : Braces) : Prop :=
  (∀ place ∈ braces.opened, P place) ∧ ∀ place ∈ braces.extra, P place

theorem all_read {row column : Nat} (h : braces.All P) (hp : P (row, column)) (c : Char) :
    (braces.read row column c).All P := by
  obtain ⟨hopened, hextra⟩ := h
  unfold read
  split
  · refine ⟨fun place hm => ?_, hextra⟩
    rcases List.mem_cons.mp hm with rfl | hm
    · exact hp
    · exact hopened place hm
  · split
    · split
      · rename_i first opened ho
        exact ⟨fun place hm => hopened place (ho ▸ List.mem_cons_of_mem _ hm), hextra⟩
      · refine ⟨hopened, fun place hm => ?_⟩
        cases hm
        cases he : braces.extra with
        | none => exact hp
        | some place => exact hextra place he
    · exact ⟨hopened, hextra⟩

theorem all_readLine {row column : Nat} {line : Line} (h : braces.All P)
    (hp : ∀ k < line.length, P (row, column + k)) : (readLine row column line braces).All P := by
  induction line generalizing column braces with
  | nil => exact h
  | cons c rest ih =>
    refine ih (all_read h (hp 0 (Nat.zero_lt_succ _)) c) fun k hk => ?_
    have hnext := hp (k + 1) (Nat.succ_lt_succ hk)
    rwa [← Nat.add_assoc, Nat.add_right_comm] at hnext

theorem all_readLines {row : Nat} {lines : List Line} (h : braces.All P)
    (hp : ∀ (i : Nat) line, lines[i]? = some line → ∀ k < line.length, P (row + i, k)) :
    (readLines row lines braces).All P := by
  induction lines generalizing row braces with
  | nil => exact h
  | cons line lines ih =>
    have hfirst : (readLine row 0 line braces).All P := by
      refine all_readLine h fun k hk => ?_
      rw [Nat.zero_add]
      exact hp 0 line rfl k hk
    refine ih hfirst fun i other ho k hk => ?_
    rw [Nat.add_right_comm]
    exact hp (i + 1) other ho k hk

end Check.Braces

-- ---------------------------------------------------------------------------
-- Findings
-- ---------------------------------------------------------------------------

/-- On one of the lines, not empty, and on the code unless it is about braces. -/
def Report.LiesIn (lines : List Line) (report : Report) : Prop :=
  ∃ (row start stop : Nat) (line : Line), lines[row]? = some line ∧
    report.line = row ∧ report.start = start ∧ report.stop = stop ∧
    start < stop ∧ stop ≤ line.length ∧ (report.code ≠ .missingBraces → stop ≤ line.code.length)

theorem Mark.OnCode.report_liesIn {mark : Mark} {lines : List Line} {here : Context} {row : Nat}
    (h : mark.OnCode here) (hl : lines[row]? = some here.line) :
    (mark.report row).LiesIn lines := by
  obtain ⟨hlt, hle⟩ := h
  exact ⟨row, mark.span.start, mark.span.stop, here.line, hl, rfl, rfl, rfl, hlt,
    Nat.le_trans hle (Line.code_prefix here.line).length_le, fun _ => hle⟩

theorem Check.braceReports_liesIn {lines : List Line} {report : Report}
    (h : report ∈ braceReports lines) : report.LiesIn lines := by
  have hall : (Braces.readLines 0 lines {}).All
      fun place => ∀ message, (Braces.report place message).LiesIn lines := by
    refine Braces.all_readLines ⟨fun _ hm => (nomatch hm), fun _ hm => (nomatch hm)⟩ ?_
    intro i line hi k hk message
    rw [Nat.zero_add]
    exact ⟨i, k, k + 1, line, hi, rfl, rfl, rfl, Nat.lt_succ_self k, hk, fun hc => absurd rfl hc⟩
  rcases List.mem_append.mp h with h | h
  · obtain ⟨place, hp, rfl⟩ := Option.map_eq_some_iff.mp (Option.mem_toList.mp h)
    exact hall.2 place hp _
  · obtain ⟨place, hp, rfl⟩ := Option.map_eq_some_iff.mp (Option.mem_toList.mp h)
    exact hall.1 place (List.mem_of_head? hp) _

theorem Session.reports_liesIn {session : Session} {report : Report}
    (hn : session.names.AllNamed) (h : report ∈ session.reports lineRules none) :
    report.LiesIn session.document.lines := by
  rcases List.mem_append.mp h with h | h
  · rcases List.mem_append.mp h with h | h
    · cases h
    · unfold braceReports at h
      split at h
      · exact Check.braceReports_liesIn h
      · cases h
  · have hrules : ∀ rule ∈ lineRules.filter (session.rules.enabled ·.switch), rule ∈ lineRules :=
      fun rule hr => (List.mem_filter.mp hr).1
    obtain ⟨k, here, mark, hk, hm, rfl⟩ := linesReports_onCode hrules hn h
    rw [Context.each_getElem?] at hk
    obtain ⟨line, hl, rfl⟩ := Option.map_eq_some_iff.mp hk
    rw [Nat.zero_add]
    exact hm.report_liesIn hl

theorem analyze_ranges_on_lines (text : List Char) (options : Options) (found : List Finding)
    (h : analyze text { options with trees := none } = .ok found) :
    ∀ finding ∈ found, ∃ (i : Nat) (line : Line), (splitLines text)[i]? = some line ∧
      finding.range.start.line = i ∧ finding.range.stop.line = i ∧
      0 ≤ finding.range.start.character ∧
      finding.range.start.character < finding.range.stop.character ∧
      finding.range.stop.character ≤ line.length ∧
      (finding.code ≠ .missingBraces → finding.range.stop.character ≤ line.code.length) := by
  intro finding hf
  obtain ⟨patterns, -, rfl⟩ := analyze_ok_iff.mp h
  obtain ⟨report, hr, rfl⟩ := List.mem_map.mp (List.mem_of_mem_take hf)
  have hnames : Names.AllNamed {} := fun _ hm => (nomatch hm)
  obtain ⟨i, start, stop, line, hl, hline, hstart, hstop, hlt, hle, hcode⟩ :=
    Session.reports_liesIn hnames (firstOfEach_sublist.subset hr)
  refine ⟨i, line, hl, hline, hline, ?_⟩
  simp only [Report.finding, hstart, hstop, Int.ofNat_lt, Int.ofNat_le]
  exact ⟨Int.natCast_nonneg _, hlt, hle, hcode⟩

/-- The extra brace stands in a comment, the other findings do not reach it. -/
theorem analyze_ranges_on_line_with_comment :
    let text := "x = tx.origin // \x7d".toList
    ∃ found, analyze text { trees := none } = .ok found ∧ found.length = 4 ∧
      ∀ finding ∈ found, ∃ (i : Nat) (line : Line), (splitLines text)[i]? = some line ∧
        finding.range.start.line = i ∧ finding.range.stop.line = i ∧
        0 ≤ finding.range.start.character ∧
        finding.range.start.character < finding.range.stop.character ∧
        finding.range.stop.character ≤ line.length ∧
        (finding.code ≠ .missingBraces →
          finding.range.stop.character ≤ line.code.length) := by
  intro text
  have hfour : (analyze text { trees := none }).toOption.any (·.length == 4) = true := by
    decide +kernel
  cases ha : analyze text { trees := none } with
  | error fault => simp [ha, Except.toOption] at hfour
  | ok found =>
    have hlength : found.length = 4 := by simpa [ha, Except.toOption] using hfour
    exact ⟨found, rfl, hlength, analyze_ranges_on_lines text {} found ha⟩

end SolidityLint
