import SolidityLint.Proofs.Cap
import SolidityLint.Proofs.Highlights
import SolidityLint.Proofs.Switches
import SolidityLint.Proofs.WholeWords

/-!
# Later uses are found

A name that was found without a type stays marked to the end of an analysis, and on every line from
there on the first place where it stands as a whole word is the range of a finding
(`analyze_finds_later_uses`). On the line where the name was found this rests on the order of the
checks: no check behind the one for later uses finds names.
-/

namespace SolidityLint

open Pattern

-- ---------------------------------------------------------------------------
-- Whole words
-- ---------------------------------------------------------------------------

namespace Check

variable {name text front back : List Char}

theorem isExact_wholeWord (name : List Char) : (wholeWord name).isExact = true := by
  have hname : (all (name.map char)).isExact = true := by
    induction name with
    | nil => rfl
    | cons x name ih =>
      cases name with
      | nil => rfl
      | cons y name => exact ih
  exact (Bool.and_true _).trans hname

theorem isWholeWord_of_takes {a b : Place} (ha : a.In text) (h : (wholeWord name).Takes a b) :
    Text.IsWholeWord name text a.before.reverse b.after := by
  obtain ⟨hstart, hr, hstop⟩ := takes_wholeWord.mp h
  refine ⟨?_, ?_, ?_⟩
  · rw [List.append_assoc, ← hr.after]
    exact ha.text.symm
  · rwa [← hr.after, isBoundary_eq]
  · have hb : b.before.reverse = a.before.reverse ++ name := by
      rw [hr.before, List.reverse_append, List.reverse_reverse]
    rwa [← hb, isBoundary_eq]

theorem takes_of_isWholeWord (h : Text.IsWholeWord name text front back) :
    (wholeWord name).Takes ⟨front.length, front.reverse, name ++ back⟩
      ⟨front.length + name.length, name.reverse ++ front.reverse, back⟩ := by
  refine takes_wholeWord.mpr ⟨?_, ⟨rfl, rfl, rfl⟩, ?_⟩
  · rw [← isBoundary_eq, List.reverse_reverse]
    exact h.starts
  · rw [← isBoundary_eq, ← List.reverse_append, List.reverse_reverse]
    exact h.stops

theorem exists_search?_wholeWord (h : Text.IsWholeWord name text front back) :
    ∃ found, (wholeWord name).search? text = some found ∧ found.span.start ≤ front.length := by
  have hin : Place.In ⟨front.length, front.reverse, name ++ back⟩ text := by
    rw [h.text_eq, List.append_assoc]
    exact .of_append front (name ++ back)
  exact exists_search?_le (isPlain_wholeWord name) (isExact_wholeWord name) hin
    (takes_of_isWholeWord h)

theorem isFirstWholeWord_of_search? {found : Match}
    (h : (wholeWord name).search? text = some found) :
    ∃ front back, Text.IsFirstWholeWord name text front back ∧
      found.span = ⟨front.length, front.length + name.length⟩ := by
  obtain ⟨a, ha, hm⟩ := foundIn_of_search? h
  obtain ⟨b, hb, hspan⟩ := takes_of_matchAt? (isPlain_wholeWord name) hm
  have hpos : a.before.reverse.length = a.pos := List.length_reverse.trans ha.pos.symm
  refine ⟨_, _, ⟨isWholeWord_of_takes ha hb, fun front back hword => ?_⟩, ?_⟩
  · obtain ⟨first, hfirst, hle⟩ := exists_search?_wholeWord hword
    cases h.symm.trans hfirst
    rwa [hspan, ← hpos] at hle
  · rw [hspan, hpos, (takes_wholeWord.mp hb).2.1.pos]

end Check

-- ---------------------------------------------------------------------------
-- One line
-- ---------------------------------------------------------------------------

section
variable {scope : Scope} {here : Context} {names : Names} {name : List Char} {rules : Rules}

theorem LineCheck.outcome_grows (check : LineCheck) (scope : Scope) (names : Names)
    (here : Context) : names.missing <+: (check.rule.outcome scope names here).names.missing :=
  (check.outcome_shows scope names here).grows

theorem rulesOutcome_grows (scope : Scope) (here : Context) (rules : Rules)
    (checks : List LineCheck) (names : Names) :
    names.missing <+: (rulesOutcome scope here (rules.active checks) names).names.missing := by
  induction checks generalizing names with
  | nil => exact List.prefix_rfl
  | cons check checks ih =>
    by_cases hon : rules.enabled check.switch = true
    · rw [Rules.active_cons_of_on hon, rulesOutcome]
      exact (check.outcome_grows scope names here).trans (ih _)
    · rw [Rules.active_cons_of_off hon]
      exact ih names

theorem rulesOutcome_names {checks : List LineCheck}
    (h : ∀ check ∈ checks, check.switch ≠ .missingDataType) (names : Names) :
    (rulesOutcome scope here (rules.active checks) names).names = names := by
  induction checks generalizing names with
  | nil => rfl
  | cons check checks ih =>
    obtain ⟨hcheck, hlater⟩ := List.forall_mem_cons.mp h
    by_cases hon : rules.enabled check.switch = true
    · have hfirst : (check.rule.outcome scope names here).names = names := by
        rw [LineCheck.outcome_eq_of_switch_ne hcheck scope names names here]
      rw [Rules.active_cons_of_on hon, rulesOutcome]
      exact (ih hlater _).trans hfirst
    · rw [Rules.active_cons_of_off hon]
      exact ih hlater names

/-- The check for later uses is the last one for data types. -/
theorem Rules.exists_active_split (hon : rules.enabled .missingDataType = true) :
    ∃ earlier later : List LineCheck, rules.active LineCheck.all =
      rules.active earlier ++ LineCheck.laterUses.rule :: rules.active later ∧
      ∀ check ∈ later, check.switch ≠ .missingDataType := by
  have hswitch : rules.enabled LineCheck.laterUses.switch = true := hon
  refine ⟨LineCheck.all.take 17, LineCheck.all.drop 18, ?_, by decide⟩
  rw [← active_cons_of_on hswitch, ← active_append]
  rfl

theorem mem_rulesOutcome_of_missing (hon : rules.enabled .missingDataType = true)
    (hname : name ∈ (rulesOutcome scope here (rules.active LineCheck.all) names).names.missing)
    {found : Match} (hfound : (Check.wholeWord name).search? here.code = some found) :
    Check.dataTypeMark found.span ∈
      (rulesOutcome scope here (rules.active LineCheck.all) names).marks := by
  obtain ⟨earlier, later, hactive, hlater⟩ := Rules.exists_active_split hon
  rw [hactive, rulesOutcome_append] at hname ⊢
  dsimp only at hname ⊢
  generalize rulesOutcome scope here (rules.active earlier) names = before at hname ⊢
  have hafter : (rulesOutcome scope here
      (LineCheck.laterUses.rule :: rules.active later) before.names).names = before.names :=
    rulesOutcome_names hlater before.names
  rw [hafter] at hname
  have huse : Check.dataTypeMark found.span ∈ Check.laterUses here before.names :=
    List.mem_filterMap.mpr ⟨name, hname, by rw [hfound]; rfl⟩
  exact List.mem_append_right _ (List.mem_append_left _ huse)

end

-- ---------------------------------------------------------------------------
-- Lines
-- ---------------------------------------------------------------------------

def linesNames (scope : Scope) (rules : List Rule) (contexts : List Context) (names : Names) :
    Names :=
  contexts.foldl (fun names here => (rulesOutcome scope here rules names).names) names

section
variable {scope : Scope} {rules : Rules} {contexts : List Context} {here : Context} {names : Names}
  {name : List Char}

theorem linesNames_grows (scope : Scope) (rules : Rules) (contexts : List Context) (names : Names) :
    names.missing <+:
      (linesNames scope (rules.active LineCheck.all) contexts names).missing := by
  induction contexts generalizing names with
  | nil => exact List.prefix_rfl
  | cons here rest ih => exact (rulesOutcome_grows scope here rules _ names).trans (ih _)

theorem linesNames_take_subset {k n : Nat} (h : k ≤ n) :
    (linesNames scope (rules.active LineCheck.all) (contexts.take k) names).missing ⊆
      (linesNames scope (rules.active LineCheck.all) (contexts.take n) names).missing := by
  obtain ⟨rest, hrest⟩ : contexts.take k <+: contexts.take n := List.take_prefix_take_left h
  rw [← hrest, linesNames, linesNames, List.foldl_append]
  exact (linesNames_grows scope rules _ _).subset

theorem linesNames_take_succ {table : List Rule} {k : Nat} (hk : contexts[k]? = some here) :
    linesNames scope table (contexts.take (k + 1)) names =
      (rulesOutcome scope here table (linesNames scope table (contexts.take k) names)).names := by
  rw [linesNames, List.take_add_one, hk, List.foldl_append]
  rfl

theorem mem_linesReports {table : List Rule} {row k : Nat} {mark : Mark}
    (hk : contexts[k]? = some here)
    (hm : mark ∈ (rulesOutcome scope here table
      (linesNames scope table (contexts.take k) names)).marks) :
    mark.report (row + k : Nat) ∈ linesReports scope table row contexts names := by
  induction contexts generalizing row k names with
  | nil => cases hk
  | cons first rest ih =>
    rw [linesReports]
    cases k with
    | zero =>
      cases hk
      exact List.mem_append_left _ (List.mem_map_of_mem hm)
    | succ k =>
      have hlater : mark.report (row + 1 + k : Nat) ∈ linesReports scope table (row + 1) rest
          (rulesOutcome scope first table names).names := ih hk hm
      rw [Nat.add_right_comm] at hlater
      exact List.mem_append_right _ hlater

theorem exists_of_mem_linesReports {table : List Rule} {row : Nat} {report : Report}
    (h : report ∈ linesReports scope table row contexts names) :
    ∃ (k : Nat) (here : Context) (mark : Mark), contexts[k]? = some here ∧
      mark ∈ (rulesOutcome scope here table
        (linesNames scope table (contexts.take k) names)).marks ∧
      report = mark.report (row + k : Nat) := by
  induction contexts generalizing row names with
  | nil => cases h
  | cons first rest ih =>
    rcases List.mem_append.mp h with h | h
    · obtain ⟨mark, hm, rfl⟩ := List.mem_map.mp h
      exact ⟨0, first, mark, rfl, hm, rfl⟩
    · obtain ⟨k, here, mark, hk, hm, rfl⟩ := ih h
      refine ⟨k + 1, here, mark, hk, hm, ?_⟩
      rw [Nat.add_right_comm]
      rfl

end

namespace Session

theorem applyLines_of_isFull {session : Session} (h : session.sink.isFull = true)
    (table : List Rule) (row : Nat) (contexts : List Context) :
    session.applyLines table row contexts = session := by
  cases contexts with
  | nil => rfl
  | cons here rest => rw [applyLines, if_pos h]

theorem applyLines_append (session : Session) (table : List Rule) (row : Nat)
    (first second : List Context) :
    session.applyLines table row (first ++ second) =
      (session.applyLines table row first).applyLines table (row + first.length) second := by
  induction first generalizing session row with
  | nil => rfl
  | cons here rest ih =>
    rw [List.cons_append, applyLines, applyLines]
    split
    · rename_i hfull
      rw [applyLines_of_isFull hfull]
    · rw [ih, List.length_cons, Nat.add_assoc, Nat.add_comm 1]

/-- Leaving the loop at a full sink leaves names out, and never adds any. -/
theorem names_applyLines_subset (session : Session) (rules : Rules) (row : Nat)
    (contexts : List Context) :
    (session.applyLines (rules.active LineCheck.all) row contexts).names.missing ⊆
      (linesNames session.scope (rules.active LineCheck.all) contexts session.names).missing := by
  induction contexts generalizing session row with
  | nil => exact List.Subset.refl _
  | cons here rest ih =>
    rw [applyLines]
    split
    · exact (linesNames_grows _ _ _ _).subset
    · rw [applyAll_eq]
      exact ih _ _

theorem names_applyLines_grows (session : Session) (rules : Rules) (row : Nat)
    (contexts : List Context) :
    session.names.missing ⊆
      (session.applyLines (rules.active LineCheck.all) row contexts).names.missing := by
  induction contexts generalizing session row with
  | nil => exact List.Subset.refl _
  | cons here rest ih =>
    rw [applyLines]
    split
    · exact List.Subset.refl _
    · have hstep : session.names.missing ⊆
          (session.applyAll row here (rules.active LineCheck.all)).names.missing := by
        rw [applyAll_eq]
        exact (rulesOutcome_grows session.scope here rules _ session.names).subset
      exact List.Subset.trans hstep (ih _ _)

-- ---------------------------------------------------------------------------
-- Whole runs
-- ---------------------------------------------------------------------------

/-- An analysis up to and without line `count`. -/
def throughLines (trees : Option TreeSource) (count : Nat) (session : Session) : Session :=
  applyLines (lineRules.filter (session.rules.enabled ·.switch)) 0
    ((Context.each session.document.lines).take count) (session.assistIf trees).checkBracesIf

variable {session : Session} {trees : Option TreeSource} {k n : Nat}

theorem analyze_eq_throughLines (h : (Context.each session.document.lines).length ≤ k) :
    session.analyze lineRules trees = session.throughLines trees k := by
  rw [throughLines, List.take_of_length_le h, analyze]

theorem names_throughLines_subset (h : k ≤ n) :
    (session.throughLines trees k).names.missing ⊆
      (session.throughLines trees n).names.missing := by
  obtain ⟨rest, hrest⟩ : (Context.each session.document.lines).take k <+:
      (Context.each session.document.lines).take n := List.take_prefix_take_left h
  rw [throughLines, throughLines, ← hrest, applyLines_append, Rules.filter_lineRules]
  exact names_applyLines_grows _ _ _ _

theorem names_throughLines_linesNames :
    (session.throughLines trees k).names.missing ⊆
      (linesNames session.scope (session.rules.active LineCheck.all)
        ((Context.each session.document.lines).take k) session.names).missing := by
  rw [throughLines, Rules.filter_lineRules, assistIf_eq_with_sink, checkBracesIf_eq]
  exact names_applyLines_subset _ _ _ _

theorem exists_report_of_missing {i j : Nat} {name front back : List Char} {here : Context}
    (hon : session.rules.enabled .missingDataType = true)
    (hname : name ∈ (session.throughLines trees (i + 1)).names.missing) (hj : i ≤ j)
    (hhere : (Context.each session.document.lines)[j]? = some here)
    (h : Text.IsWholeWord name here.code front back) :
    ∃ front back, Text.IsFirstWholeWord name here.code front back ∧
      (Check.dataTypeMark ⟨front.length, front.length + name.length⟩).report j ∈
        session.reports lineRules trees := by
  have hknown := linesNames_take_subset (Nat.succ_le_succ hj) (names_throughLines_linesNames hname)
  rw [linesNames_take_succ hhere] at hknown
  obtain ⟨found, hfound, -⟩ := Check.exists_search?_wholeWord h
  obtain ⟨front, back, hfirst, hspan⟩ := Check.isFirstWholeWord_of_search? hfound
  have hmark : (Check.dataTypeMark found.span).report (0 + j : Nat) ∈ linesReports session.scope
      (session.rules.active LineCheck.all) 0 (Context.each session.document.lines) session.names :=
    mem_linesReports hhere (mem_rulesOutcome_of_missing hon hknown hfound)
  rw [hspan, Nat.zero_add, ← Rules.filter_lineRules] at hmark
  exact ⟨front, back, hfirst, List.mem_append_right _ hmark⟩

end Session

/-- A name that was found without a type by the end of line `i` stays marked, whatever follows. On
each line from `i` on where it stands as a whole word, the first such place is the range of a
finding. -/
theorem analyze_finds_later_uses {text : List Char} {options : Options} {session : Session}
    (hstart : Session.start text options.rules options.cap options.naming options.fits =
      .ok session)
    (hon : options.rules.enabled .missingDataType = true) (hample : options.IsAmple text) :
    ∃ found, analyze text options = .ok found ∧
      ∀ (i : Nat) (name : List Char),
        name ∈ (session.throughLines options.trees (i + 1)).names.missing →
        (∀ k > i, name ∈ (session.throughLines options.trees k).names.missing) ∧
        name ∈ (session.analyze lineRules options.trees).names.missing ∧
        ∀ j ≥ i, ∀ line, (splitLines text)[j]? = some line →
          (∃ front back, Text.IsWholeWord name line.code front back) →
          ∃ front back, Text.IsFirstWholeWord name line.code front back ∧
            ∃ finding ∈ found, finding.code = .missingDataType ∧
              finding.range = ⟨⟨j, front.length⟩, ⟨j, front.length + name.length⟩⟩ := by
  obtain ⟨patterns, hp, rfl⟩ := Session.exists_fresh_of_start hstart
  have hfound := hample.analyze_eq
  rw [Options.patterns, hp] at hfound
  refine ⟨_, hfound, fun i name hname => ⟨?_, ?_, ?_⟩⟩
  · intro k hk
    exact Session.names_throughLines_subset hk hname
  · rw [Session.analyze_eq_throughLines (Nat.le_max_left _ (i + 1))]
    exact Session.names_throughLines_subset (Nat.le_max_right _ _) hname
  · rintro j hj line hline ⟨_, _, hword⟩
    have hhere : (Context.each (splitLines text))[j]? = some
        ⟨((splitLines text).take j).reverse, line, (splitLines text).drop (j + 1)⟩ := by
      rw [Context.each_getElem?, hline]
      rfl
    obtain ⟨front, back, hfirst, hreport⟩ :=
      Session.exists_report_of_missing hon hname hj hhere hword
    -- another check may have reported the same place before, with the same key
    obtain ⟨kept, hkept, hkey⟩ := exists_mem_firstOfEach hreport List.not_mem_nil
    refine ⟨front, back, hfirst, kept.finding, List.mem_map_of_mem hkept,
      congrArg Key.code hkey, ?_⟩
    simp only [Report.key, Key.mk.injEq] at hkey
    simp only [Report.finding, hkey]
    rfl

/-- A name is found on the first line, declared on the second, and found again behind a longer word
on the third. -/
theorem analyze_finds_later_uses_after_declaration :
    let text := "x = 1;\nuint x;\nfoo(xx, x, x);".toList
    let options : Options := {}
    ∃ session found,
      Session.start text options.rules options.cap options.naming options.fits = .ok session ∧
      analyze text options = .ok found ∧
      (session.throughLines options.trees 2).names.declared = ["x".toList] ∧
      "x".toList ∈ (session.throughLines options.trees 3).names.missing ∧
      ∃ front back, Text.IsFirstWholeWord "x".toList "foo(xx, x, x);".toList front back ∧
        ∃ finding ∈ found, finding.code = .missingDataType ∧
          finding.range = ⟨⟨2, front.length⟩, ⟨2, front.length + 1⟩⟩ := by
  intro text options
  have hstart : Session.start text .allOn defaultCap none fitsUsually =
      .ok (.fresh text .allOn defaultCap none) := rfl
  have hample : options.IsAmple text := Options.isAmple_of_not_reached (by decide +kernel)
  obtain ⟨found, hfound, hlater⟩ := analyze_finds_later_uses hstart rfl hample
  obtain ⟨hkept, -, huses⟩ := hlater 0 "x".toList (by decide +kernel)
  refine ⟨_, found, hstart, hfound, by decide +kernel, hkept 3 (by decide), ?_⟩
  have hword : Text.IsWholeWord "x".toList "foo(xx, x, x);".toList "foo(xx, ".toList
      ", x);".toList := by
    decide +kernel
  exact huses 2 (by decide) _ rfl ⟨_, _, hword⟩

end SolidityLint
