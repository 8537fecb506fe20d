import SolidityLint.Proofs.Cap
import SolidityLint.Proofs.Faults
import SolidityLint.Service.Response
import Mathlib.Algebra.Ring.Nat

/-!
# Summaries agree with findings and with each other

The counts by severity and by code are made from the findings on their own. They agree because every
finding of an analysis has the severity of its code (`severity_of_analyze`), so that the findings of
one severity are those of the codes with this severity (`run_summary_consistent`).
-/

namespace SolidityLint

-- ---------------------------------------------------------------------------
-- Tallies
-- ---------------------------------------------------------------------------

section
variable {α κ : Type} [DecidableEq κ] {items : List α} {key : α → κ} {keys : List κ}

/-- A dictionary with the number of items of each key. A key that does not occur has no entry. -/
structure Tallies (entries : List (κ × Nat)) (items : List α) (key : α → κ) : Prop where
  nodup : (entries.map Prod.fst).Nodup
  ne_zero : ∀ entry ∈ entries, entry.2 ≠ 0
  lookup : ∀ k, (entries.lookup k).getD 0 = items.countP (key · = k)
  sum : (entries.map Prod.snd).sum = items.length

def tally (items : List α) (key : α → κ) (keys : List κ) : List (κ × Nat) :=
  (keys.map fun k => (k, items.countP (key · = k))).filter (0 < ·.2)

theorem tally_cons (items : List α) (key : α → κ) (first : κ) (rest : List κ) :
    tally items key (first :: rest) =
      if 0 < items.countP (key · = first) then
        (first, items.countP (key · = first)) :: tally items key rest
      else tally items key rest := by
  simp [tally, List.filter_cons]

theorem lookup_tally (items : List α) (key : α → κ) (keys : List κ) (k : κ) :
    ((tally items key keys).lookup k).getD 0 =
      if k ∈ keys then items.countP (key · = k) else 0 := by
  induction keys with
  | nil => rfl
  | cons first rest ih =>
    rw [tally_cons]
    by_cases hk : k = first
    · subst hk
      rw [if_pos List.mem_cons_self]
      split
      · rw [List.lookup_cons_self, Option.getD_some]
      · rw [ih]
        split <;> omega
    · have hmem : k ∈ first :: rest ↔ k ∈ rest := by simp [hk]
      rw [if_congr hmem rfl rfl, ← ih]
      split
      · rw [List.lookup_cons, beq_false_of_ne hk]
      · rfl

theorem countP_mem_cons {first : κ} {rest : List κ} (h : first ∉ rest) :
    items.countP (key · ∈ first :: rest) =
      items.countP (key · = first) + items.countP (key · ∈ rest) := by
  induction items with
  | nil => rfl
  | cons item items ih =>
    -- An item has the first key or one of the others, and never both.
    rw [List.countP_cons, List.countP_cons, List.countP_cons, ih]
    by_cases hkey : key item = first
    · subst hkey
      simp only [List.mem_cons_self, h, decide_true, decide_false, if_true, Bool.false_eq_true,
        if_false]
      omega
    · simp only [List.mem_cons, hkey, false_or, decide_false, Bool.false_eq_true, if_false]
      omega

theorem sum_map_countP (items : List α) (key : α → κ) (hkeys : keys.Nodup) :
    (keys.map fun k => items.countP (key · = k)).sum = items.countP (key · ∈ keys) := by
  induction keys with
  | nil => simp
  | cons first rest ih =>
    obtain ⟨hfirst, hrest⟩ := List.nodup_cons.mp hkeys
    rw [List.map_cons, List.sum_cons, ih hrest, countP_mem_cons hfirst]

theorem sum_tally (items : List α) (key : α → κ) (keys : List κ) :
    ((tally items key keys).map Prod.snd).sum =
      (keys.map fun k => items.countP (key · = k)).sum := by
  induction keys with
  | nil => rfl
  | cons first rest ih =>
    rw [tally_cons, List.map_cons, List.sum_cons, ← ih]
    split
    · rfl
    · omega

theorem tallies_tally (items : List α) (key : α → κ) (hkeys : keys.Nodup) (hall : ∀ k, k ∈ keys) :
    Tallies (tally items key keys) items key where
  nodup := by
    have hmap : (keys.map fun k => (k, items.countP (key · = k))).map Prod.fst = keys := by
      rw [List.map_map]
      exact List.map_id keys
    refine List.Nodup.sublist (List.filter_sublist.map Prod.fst) ?_
    rwa [hmap]
  ne_zero entry h := Nat.ne_of_gt (of_decide_eq_true (List.mem_filter.mp h).2)
  lookup k := by rw [lookup_tally, if_pos (hall k)]
  sum := by simp [sum_tally, sum_map_countP items key hkeys, hall]

end

theorem Summary.tallies_codes (findings : List Finding) :
    Tallies (Summary.of findings).codes findings Finding.code :=
  tallies_tally findings Finding.code (by decide) fun code => by cases code <;> decide

theorem Summary.tallies_severities (findings : List Finding) :
    Tallies (Summary.of findings).severities findings Finding.severity :=
  tallies_tally findings Finding.severity (by decide) fun severity => by cases severity <;> decide

-- ---------------------------------------------------------------------------
-- Severities follow from codes
-- ---------------------------------------------------------------------------

variable {findings : List Finding}

theorem severity_of_analyze {text : List Char} {options : Options} {finding : Finding}
    (h : analyze text options = .ok findings) (hf : finding ∈ findings) :
    finding.severity = finding.code.severity := by
  obtain ⟨patterns, -, rfl⟩ := analyze_ok_iff.mp h
  obtain ⟨report, -, rfl⟩ := List.mem_map.mp (List.mem_of_mem_take hf)
  rfl

/-- If severities follow from codes, the findings of a severity are those of its codes. -/
theorem sum_countP_codes (h : ∀ finding ∈ findings, finding.severity = finding.code.severity)
    (severity : Severity) :
    ((Code.all.filter (·.severity = severity)).map fun code =>
      findings.countP (·.code = code)).sum = findings.countP (·.severity = severity) := by
  have hnodup : (Code.all.filter (·.severity = severity)).Nodup :=
    List.Nodup.sublist List.filter_sublist (by decide)
  rw [sum_map_countP findings Finding.code hnodup]
  refine List.countP_congr fun finding hf => ?_
  have hall : finding.code ∈ Code.all := by cases finding.code <;> decide
  simp [List.mem_filter, hall, h finding hf]

-- ---------------------------------------------------------------------------
-- Responses to requests
-- ---------------------------------------------------------------------------

/-- Whatever the parser gives, a request has a response unless a naming pattern that counts for it
is refused. Its summary has the number of findings, which the cap bounds, and a tally of severities
and one of codes. The number of findings of a severity is the sum over the codes with this
severity. -/
theorem run_summary_consistent (host : Host) (request : Request) (settings : Settings) :
    (∀ fault, request.run host settings = .error fault ↔
      (request.naming.getD settings.naming).texts.findSome? (refusal? host.fits) = some fault) ∧
    ∀ findings, request.run host settings = .ok findings →
      ∃ (severities : List (Severity × Nat)) (codes : List (Code × Nat)),
        findingsReport findings = .object [
          ("findings", .list (findings.map Finding.toValue)),
          ("summary", .object [
            ("total", .nat findings.length),
            ("by_severity", .object (severities.map fun (severity, count) =>
              (severity.name, .nat count))),
            ("by_code", .object (codes.map fun (code, count) => (code.name, .nat count)))])] ∧
        findings.length ≤ max 0 (request.maxProblems.getD settings.maxProblems) ∧
        Tallies severities findings Finding.severity ∧ Tallies codes findings Finding.code ∧
        ∀ severity, (severities.lookup severity).getD 0 =
          ((Code.all.filter (·.severity = severity)).map fun code =>
            (codes.lookup code).getD 0).sum := by
  refine ⟨fun fault => ?_, fun findings hrun => ?_⟩
  · have hnaming : (request.options host settings).patterns = .error fault ↔
        (request.naming.getD settings.naming).texts.findSome? (refusal? host.fits) = some fault :=
      mapM_patterns_eq_error_iff
    rw [← hnaming, Request.run, analyze_eq_map]
    cases (request.options host settings).patterns <;> simp [Except.map]
  · have hcodes := Summary.tallies_codes findings
    have hseverities := Summary.tallies_severities findings
    refine ⟨_, _, rfl, ?_, hseverities, hcodes, fun severity => ?_⟩
    · obtain ⟨patterns, -, rfl⟩ := analyze_ok_iff.mp hrun
      rw [List.length_take]
      dsimp only [Request.options]
      omega
    · simp only [hcodes.lookup, hseverities.lookup]
      exact (sum_countP_codes (fun _ => severity_of_analyze hrun) severity).symm

/-- Three findings of two severities, the last of which is cut off. -/
theorem run_summary_consistent_up_to_cap :
    let request : Request := { text := "x = tx.origin", maxProblems := some 2 }
    ∃ (findings : List Finding) (severities : List (Severity × Nat)) (codes : List (Code × Nat)),
      request.run {} {} = .ok findings ∧
      findings.map Finding.code = [.txOrigin, .missingSemicolon] ∧
      Tallies severities findings Finding.severity ∧ Tallies codes findings Finding.code ∧
      (severities.lookup .error).getD 0 = 1 ∧
      ((Code.all.filter (·.severity = .error)).map fun code =>
        (codes.lookup code).getD 0).sum = 1 := by
  intro request
  have hcodes : (request.run {} {}).toOption.map (·.map Finding.code) =
      some [.txOrigin, .missingSemicolon] := by decide +kernel
  have herrors : (request.run {} {}).toOption.map (·.countP (·.severity = .error)) = some 1 := by
    decide +kernel
  have hok : (request.run {} {}).isOk := by decide +kernel
  obtain ⟨findings, hrun⟩ := exists_of_isOk hok
  rw [hrun] at hcodes herrors
  obtain ⟨severities, codes, -, -, hseverities, htally, hsum⟩ :=
    (run_summary_consistent {} request {}).2 findings hrun
  have herror : (severities.lookup .error).getD 0 = 1 :=
    (hseverities.lookup .error).trans (Option.some.inj herrors)
  exact ⟨findings, severities, codes, hrun, Option.some.inj hcodes, hseverities, htally, herror,
    (hsum .error).symm.trans herror⟩

end SolidityLint
