import SolidityLint.Finding.KeyedSink
import SolidityLint.Proofs.Sink

/-!
# A set of keys beside the findings

The set of a sink always holds the keys of its findings and nothing else (`Faithful`), because a
push does all or nothing (`push_cases`). So looking a key up in the set is as good as comparing a
report with all findings, and the sink keeps the first report of each key up to its cap
(`pushAll_keeps_first_of_each`).
-/

namespace SolidityLint.KeyedSink

variable {sink : KeyedSink} {report : Report}

def toSink (sink : KeyedSink) : Sink :=
  { cap := sink.cap, findings := sink.findings }

@[simp] theorem isFull_toSink (sink : KeyedSink) : sink.toSink.isFull = sink.isFull := rfl

theorem toNat_max_zero (cap : Int) : (max 0 cap).toNat = cap.toNat := by omega

@[simp] theorem toSink_ofCap (cap : Int) : (ofCap cap).toSink = Sink.ofCap cap := by
  simp [ofCap, toSink, Sink.ofCap, toNat_max_zero]

@[simp] theorem pushAll_nil (sink : KeyedSink) : sink.pushAll [] = sink := rfl

@[simp] theorem pushAll_cons (sink : KeyedSink) (report : Report) (reports : List Report) :
    sink.pushAll (report :: reports) = (sink.push report).1.pushAll reports := rfl

theorem push_cases (sink : KeyedSink) (report : Report) :
    ((sink.isFull = true ∨ report.key ∈ sink.reported) ∧ sink.push report = (sink, false)) ∨
    (sink.isFull = false ∧ report.key ∉ sink.reported ∧
      sink.push report =
        ({ sink with
           reported := report.key :: sink.reported
           findings := sink.findings ++ [report.finding] }, true)) := by
  cases hf : sink.isFull with
  | true => exact .inl ⟨.inl rfl, by simp [push, hf]⟩
  | false =>
    by_cases hm : report.key ∈ sink.reported
    · exact .inl ⟨.inr hm, by simp [push, hm]⟩
    · exact .inr ⟨rfl, hm, by simp [push, hf, hm]⟩

/-- The set holds the keys of the findings, each of them once. -/
structure Faithful (sink : KeyedSink) : Prop where
  perm : sink.reported.Perm (sink.findings.map Finding.key)
  nodup : sink.reported.Nodup

theorem faithful_ofCap (cap : Int) : (ofCap cap).Faithful := ⟨.nil, .nil⟩

namespace Faithful

theorem mem_reported (h : sink.Faithful) {key : Key} :
    key ∈ sink.reported ↔ key ∈ sink.toSink.keys :=
  h.perm.mem_iff

theorem push (h : sink.Faithful) (report : Report) : (sink.push report).1.Faithful := by
  rcases sink.push_cases report with ⟨-, hp⟩ | ⟨-, hm, hp⟩
  · rwa [hp]
  · rw [hp]
    refine ⟨?_, List.nodup_cons.mpr ⟨hm, h.nodup⟩⟩
    simp only [List.map_append, List.map_cons, List.map_nil, Sink.key_finding]
    exact (h.perm.cons report.key).trans (List.perm_append_singleton _ _).symm

theorem toSink_push (h : sink.Faithful) (report : Report) :
    (sink.push report).1.toSink = sink.toSink.push report := by
  rcases sink.push_cases report with ⟨hf | hm, hp⟩ | ⟨hf, hm, hp⟩
  · rw [← isFull_toSink] at hf
    rw [hp, Sink.push_of_isFull hf]
  · rw [hp, Sink.push_of_mem (h.mem_reported.mp hm)]
  · rw [← isFull_toSink] at hf
    rw [hp, Sink.push_of_not_mem hf (mt h.mem_reported.mpr hm)]
    rfl

theorem pushAll (h : sink.Faithful) (reports : List Report) :
    (sink.pushAll reports).Faithful ∧
      (sink.pushAll reports).toSink = sink.toSink.pushAll reports := by
  induction reports generalizing sink with
  | nil => exact ⟨h, rfl⟩
  | cons report later ih =>
    obtain ⟨hfaithful, hsink⟩ := ih (h.push report)
    exact ⟨hfaithful, by simpa [h.toSink_push] using hsink⟩

end Faithful

/-- A sink keeps the first report of each key up to its cap, with the severity of its code. It is
full when so many are kept, its set holds their keys and nothing else, and the next push either
keeps its report or leaves everything as it is; a sink without a set keeps the same. -/
theorem pushAll_keeps_first_of_each (cap : Int) (reports : List Report) :
    let sink := (ofCap cap).pushAll reports
    sink.findings = ((firstOfEach [] reports).take (max 0 cap).toNat).map Report.finding ∧
    (sink.isFull = true ↔ (sink.findings.length : Int) = max 0 cap) ∧
    (sink.reported.Nodup ∧ sink.reported.Perm (sink.findings.map Finding.key)) ∧
    (∀ finding ∈ sink.findings, finding.severity = finding.code.severity) ∧
    (∀ report,
      ((sink.push report).2 = true ∧
        (sink.push report).1.findings = sink.findings ++ [report.finding]) ∨
      ((sink.push report).2 = false ∧ (sink.push report).1 = sink)) ∧
    sink.toSink = (Sink.ofCap cap).pushAll reports := by
  intro sink
  obtain ⟨hfaithful, hsink⟩ := (faithful_ofCap cap).pushAll reports
  rw [toSink_ofCap] at hsink
  have hkept : sink.findings =
      ((firstOfEach [] reports).take (max 0 cap).toNat).map Report.finding := by
    have hfindings := congrArg Sink.findings hsink
    rw [Sink.ofCap_pushAll_findings, ← List.map_take] at hfindings
    rwa [toNat_max_zero]
  have hcap : sink.cap = cap.toNat := by
    have hsame := congrArg Sink.cap hsink
    rwa [Sink.pushAll_cap] at hsame
  refine ⟨hkept, ?_, ⟨hfaithful.nodup, hfaithful.perm⟩, ?_, ?_, hsink⟩
  · have hlength := congrArg List.length hkept
    rw [List.length_map, List.length_take] at hlength
    simp only [isFull, decide_eq_true_eq, hcap]
    omega
  · intro finding hf
    rw [hkept] at hf
    obtain ⟨report, -, rfl⟩ := List.mem_map.mp hf
    rfl
  · intro report
    rcases sink.push_cases report with ⟨-, hp⟩ | ⟨-, -, hp⟩
    · exact .inr ⟨congrArg Prod.snd hp, congrArg Prod.fst hp⟩
    · exact .inl ⟨congrArg Prod.snd hp, congrArg (·.1.findings) hp⟩

end SolidityLint.KeyedSink
