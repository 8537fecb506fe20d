import SolidityLint.Finding.Sink

/-!
# What a sink keeps

A sink keeps the first report of each key up to its cap (`pushAll_findings`), so what it holds
depends on the reports alone and not on when they come. A full sink stays as it is. A sighting that
a report can be made of is pushed as this report (`offer_of_report`); of any other one only the key
is left.
-/

namespace SolidityLint

/-- The first report of each key, without the keys that were seen before. -/
def firstOfEach (seen : List Key) : List Report → List Report
  | [] => []
  | report :: later =>
    if report.key ∈ seen then firstOfEach seen later
    else report :: firstOfEach (seen ++ [report.key]) later

section
variable {seen : List Key} {report : Report} {reports : List Report}

theorem firstOfEach_cons_of_mem (h : report.key ∈ seen) :
    firstOfEach seen (report :: reports) = firstOfEach seen reports := by
  simp [firstOfEach, h]

theorem firstOfEach_cons_of_not_mem (h : report.key ∉ seen) :
    firstOfEach seen (report :: reports) =
      report :: firstOfEach (seen ++ [report.key]) reports := by
  simp [firstOfEach, h]

theorem firstOfEach_sublist : (firstOfEach seen reports).Sublist reports := by
  induction reports generalizing seen with
  | nil => exact .slnil
  | cons report later ih =>
    by_cases h : report.key ∈ seen
    · rw [firstOfEach_cons_of_mem h]
      exact ih.cons report
    · rw [firstOfEach_cons_of_not_mem h]
      exact ih.cons_cons report

theorem key_not_mem_seen (h : report ∈ firstOfEach seen reports) : report.key ∉ seen := by
  induction reports generalizing seen with
  | nil => simp [firstOfEach] at h
  | cons first later ih =>
    by_cases hs : first.key ∈ seen
    · rw [firstOfEach_cons_of_mem hs] at h
      exact ih h
    · rw [firstOfEach_cons_of_not_mem hs] at h
      rcases List.mem_cons.mp h with rfl | h
      · exact hs
      · exact fun hm => ih h (List.mem_append_left _ hm)

theorem firstOfEach_pairwise :
    (firstOfEach seen reports).Pairwise fun one other => one.key ≠ other.key := by
  induction reports generalizing seen with
  | nil => exact .nil
  | cons first later ih =>
    by_cases hs : first.key ∈ seen
    · rw [firstOfEach_cons_of_mem hs]
      exact ih
    · rw [firstOfEach_cons_of_not_mem hs]
      refine List.pairwise_cons.mpr ⟨fun other ho he => ?_, ih⟩
      exact key_not_mem_seen ho (by simp [he])

theorem exists_mem_firstOfEach (h : report ∈ reports) (hs : report.key ∉ seen) :
    ∃ kept ∈ firstOfEach seen reports, kept.key = report.key := by
  induction reports generalizing seen with
  | nil => simp at h
  | cons first later ih =>
    by_cases hf : first.key ∈ seen
    · rw [firstOfEach_cons_of_mem hf]
      rcases List.mem_cons.mp h with rfl | h
      · exact absurd hf hs
      · exact ih h hs
    · rw [firstOfEach_cons_of_not_mem hf]
      by_cases he : first.key = report.key
      · exact ⟨first, by simp, he⟩
      · have hl : report ∈ later := by
          rcases List.mem_cons.mp h with rfl | h
          · exact absurd rfl he
          · exact h
        have hn : report.key ∉ seen ++ [first.key] := by simp [hs, Ne.symm he]
        obtain ⟨kept, hk, hkey⟩ := ih hl hn
        exact ⟨kept, List.mem_cons_of_mem _ hk, hkey⟩

theorem firstOfEach_eq_nil_iff :
    firstOfEach seen reports = [] ↔ ∀ report ∈ reports, report.key ∈ seen := by
  constructor
  · intro h report hr
    refine Decidable.byContradiction fun hs => ?_
    obtain ⟨kept, hk, -⟩ := exists_mem_firstOfEach hr hs
    rw [h] at hk
    cases hk
  · intro h
    refine List.eq_nil_iff_forall_not_mem.mpr fun report hr => ?_
    exact key_not_mem_seen hr (h report (firstOfEach_sublist.subset hr))

/-- Reports with other keys have no part in which reports are kept. -/
theorem filter_firstOfEach (p : Key → Bool) (seen : List Key) (reports : List Report) :
    (firstOfEach seen reports).filter (p ·.key) =
      firstOfEach (seen.filter p) (reports.filter (p ·.key)) := by
  induction reports generalizing seen with
  | nil => rfl
  | cons report later ih =>
    by_cases hp : p report.key = true
    · have hm : report.key ∈ seen.filter p ↔ report.key ∈ seen := by
        simp [hp]
      have hf : ∀ rest, (report :: rest).filter (p ·.key) = report :: rest.filter (p ·.key) :=
        fun rest => by simp [hp]
      rw [hf]
      by_cases hs : report.key ∈ seen
      · rw [firstOfEach_cons_of_mem hs, firstOfEach_cons_of_mem (hm.mpr hs), ih]
      · rw [firstOfEach_cons_of_not_mem hs, firstOfEach_cons_of_not_mem (mt hm.mp hs), hf, ih,
          List.filter_append]
        simp [hp]
    · have hf : ∀ rest, (report :: rest).filter (p ·.key) = rest.filter (p ·.key) :=
        fun rest => by simp [hp]
      rw [hf]
      by_cases hs : report.key ∈ seen
      · rw [firstOfEach_cons_of_mem hs, ih]
      · rw [firstOfEach_cons_of_not_mem hs, hf, ih, List.filter_append]
        simp [hp]

theorem firstOfEach_congr {other : List Key}
    (h : ∀ report ∈ reports, (report.key ∈ seen ↔ report.key ∈ other)) :
    firstOfEach seen reports = firstOfEach other reports := by
  induction reports generalizing seen other with
  | nil => rfl
  | cons report later ih =>
    have hreport := h report List.mem_cons_self
    have hlater : ∀ next ∈ later, (next.key ∈ seen ↔ next.key ∈ other) :=
      fun next hn => h next (List.mem_cons_of_mem _ hn)
    by_cases hs : report.key ∈ seen
    · rw [firstOfEach_cons_of_mem hs, firstOfEach_cons_of_mem (hreport.mp hs), ih hlater]
    · rw [firstOfEach_cons_of_not_mem hs, firstOfEach_cons_of_not_mem (mt hreport.mpr hs)]
      refine congrArg (report :: ·) (ih fun next hn => ?_)
      simp only [List.mem_append, hlater next hn]

theorem firstOfEach_append (seen : List Key) (first second : List Report) :
    firstOfEach seen (first ++ second) =
      firstOfEach seen first ++
        firstOfEach (seen ++ (firstOfEach seen first).map Report.key) second := by
  induction first generalizing seen with
  | nil => simp [firstOfEach]
  | cons report later ih =>
    rw [List.cons_append]
    by_cases hs : report.key ∈ seen
    · rw [firstOfEach_cons_of_mem hs, firstOfEach_cons_of_mem hs, ih]
    · rw [firstOfEach_cons_of_not_mem hs, firstOfEach_cons_of_not_mem hs, ih]
      simp

/-- Reports take nothing from each other if they have no key in common. -/
theorem firstOfEach_append_of_apart {first second : List Report}
    (h : ∀ one ∈ first, ∀ other ∈ second, one.key ≠ other.key) :
    firstOfEach [] (first ++ second) = firstOfEach [] first ++ firstOfEach [] second := by
  rw [firstOfEach_append]
  refine congrArg (firstOfEach [] first ++ ·) (firstOfEach_congr fun other ho => ?_)
  refine ⟨fun hm => ?_, nofun⟩
  obtain ⟨one, hone, he⟩ := List.mem_map.mp hm
  exact absurd he (h one (firstOfEach_sublist.subset hone) other ho)

theorem firstOfEach_of_same_key {key : Key} (h : ∀ report ∈ reports, report.key = key) :
    firstOfEach [] reports = reports.take 1 := by
  have hseen : ∀ later : List Report, (∀ report ∈ later, report.key = key) →
      firstOfEach [key] later = [] := by
    intro later hl
    induction later with
    | nil => rfl
    | cons report later ih =>
      have hm : report.key ∈ [key] := by simp [hl report List.mem_cons_self]
      rw [firstOfEach_cons_of_mem hm]
      exact ih fun other ho => hl other (List.mem_cons_of_mem _ ho)
  cases reports with
  | nil => rfl
  | cons report later =>
    rw [firstOfEach_cons_of_not_mem (by simp), List.nil_append, h report List.mem_cons_self,
      hseen later fun other ho => h other (List.mem_cons_of_mem _ ho)]
    rfl

end

-- ---------------------------------------------------------------------------
-- Keys that are taken
-- ---------------------------------------------------------------------------

def Spot.key? : Spot → Option Key
  | ⟨.number line, .number start, .number stop, code⟩ => some ⟨line, start, stop, code⟩
  | _ => none

theorem Spot.key?_eq_some_iff {spot : Spot} {key : Key} :
    spot.key? = some key ↔ spot = key.spot := by
  constructor
  · intro h
    unfold key? at h
    split at h
    · cases h
      rfl
    · cases h
  · rintro rfl
    rfl

theorem Key.spot_inj {one other : Key} : one.spot = other.spot ↔ one = other := by
  rw [← Spot.key?_eq_some_iff]
  exact Option.some_inj

namespace Sink

variable {sink : Sink} {report : Report} {key : Key}

def keys (sink : Sink) : List Key :=
  sink.refused.filterMap Spot.key? ++ sink.findings.map Finding.key

theorem mem_keys_iff : key ∈ sink.keys ↔ key.spot ∈ sink.reported := by
  simp only [keys, reported, List.mem_append, List.mem_filterMap, List.mem_map,
    Spot.key?_eq_some_iff, exists_eq_right, Key.spot_inj]
  exact or_comm

theorem knows_spot_iff : sink.knows key.spot = true ↔ key ∈ sink.keys := by
  simp [knows, Spot.isAmong, mem_keys_iff, Key.spot]

theorem push_of_isFull (h : sink.isFull = true) : sink.push report = sink := by
  simp [push, accepts, h]

theorem push_of_mem (h : report.key ∈ sink.keys) : sink.push report = sink := by
  simp [push, accepts, knows_spot_iff.mpr h]

theorem push_of_not_mem (hf : sink.isFull = false) (h : report.key ∉ sink.keys) :
    sink.push report = { sink with findings := sink.findings ++ [report.finding] } := by
  simp [push, accepts, hf, Bool.eq_false_iff.mpr (mt knows_spot_iff.mp h)]

@[simp] theorem pushAll_nil (sink : Sink) : sink.pushAll [] = sink := rfl

@[simp] theorem pushAll_cons (sink : Sink) (report : Report) (reports : List Report) :
    sink.pushAll (report :: reports) = (sink.push report).pushAll reports := rfl

theorem pushAll_append (sink : Sink) (first second : List Report) :
    sink.pushAll (first ++ second) = (sink.pushAll first).pushAll second :=
  List.foldl_append

theorem pushAll_of_isFull (h : sink.isFull = true) (reports : List Report) :
    sink.pushAll reports = sink := by
  induction reports with
  | nil => rfl
  | cons report later ih => rw [pushAll_cons, push_of_isFull h, ih]

@[simp] theorem key_finding (report : Report) : report.finding.key = report.key := rfl

/-- The cap cuts the first reports of each key, and has no other effect. -/
theorem pushAll_findings (sink : Sink) (reports : List Report) :
    (sink.pushAll reports).findings =
      sink.findings ++
        ((firstOfEach sink.keys reports).take (sink.cap - sink.findings.length)).map
          Report.finding := by
  induction reports generalizing sink with
  | nil => simp [firstOfEach]
  | cons report later ih =>
    cases hf : sink.isFull with
    | true =>
      have hcap : sink.cap - sink.findings.length = 0 := by
        simp only [isFull, decide_eq_true_eq] at hf
        omega
      rw [pushAll_of_isFull hf, hcap]
      simp
    | false =>
      rw [pushAll_cons]
      by_cases hm : report.key ∈ sink.keys
      · rw [push_of_mem hm, firstOfEach_cons_of_mem hm, ih]
      · have hcap : sink.cap - sink.findings.length =
            sink.cap - (sink.findings.length + 1) + 1 := by
          simp only [isFull, decide_eq_false_iff_not] at hf
          omega
        rw [push_of_not_mem hf hm, firstOfEach_cons_of_not_mem hm, ih, hcap]
        simp [keys]

theorem push_cap (sink : Sink) (report : Report) : (sink.push report).cap = sink.cap := by
  unfold push
  split <;> rfl

theorem pushAll_cap (sink : Sink) (reports : List Report) :
    (sink.pushAll reports).cap = sink.cap := by
  induction reports generalizing sink with
  | nil => rfl
  | cons report later ih => rw [pushAll_cons, ih, push_cap]

theorem push_refused (sink : Sink) (report : Report) :
    (sink.push report).refused = sink.refused := by
  unfold push
  split <;> rfl

theorem pushAll_refused (sink : Sink) (reports : List Report) :
    (sink.pushAll reports).refused = sink.refused := by
  induction reports generalizing sink with
  | nil => rfl
  | cons report later ih => rw [pushAll_cons, ih, push_refused]

theorem findings_subset_pushAll (sink : Sink) (reports : List Report) :
    sink.findings ⊆ (sink.pushAll reports).findings := by
  rw [pushAll_findings]
  exact List.subset_append_left _ _

theorem mem_pushAll {reports : List Report} {finding : Finding}
    (h : finding ∈ (sink.pushAll reports).findings) :
    finding ∈ sink.findings ∨ ∃ report ∈ reports, finding = report.finding := by
  rw [pushAll_findings] at h
  refine (List.mem_append.mp h).imp_right fun hkept => ?_
  obtain ⟨report, hr, rfl⟩ := List.mem_map.mp hkept
  exact ⟨report, firstOfEach_sublist.subset (List.mem_of_mem_take hr), rfl⟩

theorem mem_reported_push (hf : sink.isFull = false) (spot : Spot) :
    spot ∈ (sink.push report).reported ↔ spot = report.key.spot ∨ spot ∈ sink.reported := by
  by_cases hm : report.key ∈ sink.keys
  · rw [push_of_mem hm, or_iff_right_of_imp]
    rintro rfl
    exact mem_keys_iff.mp hm
  · rw [push_of_not_mem hf hm]
    simp only [reported, List.map_append, List.map_cons, List.map_nil, List.mem_append,
      List.mem_singleton, key_finding]
    rw [or_assoc, or_left_comm]

theorem exists_mem_pushAll {reports : List Report} (hrefused : sink.refused = [])
    (hroom : (sink.pushAll reports).isFull = false) (h : report ∈ reports) :
    ∃ finding ∈ (sink.pushAll reports).findings, finding.key = report.key := by
  have hlength := congrArg List.length (pushAll_findings sink reports)
  simp only [isFull, pushAll_cap, decide_eq_false_iff_not] at hroom
  rw [List.length_append, List.length_map, List.length_take] at hlength
  by_cases hs : report.key ∈ sink.keys
  · rw [keys, hrefused] at hs
    obtain ⟨finding, hf, hkey⟩ := List.mem_map.mp hs
    exact ⟨finding, findings_subset_pushAll sink reports hf, hkey⟩
  · obtain ⟨kept, hk, hkey⟩ := exists_mem_firstOfEach h hs
    refine ⟨kept.finding, ?_, hkey⟩
    rw [pushAll_findings, List.take_of_length_le (by omega)]
    exact List.mem_append_right _ (List.mem_map_of_mem hk)

theorem pushAll_eq_self_iff {reports : List Report} :
    sink.pushAll reports = sink ↔
      sink.isFull = true ∨ ∀ report ∈ reports, report.key ∈ sink.keys := by
  constructor
  · intro h
    have hfindings := pushAll_findings sink reports
    rw [h, List.self_eq_append_right, List.map_eq_nil_iff, List.take_eq_nil_iff] at hfindings
    rcases hfindings with hcap | hkept
    · refine .inl (decide_eq_true ?_)
      omega
    · exact .inr (firstOfEach_eq_nil_iff.mp hkept)
  · rintro (hf | hk)
    · exact pushAll_of_isFull hf reports
    · induction reports with
      | nil => rfl
      | cons report later ih =>
        rw [pushAll_cons, push_of_mem (hk report List.mem_cons_self)]
        exact ih fun other ho => hk other (List.mem_cons_of_mem _ ho)

theorem ofCap_pushAll_findings (cap : Int) (reports : List Report) :
    ((ofCap cap).pushAll reports).findings =
      ((firstOfEach [] reports).map Report.finding).take cap.toNat := by
  rw [pushAll_findings]
  simp [ofCap, keys, List.map_take]

end Sink

-- ---------------------------------------------------------------------------
-- Sightings
-- ---------------------------------------------------------------------------

theorem Number.key_of_integer? {number : Number} {n : Int} (h : number.integer? = some n) :
    number.key = .number n := by
  cases number with
  | int value =>
    cases h
    rfl
  | real value =>
    replace h : (Schema.integerOf value).value? = some n := h
    unfold Schema.integerOf at h
    cases hinteger : value.integer? with
    | none =>
      rw [hinteger] at h
      cases h
    | some integer =>
      rw [hinteger] at h
      dsimp only at h
      split at h
      · cases h
        rw [key, hinteger]
      · cases h

theorem Sighting.spot_of_report? {sighting : Sighting} {report : Report}
    (h : sighting.report? = some report) : sighting.spot = report.key.spot := by
  simp only [report?, Option.bind_eq_bind, Option.bind_eq_some_iff] at h
  obtain ⟨line, hline, start, hstart, stop, hstop, he⟩ := h
  cases he
  rw [spot, Number.key_of_integer? hline, Number.key_of_integer? hstart,
    Number.key_of_integer? hstop]
  rfl

namespace Sink

variable {sink : Sink} {sighting : Sighting}

theorem offer_of_report {report : Report} (h : sighting.report? = some report) :
    sink.offer sighting =
      (sink.push report, if sink.accepts report then .kept else .passedOver) := by
  rw [offer, Sighting.spot_of_report? h, push, accepts]
  cases hf : sink.isFull with
  | true => rfl
  | false =>
    cases hk : sink.knows report.key.spot with
    | true => rfl
    | false => simp [h]

theorem offer_of_passedOver (h : sink.isFull = true ∨ sink.knows sighting.spot = true) :
    sink.offer sighting = (sink, .passedOver) := by
  unfold offer
  rcases h with h | h
  · rw [if_pos h]
  · rw [if_pos h, ite_self]

theorem offer_of_unfit (h : sighting.report? = none) (hf : sink.isFull = false)
    (hk : sink.knows sighting.spot = false) :
    sink.offer sighting = ({ sink with refused := sink.refused ++ [sighting.spot] }, .unfit) := by
  simp [offer, h, hf, hk]

end Sink

end SolidityLint
