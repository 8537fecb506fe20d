import SolidityLint.Proofs.Bytes
import SolidityLint.Proofs.Sink
import SolidityLint.Proofs.Walks
import SolidityLint.Session

/-!
# What a pass over a tree leaves in the sink

The pass offers what it sees to the sink, node by node. As long as reports can be made of the
sightings this is the same as pushing reports. A sighting of which none can be made ends the pass
and leaves its key in the sink, unless the sink is full or knows the key. Such a key lies behind the
last row of the text (`Spot.IsStray`), so no finding of another pass has it. What a pass leaves
altogether is said without looking at the cap of the sink (`Session.lookAt_eq`).
-/

namespace SolidityLint

-- ---------------------------------------------------------------------------
-- Results that may be faults
-- ---------------------------------------------------------------------------

section
variable {ε α β : Type} {x : Except ε α} {a : α}

theorem bind_ok {f : α → Except ε β} {b : β} :
    x >>= f = .ok b ↔ ∃ a, x = .ok a ∧ f a = .ok b := by
  cases x <;> simp [bind, Except.bind]

theorem bind_error {f : α → Except ε β} {fault : ε} :
    x >>= f = .error fault ↔ x = .error fault ∨ ∃ a, x = .ok a ∧ f a = .error fault := by
  cases x <;> simp [bind, Except.bind]

theorem eq_ok_of_toOption (h : x.toOption = some a) : x = .ok a := by
  cases x with
  | error fault => cases h
  | ok value => cases h; rfl

theorem exists_of_isOk (h : x.isOk) : ∃ a, x = .ok a := by
  cases x with
  | error fault => cases h
  | ok value => exact ⟨value, rfl⟩

end

-- ---------------------------------------------------------------------------
-- Numbers behind the last row
-- ---------------------------------------------------------------------------

theorem Double.applySign_mul (negative : Bool) (one other : Nat) :
    applySign negative (one * other) = applySign negative one * other := by
  cases negative
  · exact Int.natCast_mul one other
  · exact (congrArg Neg.neg (Int.natCast_mul one other)).trans (Int.neg_mul _ _).symm

theorem Double.applySign_scaled {negative : Bool} {mantissa : Nat} {exponent n : Int}
    (h : (finite negative mantissa exponent).integer? = some n) :
    applySign negative (scaled mantissa 1 (-exponent)).1 = n * (scaled mantissa 1 (-exponent)).2 ∧
      0 < (scaled mantissa 1 (-exponent)).2 := by
  rw [integer?] at h
  unfold scaled
  have hpow : 0 < Nat.pow 2 (-exponent).toNat := Nat.pow_pos Nat.two_pos
  rcases Int.lt_trichotomy exponent 0 with he | rfl | he
  · rw [if_neg (by omega)] at h
    rw [if_pos (by omega)]
    split at h
    · rename_i hmod
      cases h
      rw [Nat.one_mul, ← applySign_mul, Nat.div_mul_cancel (Nat.dvd_of_mod_eq_zero hmod)]
      exact ⟨rfl, hpow⟩
    · cases h
  · cases h
    simp
  · rw [if_pos (by omega)] at h
    rw [if_neg (by omega), Int.neg_neg]
    cases h
    simp

theorem Double.le_of_isAtLeast {value : Double} {bound : Nat} {n : Int}
    (h : value.isAtLeast bound = true) (hn : value.integer? = some n) : bound ≤ n := by
  cases value with
  | infinite negative => cases hn
  | nan => cases hn
  | finite negative mantissa exponent =>
    obtain ⟨heq, hpos⟩ := applySign_scaled hn
    have hle : ((bound * (scaled mantissa 1 (-exponent)).2 : Nat) : Int) ≤
        applySign negative (scaled mantissa 1 (-exponent)).1 := of_decide_eq_true h
    rw [heq, Int.natCast_mul] at hle
    exact Int.le_of_mul_le_mul_right hle (Int.natCast_pos.mpr hpos)

theorem Number.le_of_isAtLeast {number : Number} {bound : Nat} {n : Int}
    (h : number.isAtLeast bound = true) (hn : number.key = .number n) : bound ≤ n := by
  cases number with
  | int value =>
    cases hn
    exact of_decide_eq_true h
  | real value =>
    rw [key] at hn
    cases hinteger : value.integer? with
    | none =>
      rw [hinteger] at hn
      cases hn
    | some integer =>
      rw [hinteger] at hn
      cases hn
      exact Double.le_of_isAtLeast h hinteger

/-- The key of a missing return that is on no row of the text. -/
structure Spot.IsStray (text : List Char) (spot : Spot) : Prop where
  behind : ∀ n : Int, spot.line = .number n → (Text.rows text).length ≤ n
  code : spot.code = .missingReturn

theorem Spot.IsStray.ne_spot {text : List Char} {spot : Spot} {key : Key} (h : spot.IsStray text)
    (hkey : key.code ≠ .missingReturn ∨ key.line < (Text.rows text).length) :
    key.spot ≠ spot := by
  rintro rfl
  rcases hkey with hcode | hline
  · exact hcode h.code
  · exact Int.not_le.mpr hline (h.behind key.line rfl)

namespace Check

variable {text : List Char} {node : SyntaxNode} {sighting : Sighting} {report : Report}

theorem number?_of_index? {value : Value} {index : Int} (h : value.index? = some index) :
    value.number? = some (.int index) := by
  cases value with
  | bool _ | int _ =>
    cases h
    rfl
  | _ => cases h

theorem pointOf_cases {row column : Value} {line start : Number}
    (h : pointOf text row column = .ok (line, start)) :
    line.isAtLeast (Text.rows text).length = true ∨
      ∃ i j, line = .int i ∧ start = .int j := by
  simp only [pointOf, columnOf, bind_ok] at h
  obtain ⟨value, hcolumn, hpoint⟩ := h
  split at hpoint
  · rename_i number hnumber
    split at hpoint
    · rename_i counted hcounted
      cases hpoint
      by_cases hbehind : line.isAtLeast (Text.rows text).length = true
      · exact .inl hbehind
      · simp only [hnumber, hbehind, if_false, Bool.false_eq_true] at hcolumn
        split at hcolumn
        · rename_i index hindex
          simp only [bind_ok] at hcolumn
          obtain ⟨byte, -, column, -, he⟩ := hcolumn
          cases he
          cases hcounted
          cases hnumber.symm.trans (number?_of_index? hindex)
          exact .inr ⟨_, _, rfl, rfl⟩
        · cases hcolumn
    · cases hpoint
  · cases hpoint

theorem exists_point_of_sighting (h : returnSighting? text node = .ok (some sighting)) :
    ∃ row column line start, pointOf text row column = .ok (line, start) ∧
      sighting = ⟨line, start, start.addOne, returnMessage, .missingReturn⟩ := by
  simp only [returnSighting?, bind_ok] at h
  obtain ⟨isFunction, -, h⟩ := h
  split at h
  · obtain ⟨body, -, h⟩ := bind_ok.mp h
    split at h
    · simp only [bind_ok] at h
      obtain ⟨first, -, last, -, h⟩ := h
      split at h
      · obtain ⟨statement, -, h⟩ := bind_ok.mp h
        split at h
        · cases h
        · simp only [bind_ok] at h
          obtain ⟨start, -, point, hpoint, h⟩ := h
          cases h
          exact ⟨_, _, _, _, hpoint, rfl⟩
      · cases h
    · cases h
  · cases h

/-- On the rows of the text a report can always be made. -/
theorem isStray_of_unfit (h : returnSighting? text node = .ok (some sighting))
    (hunfit : sighting.report? = none) : sighting.spot.IsStray text := by
  obtain ⟨row, column, line, start, hpoint, rfl⟩ := exists_point_of_sighting h
  rcases pointOf_cases hpoint with hbehind | ⟨i, j, rfl, rfl⟩
  · exact ⟨fun n hn => Number.le_of_isAtLeast hbehind hn, rfl⟩
  · cases hunfit

-- ---------------------------------------------------------------------------
-- The reports of a pass
-- ---------------------------------------------------------------------------

/-- The reports on nodes in order, as if there were no cap, up to where the pass over them stops.
`known` are the keys that are taken by then. -/
def returnReports (text : List Char) (known : List Spot) : List SyntaxNode → List Report
  | [] => []
  | node :: nodes => match returnSighting? text node with
    | .error _ => []
    | .ok none => returnReports text known nodes
    | .ok (some sighting) => match sighting.report? with
      | some report => report :: returnReports text (sighting.spot :: known) nodes
      | none => if sighting.spot.isAmong known then returnReports text known nodes else []

theorem code_of_report? (h : returnSighting? text node = .ok (some sighting))
    (hr : sighting.report? = some report) : report.code = .missingReturn := by
  obtain ⟨row, column, line, start, -, rfl⟩ := exists_point_of_sighting h
  exact (congrArg Spot.code (Sighting.spot_of_report? hr)).symm

theorem returnReports_code {known : List Spot} {nodes : List SyntaxNode}
    (h : report ∈ returnReports text known nodes) : report.code = .missingReturn := by
  induction nodes generalizing known with
  | nil => cases h
  | cons node nodes ih =>
    rw [returnReports] at h
    split at h
    · cases h
    · exact ih h
    · rename_i sighting hs
      split at h
      · rename_i made hmade
        rcases List.mem_cons.mp h with rfl | h
        · exact code_of_report? hs hmade
        · exact ih h
      · split at h
        · exact ih h
        · cases h

end Check

theorem Spot.isAmong_congr {spot : Spot} {known other : List Spot}
    (h : spot ∈ known ↔ spot ∈ other) : spot.isAmong known = spot.isAmong other := by
  have hcontains : known.contains spot = other.contains spot := by
    rw [Bool.eq_iff_iff]
    simpa using h
  rw [isAmong, hcontains, isAmong]

def Sink.refuse (sink : Sink) (spots : List Spot) : Sink :=
  { sink with refused := sink.refused ++ spots }

theorem Sink.findings_refuse_pushAll {sink : Sink} {spots : List Spot} {reports : List Report}
    (h : ∀ report ∈ reports, report.key.spot ∉ spots) :
    ((sink.refuse spots).pushAll reports).findings = (sink.pushAll reports).findings := by
  rw [pushAll_findings, pushAll_findings]
  have hkept : firstOfEach (sink.refuse spots).keys reports = firstOfEach sink.keys reports := by
    refine firstOfEach_congr fun report hr => ?_
    simp [mem_keys_iff, reported, refuse, h report hr]
  rw [hkept]
  rfl

namespace Session

variable {session : Session} {nodes : List SyntaxNode}

def refuse (session : Session) (spots : List Spot) : Session :=
  { session with sink := session.sink.refuse spots }

@[simp] theorem refuse_nil (session : Session) : session.refuse [] = session := by
  simp [refuse, Sink.refuse]

theorem pushAll_of_isFull (h : session.sink.isFull = true) (reports : List Report) :
    session.pushAll reports = session := by
  rw [pushAll, Sink.pushAll_of_isFull h]

-- One lemma for each way in which the pass goes on or stops.

theorem lookAt_of_fault {node : SyntaxNode} {fault : TreeFault}
    (h : Check.returnSighting? session.document.text node = .error fault) :
    session.lookAt (node :: nodes) = (session, .error fault) := by
  rw [lookAt, h]

theorem lookAt_of_none {node : SyntaxNode}
    (h : Check.returnSighting? session.document.text node = .ok none) :
    session.lookAt (node :: nodes) = session.lookAt nodes := by
  rw [lookAt, h]

theorem lookAt_of_report {node : SyntaxNode} {sighting : Sighting} {report : Report}
    (h : Check.returnSighting? session.document.text node = .ok (some sighting))
    (hr : sighting.report? = some report) :
    session.lookAt (node :: nodes) =
      (((session.push report).lookAt nodes).1,
        ((session.push report).lookAt nodes).2.map
          (· + if session.sink.accepts report then 1 else 0)) := by
  rw [lookAt, h]
  simp only [Sink.offer_of_report hr]
  cases session.sink.accepts report with
  | true => rfl
  | false =>
    refine Prod.ext rfl ?_
    change ((session.push report).lookAt nodes).2 = _
    cases ((session.push report).lookAt nodes).2 <;> rfl

theorem lookAt_of_passedOver {node : SyntaxNode} {sighting : Sighting}
    (h : Check.returnSighting? session.document.text node = .ok (some sighting))
    (hpassed : session.sink.isFull = true ∨ session.sink.knows sighting.spot = true) :
    session.lookAt (node :: nodes) = session.lookAt nodes := by
  rw [lookAt, h]
  simp only [Sink.offer_of_passedOver hpassed]

theorem lookAt_of_unfit {node : SyntaxNode} {sighting : Sighting}
    (h : Check.returnSighting? session.document.text node = .ok (some sighting))
    (hunfit : sighting.report? = none) (hf : session.sink.isFull = false)
    (hk : session.sink.knows sighting.spot = false) :
    session.lookAt (node :: nodes) =
      (session.refuse [sighting.spot], .error .unfitPosition) := by
  rw [lookAt, h]
  simp only [Sink.offer_of_unfit hunfit hf hk]
  rfl

/-- A pass leaves its reports, and the key of a sighting that has ended it. -/
theorem lookAt_eq (session : Session) (nodes : List SyntaxNode) (known : List Spot)
    (hknown : session.sink.isFull = false → ∀ spot, spot ∈ known ↔ spot ∈ session.sink.reported) :
    ∃ stray, (∀ spot ∈ stray, spot.IsStray session.document.text) ∧
      (session.lookAt nodes).1 =
        (session.pushAll (Check.returnReports session.document.text known nodes)).refuse stray := by
  induction nodes generalizing session known with
  | nil => exact ⟨[], List.forall_mem_nil _, (refuse_nil session).symm⟩
  | cons node nodes ih =>
    rw [Check.returnReports]
    split
    · rename_i fault hs
      exact ⟨[], List.forall_mem_nil _, by rw [lookAt_of_fault hs, refuse_nil]; rfl⟩
    · rename_i hs
      rw [lookAt_of_none hs]
      exact ih session known hknown
    · rename_i sighting hs
      cases hr : sighting.report? with
      | some report =>
        rw [lookAt_of_report hs hr]
        refine ih (session.push report) (sighting.spot :: known) fun hroom spot => ?_
        have hf : session.sink.isFull = false := by
          refine Bool.eq_false_iff.mpr fun hf => ?_
          rw [push, Sink.push_of_isFull hf, hf] at hroom
          cases hroom
        rw [List.mem_cons, hknown hf spot, Sighting.spot_of_report? hr]
        exact (Sink.mem_reported_push hf spot).symm
      | none =>
        cases hf : session.sink.isFull with
        | true =>
          -- A full sink looks at no key, so the pass goes on, but nothing comes of it.
          obtain ⟨stray, hstray, he⟩ := ih session known hknown
          rw [lookAt_of_passedOver hs (.inl hf), he, pushAll_of_isFull hf]
          exact ⟨stray, hstray, by rw [pushAll_of_isFull hf]⟩
        | false =>
          have hsame : session.sink.knows sighting.spot = sighting.spot.isAmong known :=
            Spot.isAmong_congr (hknown hf _).symm
          dsimp only
          split
          · rename_i hk
            rw [lookAt_of_passedOver hs (.inr (hsame.trans hk))]
            exact ih session known hknown
          · rename_i hk
            rw [lookAt_of_unfit hs hr hf (hsame.trans (Bool.eq_false_iff.mpr hk))]
            exact ⟨[sighting.spot], List.forall_mem_singleton.mpr (Check.isStray_of_unfit hs hr),
              rfl⟩

theorem lookAt_added {added : Nat} (h : (session.lookAt nodes).2 = .ok added) :
    (session.lookAt nodes).1.sink.findings.length = session.sink.findings.length + added := by
  induction nodes generalizing session added with
  | nil =>
    cases h
    rfl
  | cons node nodes ih =>
    cases hs : Check.returnSighting? session.document.text node with
    | error fault =>
      rw [lookAt_of_fault hs] at h
      cases h
    | ok sighting? =>
      cases sighting? with
      | none =>
        rw [lookAt_of_none hs] at h ⊢
        exact ih h
      | some sighting =>
        cases hr : sighting.report? with
        | some report =>
          rw [lookAt_of_report hs hr] at h ⊢
          cases hl : ((session.push report).lookAt nodes).2 with
          | error fault =>
            rw [hl] at h
            cases h
          | ok later =>
            rw [hl] at h
            cases h
            rw [ih hl, push, Sink.push]
            split
            · rw [List.length_append, List.length_singleton, Nat.add_assoc, Nat.add_comm 1]
            · rfl
        | none =>
          by_cases hpassed : session.sink.isFull = true ∨ session.sink.knows sighting.spot = true
          · rw [lookAt_of_passedOver hs hpassed] at h ⊢
            exact ih h
          · rw [not_or, Bool.not_eq_true, Bool.not_eq_true] at hpassed
            rw [lookAt_of_unfit hs hr hpassed.1 hpassed.2] at h
            cases h

end Session

end SolidityLint
