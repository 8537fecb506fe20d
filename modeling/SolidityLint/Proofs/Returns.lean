import SolidityLint.Proofs.Bytes
import SolidityLint.Proofs.Reports
import SolidityLint.Proofs.Walks
import SolidityLint.Proofs.WholeWords

/-!
# Missing returns are found exactly

A pass over a whole tree finds the functions that promise a result and have a body without a return
statement, in the order of their paths from the root and one for each place
(`collectReturns_finds_functions`). It may come after other passes: the keys that those have left
without a finding are on no row of the text, so they hide nothing (`Session.Grown.stray`).
-/

namespace SolidityLint

open Pattern Text

-- ---------------------------------------------------------------------------
-- Functions that lack a return statement
-- ---------------------------------------------------------------------------

/-- The word "returns" and an opening parenthesis, with nothing but blanks between them. -/
def Text.PromisesResult (header : List Char) : Prop :=
  ∃ front word gap back, header = front ++ word ++ gap ++ '(' :: back ∧
    isBoundary front (word ++ gap ++ '(' :: back) = true ∧
    SameLetters word "returns".toList ∧ ∀ c ∈ gap, isBlank c = true

/-- A function with a body that returns nothing, though its header promises a result. The header is
what stands between the first byte of the function and the first byte of the body. -/
def SyntaxNode.LacksReturn (text : List Char) (node : SyntaxNode) : Prop :=
  (node.HasKind "function_definition" ∨ node.HasKind "function_declaration") ∧
    ∃ body first last, node.HasBody body ∧ node.StartsAtByte first ∧ body.StartsAtByte last ∧
      PromisesResult (decode (((encode text).drop first).take (last - first))) ∧
      ∀ path inner, body.at? path = some inner → ¬inner.HasKind "return_statement"

/-- The row of a node and its column, which is counted in characters. -/
def SyntaxNode.StartsAt (text : List Char) (node : SyntaxNode) (position : Nat × Nat) : Prop :=
  ∃ byte line, node.StartsAtPoint position.1 byte ∧
    ((encode text).splitOn 10)[position.1]? = some line ∧
    position.2 = (decode (line.take byte)).length

def missingReturnAt (position : Nat × Nat) : Finding where
  message := Check.returnMessage
  code := .missingReturn
  severity := .error
  range := ⟨⟨position.1, position.2⟩, ⟨position.1, position.2 + 1⟩⟩

namespace Check

variable {text : List Char} {node : SyntaxNode}

theorem returnsClause_occursIn_iff (header : List Char) :
    returnsClause.occursIn header = true ↔ PromisesResult header := by
  have hclause :
      returnsClause = seq boundary (all [caseless "returns", blanks, char '(']) := rfl
  rw [hclause, occursIn_boundary_iff (by decide)]
  simp only [spells_opening]
  constructor
  · rintro ⟨front, _, back, rfl, hboundary, letters, gap, rfl, hletters, hgap⟩
    exact ⟨front, letters, gap, back, by simp, by simpa using hboundary, hletters, hgap⟩
  · rintro ⟨front, letters, gap, back, rfl, hboundary, hletters, hgap⟩
    exact ⟨front, letters ++ gap ++ ['('], back, by simp, by simpa using hboundary, letters, gap,
      rfl, hletters, hgap⟩

def returnReportAt (position : Nat × Nat) : Report :=
  ⟨position.1, position.2, position.2 + 1, returnMessage, .missingReturn⟩

def returnSightingAt (position : Nat × Nat) : Sighting :=
  ⟨.int position.1, .int position.2, .int (position.2 + 1), returnMessage, .missingReturn⟩

theorem report?_returnSightingAt (position : Nat × Nat) :
    (returnSightingAt position).report? = some (returnReportAt position) := rfl

theorem exists_startsAt (h : node.IsWhole text) :
    ∃ position, node.StartsAt text position ∧ ∃ row byte, node.startPoint = .ok (row, byte) ∧
      pointOf text row byte = .ok (.int position.1, .int position.2) := by
  cases h with
  | @intro _ _ _ _ _ _ row byte _ _ hpoint hrow =>
    obtain ⟨line, hline⟩ : ∃ line, (rows text)[row]? = some line :=
      ⟨_, List.getElem?_eq_getElem hrow⟩
    refine ⟨(row, charsBefore line (some byte)), ⟨byte, encode line, hpoint, ?_, ?_⟩, _, _,
      hpoint.startPoint, pointOf_of_row hline byte⟩
    · rw [splitOn_encode, List.getElem?_map, hline]
      rfl
    · rw [charsBefore, byteSlice_none]

theorem rows_lt {nodes : List (List Nat × SyntaxNode)} {positions : List (Nat × Nat)}
    (h : List.Forall₂ (fun entry position => entry.2.StartsAt text position) nodes positions) :
    ∀ position ∈ positions, position.1 < (rows text).length := by
  induction h with
  | nil => exact List.forall_mem_nil _
  | cons hstart _ ih =>
    obtain ⟨-, line, -, hline, -⟩ := hstart
    rw [splitOn_encode] at hline
    have hlt := (List.getElem?_eq_some_iff.mp hline).1
    exact List.forall_mem_cons.mpr ⟨by rwa [List.length_map] at hlt, ih⟩

theorem lacksReturn_iff {body : SyntaxNode} {first last : Nat}
    (hfunction : node.HasKind "function_definition" ∨ node.HasKind "function_declaration")
    (hbody : ∀ other, some body = some other ↔ node.HasBody other)
    (hfirst : node.StartsAtByte first) (hlast : body.StartsAtByte last) :
    node.LacksReturn text ↔
      returnsClause.occursIn (byteSlice text (some first) (some last)) = true ∧
        ∀ inner ∈ body.walk, ¬inner.HasKind "return_statement" := by
  rw [returnsClause_occursIn_iff, byteSlice_eq_decode]
  constructor
  · rintro ⟨-, other, first', last', hother, hfirst', hlast', hpromises, hnone⟩
    cases (hbody other).mpr hother
    cases hfirst.unique hfirst'
    cases hlast.unique hlast'
    refine ⟨hpromises, fun inner hi => ?_⟩
    obtain ⟨path, hp⟩ := SyntaxNode.mem_walk_iff.mp hi
    exact hnone path inner hp
  · rintro ⟨hpromises, hnone⟩
    refine ⟨hfunction, body, first, last, (hbody body).mp rfl, hfirst, hlast, hpromises, ?_⟩
    exact fun path inner hp => hnone inner (SyntaxNode.mem_walk_iff.mpr ⟨path, hp⟩)

theorem mem_functionKinds_iff {kind : String} (h : node.HasKind kind) :
    kind ∈ functionKinds ↔
      node.HasKind "function_definition" ∨ node.HasKind "function_declaration" := by
  simp only [functionKinds, List.mem_cons, List.not_mem_nil, or_false]
  constructor
  · rintro (rfl | rfl)
    · exact .inl h
    · exact .inr h
  · rintro (hd | hd)
    · exact .inl (h.unique hd)
    · exact .inr (h.unique hd)

theorem returnSighting?_of_body {body : SyntaxNode} {kind : String} {first last : Nat}
    {returned : Option SyntaxNode} {row byte : Value} {position : Nat × Nat}
    (hkind : node.HasKind kind) (hf : kind ∈ functionKinds)
    (hbody : node.bodyNode? = .ok (some body))
    (hfirst : node.StartsAtByte first) (hlast : body.StartsAtByte last)
    (hreturned : SyntaxNode.findKind? "return_statement" body.traverse = .ok returned)
    (hstart : node.startPoint = .ok (row, byte))
    (hpoint : pointOf text row byte = .ok (.int position.1, .int position.2)) :
    returnSighting? text node =
      .ok (if returnsClause.occursIn (byteSlice text (some first) (some last)) = true ∧
          returned = none then some (returnSightingAt position) else none) := by
  cases hp : returnsClause.occursIn (byteSlice text (some first) (some last)) with
  | false =>
    simp [returnSighting?, hkind.isAnyKind, hf, hbody, hfirst.startByte, hlast.startByte, hp, bind,
      Except.bind, pure, Except.pure]
  | true =>
    cases returned with
    | none =>
      simp [returnSighting?, hkind.isAnyKind, hf, hbody, hfirst.startByte, hlast.startByte, hp,
        hreturned, hstart, hpoint, returnSightingAt, Number.addOne, bind, Except.bind, pure,
        Except.pure]
    | some statement =>
      simp [returnSighting?, hkind.isAnyKind, hf, hbody, hfirst.startByte, hlast.startByte, hp,
        hreturned, bind, Except.bind, pure, Except.pure]

open Classical in
/-- Every node of a whole tree can be judged. -/
theorem exists_returnSighting? (h : node.IsWhole text) :
    ∃ position, node.StartsAt text position ∧
      returnSighting? text node =
        .ok (if node.LacksReturn text then some (returnSightingAt position) else none) := by
  obtain ⟨position, hposition, row, byte, hstart, hpoint⟩ := exists_startsAt h
  refine ⟨position, hposition, ?_⟩
  obtain ⟨kind, hkind⟩ := h.hasKind
  obtain ⟨found, hfound, hbody, hwhole⟩ := h.exists_bodyNode?
  by_cases hf : kind ∈ functionKinds
  · cases found with
    | none =>
      have hnot : ¬node.LacksReturn text := by
        rintro ⟨-, body, -, -, hb, -⟩
        cases (hbody body).mpr hb
      rw [if_neg hnot]
      simp [returnSighting?, hkind.isAnyKind, hf, hfound, bind, Except.bind, pure, Except.pure]
    | some body =>
      obtain ⟨first, hfirst⟩ := h.startsAtByte
      obtain ⟨last, hlast⟩ := (hwhole body rfl).startsAtByte
      have hkinds := (hwhole body rfl).hasKind_of_mem_walk
      obtain ⟨returned, hreturned⟩ : ∃ returned,
          SyntaxNode.findKind? "return_statement" body.walk = .ok returned :=
        ⟨_, SyntaxNode.findKind?_eq_find? hkinds⟩
      have hlacks : node.LacksReturn text ↔ _ :=
        lacksReturn_iff ((mem_functionKinds_iff hkind).mp hf) hbody hfirst hlast
      rw [← SyntaxNode.findKind?_eq_none_iff hkinds, hreturned, Except.ok.injEq] at hlacks
      rw [← body.traverse_eq_walk] at hreturned
      rw [returnSighting?_of_body hkind hf hfound hfirst hlast hreturned hstart hpoint]
      simp only [hlacks]
  · have hnot : ¬node.LacksReturn text := fun hl => hf ((mem_functionKinds_iff hkind).mpr hl.1)
    rw [if_neg hnot]
    simp [returnSighting?, hkind.isAnyKind, hf, bind, Except.bind, pure, Except.pure]

open Classical in
theorem exists_lookAt {entries : List (List Nat × SyntaxNode)}
    (h : ∀ entry ∈ entries, entry.2.IsWhole text) :
    ∃ positions, List.Forall₂ (fun entry position => entry.2.StartsAt text position)
        (entries.filter fun entry => entry.2.LacksReturn text) positions ∧
      ∀ session : Session, session.document.text = text →
        (session.lookAt (entries.map Prod.snd)).1 =
            session.pushAll (positions.map returnReportAt) ∧
          (session.lookAt (entries.map Prod.snd)).2.isOk := by
  induction entries with
  | nil => exact ⟨[], .nil, fun session _ => ⟨rfl, rfl⟩⟩
  | cons entry entries ih =>
    obtain ⟨hentry, hentries⟩ := List.forall_mem_cons.mp h
    obtain ⟨positions, hpositions, hlook⟩ := ih hentries
    obtain ⟨position, hposition, hsighting⟩ := exists_returnSighting? hentry
    by_cases hl : entry.2.LacksReturn text
    · rw [if_pos hl] at hsighting
      refine ⟨position :: positions, ?_, fun session hsession => ?_⟩
      · rw [List.filter_cons_of_pos (by simpa using hl)]
        exact .cons hposition hpositions
      · subst hsession
        obtain ⟨hsame, hok⟩ := hlook (session.push (returnReportAt position)) rfl
        rw [List.map_cons, Session.lookAt_of_report hsighting (report?_returnSightingAt position)]
        refine ⟨hsame, ?_⟩
        obtain ⟨added, hadded⟩ := exists_of_isOk hok
        rw [hadded]
        rfl
    · rw [if_neg hl] at hsighting
      refine ⟨positions, ?_, fun session hsession => ?_⟩
      · rwa [List.filter_cons_of_neg (by simpa using hl)]
      · subst hsession
        rw [List.map_cons, Session.lookAt_of_none hsighting]
        exact hlook session rfl

end Check

-- ---------------------------------------------------------------------------
-- Sessions that have been worked with
-- ---------------------------------------------------------------------------

/-- The sessions that pushes, checks and passes over trees make of a fresh one. -/
inductive Session.Grown : Session → Prop
  | fresh (text : List Char) (rules : Rules) (cap : Int) (patterns : Option NamePatterns) :
    Grown (fresh text rules cap patterns)
  | pushAll {session : Session} (reports : List Report) :
    Grown session → Grown (session.pushAll reports)
  | record {session : Session} (index : Int) (outcome : Outcome) :
    Grown session → Grown (session.record index outcome)
  | markMissing {session : Session} (name : List Char) :
    Grown session → Grown (session.markMissing name)
  | assist {session : Session} (source : TreeSource) :
    Grown session → Grown (session.assist source).1

theorem Session.assist_stray {session : Session} (source : TreeSource)
    (h : ∀ spot ∈ session.sink.refused, spot.IsStray session.document.text) :
    ∀ spot ∈ (session.assist source).1.sink.refused,
      spot.IsStray (session.assist source).1.document.text := by
  cases source with
  | unavailable | broken => exact h
  | tree root =>
    simp only [assist]
    split
    · obtain ⟨stray, hstray, hleft⟩ :=
        session.lookAt_eq root.walk session.sink.reported fun _ _ => Iff.rfl
      simp only [collectReturns_eq, hleft, refuse, Sink.refuse]
      intro spot hspot
      rcases List.mem_append.mp hspot with hold | hnew
      · rw [pushAll, Sink.pushAll_refused] at hold
        exact h spot hold
      · exact hstray spot hnew
    · exact h

theorem Session.Grown.stray {session : Session} (h : session.Grown) :
    ∀ spot ∈ session.sink.refused, spot.IsStray session.document.text := by
  induction h with
  | fresh => exact List.forall_mem_nil _
  | pushAll reports _ ih | record index outcome _ ih =>
    intro spot hspot
    exact ih spot (Sink.pushAll_refused _ _ ▸ hspot)
  | markMissing name _ ih => exact ih
  | assist source _ ih => exact assist_stray source ih

-- ---------------------------------------------------------------------------
-- One report for each place
-- ---------------------------------------------------------------------------

theorem firstOfEach_eq_filter (seen : List Key) (reports : List Report) :
    firstOfEach seen reports = firstOfEach [] (reports.filter (·.key ∉ seen)) := by
  have h := filter_firstOfEach (· ∉ seen) seen reports
  rw [List.filter_eq_self.mpr fun report hr => decide_eq_true (key_not_mem_seen hr),
    List.filter_eq_nil_iff.mpr fun key hk => by simpa using hk] at h
  exact h

theorem returnReportAt_key_inj {one other : Nat × Nat} :
    (Check.returnReportAt one).key = (Check.returnReportAt other).key ↔ one = other := by
  refine ⟨fun h => ?_, fun h => h ▸ rfl⟩
  have hrow : (one.1 : Int) = other.1 := congrArg Key.line h
  have hcolumn : (one.2 : Int) = other.2 := congrArg Key.start h
  exact Prod.ext (Int.ofNat.inj hrow) (Int.ofNat.inj hcolumn)

theorem firstOfEach_returnReportAt (positions : List (Nat × Nat)) :
    firstOfEach [] (positions.map Check.returnReportAt) =
      positions.eraseDups.map Check.returnReportAt := by
  -- The positions that are left after the first one may be fewer than those behind it.
  induction hn : positions.length using Nat.strong_induction_on generalizing positions with
  | _ n ih =>
    cases positions with
    | nil => rfl
    | cons position later =>
      have hlater : (later.map Check.returnReportAt).filter
          (·.key ∉ [(Check.returnReportAt position).key]) =
            (later.filter (!· == position)).map Check.returnReportAt := by
        rw [List.filter_map]
        refine congrArg (List.map _) (List.filter_congr fun other _ => ?_)
        rw [Bool.eq_iff_iff]
        simp [returnReportAt_key_inj]
      have hshorter : (later.filter (!· == position)).length < n := by
        rw [← hn]
        exact Nat.lt_succ_of_le (List.length_filter_le _ _)
      rw [List.map_cons, firstOfEach_cons_of_not_mem (by simp), List.nil_append,
        firstOfEach_eq_filter, hlater, ih _ hshorter _ rfl, List.eraseDups_cons, List.map_cons]

theorem Session.pushAll_returnReportAt {session : Session}
    (hnew : ∀ finding ∈ session.sink.findings, finding.code ≠ .missingReturn)
    (hstray : ∀ spot ∈ session.sink.refused, spot.IsStray session.document.text)
    {positions : List (Nat × Nat)}
    (hrows : ∀ position ∈ positions, position.1 < (rows session.document.text).length) :
    session.pushAll (positions.map Check.returnReportAt) =
      { session with sink.findings := session.sink.findings ++ (positions.eraseDups.take
          (session.sink.cap - session.sink.findings.length)).map missingReturnAt } := by
  have hseen : firstOfEach session.sink.keys (positions.map Check.returnReportAt) =
      firstOfEach [] (positions.map Check.returnReportAt) := by
    refine firstOfEach_congr fun report hr => iff_of_false (fun hk => ?_) List.not_mem_nil
    obtain ⟨position, hposition, rfl⟩ := List.mem_map.mp hr
    rcases List.mem_append.mp hk with hk | hk
    · obtain ⟨spot, hspot, hkey⟩ := List.mem_filterMap.mp hk
      have hline : (Check.returnReportAt position).key.line < (rows session.document.text).length :=
        Int.ofNat_lt.mpr (hrows position hposition)
      exact (hstray spot hspot).ne_spot (.inr hline) (Spot.key?_eq_some_iff.mp hkey).symm
    · obtain ⟨finding, hf, he⟩ := List.mem_map.mp hk
      exact hnew finding hf (congrArg Key.code he)
  have hfindings := session.sink.pushAll_findings (positions.map Check.returnReportAt)
  have hcap := session.sink.pushAll_cap (positions.map Check.returnReportAt)
  have hrefused := session.sink.pushAll_refused (positions.map Check.returnReportAt)
  rw [hseen, firstOfEach_returnReportAt, ← List.map_take, List.map_map] at hfindings
  unfold Session.pushAll
  cases hsink : session.sink.pushAll (positions.map Check.returnReportAt) with
  | mk cap findings refused =>
    rw [hsink] at hfindings hcap hrefused
    cases hcap
    cases hfindings
    cases hrefused
    rfl

/-- On a whole tree, in a session that has found no missing return yet: the functions that lack a
return statement are found in the order of their paths, as far as there is room, and functions that
start at one place are found once. The number of new findings is given back. Keys that an earlier
pass has left without a finding do not matter, since they are on no row of the text
(`Session.Grown.stray`). -/
theorem collectReturns_finds_functions (session : Session) (root : SyntaxNode)
    (hroot : root.IsWhole session.document.text)
    (hnew : ∀ finding ∈ session.sink.findings, finding.code ≠ .missingReturn)
    (hstray : ∀ spot ∈ session.sink.refused, spot.IsStray session.document.text) :
    ∃ functions positions,
      SyntaxNode.InOrder (fun path node => root.at? path = some node ∧
        node.LacksReturn session.document.text) functions ∧
      List.Forall₂ (fun function position =>
        function.2.StartsAt session.document.text position) functions positions ∧
      let room := session.sink.cap - session.sink.findings.length
      let found := (positions.eraseDups.take room).map missingReturnAt
      session.collectReturns root =
        ({ session with sink.findings := session.sink.findings ++ found }, .ok found.length) := by
  classical
  obtain ⟨entries, horder, hwalk⟩ := SyntaxNode.exists_inOrder_walk root
  have hwhole : ∀ entry ∈ entries, entry.2.IsWhole session.document.text :=
    fun entry he => hroot.at? ((horder.mem_iff entry.1 entry.2).mp he)
  obtain ⟨positions, hpositions, hlook⟩ := Check.exists_lookAt hwhole
  refine ⟨_, positions, ⟨horder.ordered.filter _, fun path node => ?_⟩, hpositions, ?_⟩
  · rw [List.mem_filter, horder.mem_iff, decide_eq_true_eq]
  · intro room found
    have hrows := Check.rows_lt hpositions
    obtain ⟨hsame, hok⟩ := hlook session rfl
    obtain ⟨added, hadded⟩ := exists_of_isOk hok
    have hcount := Session.lookAt_added hadded
    rw [Session.pushAll_returnReportAt hnew hstray hrows] at hsame
    rw [hsame, List.length_append] at hcount
    rw [Session.collectReturns_eq, ← hwalk]
    exact Prod.ext hsame (hadded.trans (congrArg Except.ok (Nat.add_left_cancel hcount).symm))

/-- One function stands in the tree twice, behind a character of two bytes, and one returns
something. A pass over another tree has failed before, at a function on row 7.5. -/
theorem collectReturns_finds_functions_once :
    let text :=
      "/*é*/ function f() Returns (uint) \x7b\x7d\nfunction g() returns(int) \x7b\x7d".toList
    let leaf (kind : String) (start row byte : Int) : SyntaxNode :=
      .node { kind := some (.text kind), startByte := some (.int start)
              startPoint := some (.list [.int row, .int byte]) } .missing [] []
    let silent : SyntaxNode :=
      .node { kind := some (.text "function_definition"), startByte := some (.int 7)
              startPoint := some (.list [.int 0, .int 7]) } .missing
        [leaf "function_body" 35 0 35] []
    let answering : SyntaxNode :=
      .node { kind := some (.text "function_declaration"), startByte := some (.int 38)
              startPoint := some (.list [.int 1, .int 0]) } (leaf "return_statement" 64 1 26) [] []
    let root : SyntaxNode :=
      .node { kind := some (.text "source_file"), startByte := some (.int 0)
              startPoint := some (.list [.int 0, .int 0]) } .missing [silent, answering, silent] []
    let stray : SyntaxNode :=
      .node { kind := some (.text "function_definition"), startByte := some (.int 7)
              startPoint := some (.list [.real (.finite false 15 (-1)), .int 0]) } .missing
        [leaf "function_body" 35 0 35] []
    let session := ((Session.fresh text .allOn defaultCap none).assist (.tree stray)).1
    root.IsWhole text ∧ session.sink.refused.length = 1 ∧ session.sink.findings = [] ∧
      ∃ functions positions,
        SyntaxNode.InOrder (fun path node => root.at? path = some node ∧
          node.LacksReturn text) functions ∧
        List.Forall₂ (fun function position => function.2.StartsAt text position) functions
          positions ∧
        (positions.eraseDups.take session.sink.cap).map missingReturnAt =
          [missingReturnAt (0, 6)] ∧
        (session.collectReturns root).2 = .ok 1 := by
  intro text leaf silent answering root stray session
  have hleaf (kind : String) (start row byte : Nat) (hrow : row < (rows text).length) :
      (leaf kind start row byte).IsWhole text :=
    .intro rfl rfl rfl hrow (nomatch ·) (List.forall_mem_nil _)
  have hsilent : silent.IsWhole text := by
    refine @SyntaxNode.IsWhole.intro text _ _ _ _ _ 7 0 7 rfl rfl rfl (by decide) (nomatch ·) ?_
    exact List.forall_mem_singleton.mpr (hleaf _ 35 0 35 (by decide))
  have hanswering : answering.IsWhole text :=
    @SyntaxNode.IsWhole.intro text _ _ _ _ _ 38 1 0 rfl rfl rfl (by decide)
      (fun _ => hleaf _ 64 1 26 (by decide)) (List.forall_mem_nil _)
  have hroot : root.IsWhole text := by
    refine @SyntaxNode.IsWhole.intro text _ _ _ _ _ 0 0 0 rfl rfl rfl (by decide) (nomatch ·) ?_
    intro child hc
    simp only [SyntaxNode.children, List.isEmpty_cons, Bool.false_eq_true, if_false,
      List.mem_cons, List.not_mem_nil, or_false] at hc
    rcases hc with rfl | rfl | rfl
    · exact hsilent
    · exact hanswering
    · exact hsilent
  have htext : session.document.text = text := by decide +kernel
  have hnew : session.sink.findings = [] := by decide +kernel
  have hfound : (session.collectReturns root).1.sink.findings = [missingReturnAt (0, 6)] := by
    decide +kernel
  have h := collectReturns_finds_functions session root (htext.symm ▸ hroot) (by simp [hnew])
    (Session.Grown.stray (.assist _ (.fresh _ _ _ _)))
  simp only [htext, hnew, List.length_nil, Nat.sub_zero, List.nil_append] at h
  obtain ⟨functions, positions, horder, hpositions, hcollect⟩ := h
  rw [hcollect] at hfound ⊢
  exact ⟨hroot, by decide +kernel, hnew, functions, positions, horder, hpositions, hfound,
    congrArg (Except.ok ∘ List.length) hfound⟩

end SolidityLint
