import SolidityLint.Proofs.Pattern.Spans

/-!
# Patterns match wherever they can

If a plain pattern can lead from a place to another one, there is a match at the place
(`run_succeeds`). Ways that are tried earlier may fail, but do not get in the way of later ones; a
look at the next character rules out only ways that fail; and a repeat that leaves out iterations
without characters ends where it would have ended with them. So a text holds a match exactly if the
pattern leads from some place of the text to another (`occursIn_iff`), and a group at the end of a
pattern goes on as far as it can (`group_longest`).
-/

namespace SolidityLint

-- ---------------------------------------------------------------------------
-- Characters without case
-- ---------------------------------------------------------------------------

namespace Text

variable {code n : Nat}

theorem not_letter_of_not_isCased (hn : n < 128) (h : isCased false n = false) :
    isAsciiCapital n = false ∧ isAsciiSmall n = false := by
  simp only [isCased, Bool.false_eq_true, if_false, Bool.or_eq_false_iff, bne_eq_false_iff_eq,
    lowerCode, upperCode, hn, if_true, asciiLowerCode, asciiUpperCode] at h
  obtain ⟨hlower, hupper⟩ := h
  constructor
  · refine Bool.eq_false_iff.mpr fun hc => ?_
    rw [if_pos hc] at hlower
    omega
  · refine Bool.eq_false_iff.mpr fun hc => ?_
    rw [if_pos hc] at hupper
    simp only [isAsciiSmall, Bool.and_eq_true, decide_eq_true_eq] at hc
    omega

theorem eq_of_asciiLowerCode_eq (hsmall : isAsciiSmall n = false)
    (h : asciiLowerCode code = n) : code = n := by
  unfold asciiLowerCode at h
  split at h
  · rename_i hcapital
    simp only [isAsciiCapital, Bool.and_eq_true, decide_eq_true_eq] at hcapital
    simp only [isAsciiSmall, Bool.and_eq_false_iff, decide_eq_false_iff_not] at hsmall
    omega
  · exact h

/-- The small forms of characters beyond ASCII are beyond ASCII too, or letters. -/
theorem shiftBy_lowerRuns (h : 128 ≤ code) :
    128 ≤ shiftBy lowerRuns code ∨ isAsciiSmall (shiftBy lowerRuns code) = true := by
  have htable : (lowerRuns.all fun run => 128 ≤ run.first + run.shift ||
      run.first == run.last && isAsciiSmall (run.first + run.shift).toNat) = true := by
    decide +kernel
  unfold shiftBy
  split
  · rename_i run hrun
    have hcontains := List.find?_some hrun
    have hentry := List.all_eq_true.mp htable run (List.mem_of_find?_eq_some hrun)
    simp only [CaseRun.contains, Bool.and_eq_true, decide_eq_true_eq] at hcontains
    simp only [Bool.or_eq_true, Bool.and_eq_true, decide_eq_true_eq, beq_iff_eq] at hentry
    rcases hentry with hfar | ⟨hone, hsmall⟩
    · exact .inl (by omega)
    · obtain rfl : code = run.first := by omega
      exact .inr hsmall
  · exact .inl h

/-- A character of ASCII that is no letter is the only one that is folded to it. -/
theorem eq_of_foldCode_eq (hn : n < 128) (hc : isCased false n = false)
    (h : foldCode code = foldCode n) : code = n := by
  obtain ⟨hcapital, hsmall⟩ := not_letter_of_not_isCased hn hc
  have hlower : lowerCode n = n := by simp [lowerCode, asciiLowerCode, hn, hcapital]
  have hfold : foldCode n = n := by simp [foldCode, hlower, hn]
  have htwins : (twins.all fun twin => 128 ≤ twin.2 || isAsciiSmall twin.2) = true := by decide
  rw [hfold] at h
  have hlowered : lowerCode code = n := by
    unfold foldCode at h
    dsimp only at h
    split at h
    · exact h
    · rename_i hfar
      cases hlookup : twins.lookup (lowerCode code) with
      | none =>
        rw [hlookup] at h
        exact h
      | some first =>
        rw [hlookup, Option.getD_some] at h
        obtain ⟨front, back, hsplit, -⟩ := List.lookup_eq_some_iff.mp hlookup
        have hm : (lowerCode code, first) ∈ twins := by simp [hsplit]
        have hentry := List.all_eq_true.mp htwins _ hm
        simp only [h, hsmall, Bool.or_false, decide_eq_true_eq] at hentry
        omega
  by_cases hcode : code < 128
  · simp only [lowerCode, hcode, if_true] at hlowered
    exact eq_of_asciiLowerCode_eq hsmall hlowered
  · simp only [lowerCode, hcode, if_false] at hlowered
    rcases shiftBy_lowerRuns (Nat.le_of_not_lt hcode) with hfar | hletter
    · omega
    · rw [hlowered, hsmall] at hletter
      cases hletter

theorem eq_of_foldedCode_eq {ascii : Bool} (hn : n < 128) (hc : isCased ascii n = false)
    (h : foldedCode ascii code = foldedCode ascii n) : code = n := by
  cases ascii with
  | false => exact eq_of_foldCode_eq hn hc h
  | true =>
    simp only [isCased, if_true, Bool.or_eq_false_iff] at hc
    have hlower : asciiLowerCode n = n := by simp [asciiLowerCode, hc.1]
    simp only [foldedCode, if_true, hlower] at h
    exact eq_of_asciiLowerCode_eq hc.2 h

end Text

-- ---------------------------------------------------------------------------
-- Looks at the next character
-- ---------------------------------------------------------------------------

/-- If a set that ignores case has one character only, this character is of ASCII. -/
def CharSet.isExact (set : CharSet) : Bool :=
  !set.ignoreCase || set.literal?.all (· < 128)

def Pattern.isExact : Pattern → Bool
  | .one set => set.isExact
  | .seq p q | .alt p q => p.isExact && q.isExact
  | .times _ _ _ p | .scoped p => p.isExact
  | _ => true

section
variable {set : CharSet} {lead : Lead} {p : Pattern} {a b : Place} {x : Char} {rest : List Char}

theorem CharSet.toNat_of_literal? {code : Nat} (he : set.isExact = true)
    (hl : set.literal? = some code) (hx : set.contains x = true) : x.toNat = code := by
  unfold isExact at he
  rw [hl] at he
  unfold literal? at hl
  split at hl
  · rename_i n hitems
    split at hl
    · cases hl
    · rename_i hplain
      cases hl
      simp only [Bool.or_eq_true, not_or, Bool.not_eq_true] at hplain
      obtain ⟨hnegated, hcased⟩ := hplain
      simp only [contains, hnegated, hitems, Bool.bne_false] at hx
      split at hx
      · rename_i hignore
        simp only [hignore, Bool.not_true, Bool.false_or, Option.all_some,
          decide_eq_true_eq] at he
        simp only [isCased, hignore, hitems, Bool.true_and] at hcased
        exact Text.eq_of_foldedCode_eq he hcased (beq_iff_eq.mp hx)
      · simpa [CharItem.contains] using hx
  · cases hl

theorem CharSet.lead_mayStart (he : set.isExact = true) (ha : a.after = x :: rest)
    (hx : set.contains x = true) : set.lead.mayStart a = true := by
  unfold lead
  split
  · rename_i code hl
    simp [Lead.mayStart, ha, toNat_of_literal? he hl hx]
  · split
    · rfl
    · simp [Lead.mayStart, ha, hx]

theorem Lead.mayFollow_of_mayStart (h : lead.mayStart a = true) : lead.mayFollow a = true := by
  cases lead with
  | literal code => exact h
  | member | other => rfl

/-- Where a pattern can lead on, it is not ruled out; and a pattern that holds nothing stays. -/
theorem Pattern.lead?_of_takes (he : p.isExact = true) (h : p.Takes a b) :
    (∀ lead ∈ p.lead?, lead.mayStart a = true) ∧ (p.lead? = none → b = a) := by
  induction p generalizing a b with
  | empty => exact ⟨fun lead hl => (nomatch hl), fun _ => h⟩
  | one set =>
    obtain ⟨x, rest, ha, hx, rfl⟩ := h
    refine ⟨fun lead hl => ?_, fun hl => (nomatch hl)⟩
    cases hl
    exact CharSet.lead_mayStart he ha hx
  | seq p q ihp ihq =>
    obtain ⟨mid, hp, hq⟩ := h
    simp only [isExact, Bool.and_eq_true] at he
    obtain ⟨hstart, hstay⟩ := ihp he.1 hp
    unfold lead?
    split
    · rename_i lead hl
      refine ⟨fun same hs => ?_, fun hn => (nomatch hn)⟩
      cases hs
      exact hstart lead hl
    · rename_i hl
      obtain rfl := hstay hl
      exact ihq he.2 hq
  | anchor | alt | times | group | again | given | look | atomic =>
    refine ⟨fun lead hl => ?_, fun hl => (nomatch hl)⟩
    cases hl
    rfl
  -- the scope of a pattern
  | _ =>
    rename_i ih
    exact ih he h

theorem Pattern.lead_of_takes (he : p.isExact = true) (h : p.Takes a b) :
    p.lead.mayStart a = true := by
  obtain ⟨hstart, -⟩ := lead?_of_takes he h
  unfold lead
  cases hl : p.lead? with
  | none => rfl
  | some lead => exact hstart lead hl

end

-- ---------------------------------------------------------------------------
-- Attempts that succeed
-- ---------------------------------------------------------------------------

def Attempt.Succeeds (attempt : Attempt) : Prop := ∃ final, attempt = .success final

def Rest.Accepts (rest : Rest) (place : Place) : Prop := ∀ trail, (rest place trail).Succeeds

/-- The runner succeeds whenever the relation leads to a place from where the rest does. -/
def Runner.Reaches (body : Runner) (lead : Place → Place → Prop) : Prop :=
  ∀ a b trail rest, lead a b → Rest.Accepts rest b → (body a trail rest).Succeeds

section
variable {attempt : Attempt} {next : Trail → Attempt} {setting : Setting} {lead : Lead}
  {way : Runner} {rest : Rest} {a b : Place} {trail : Trail}

theorem settle_accepts (a : Place) : Rest.Accepts settle a := fun _ => ⟨_, rfl⟩

theorem Attempt.Succeeds.onFailure (h : attempt.Succeeds) (next : Trail → Attempt) :
    (attempt.onFailure next).Succeeds := by
  obtain ⟨final, rfl⟩ := h
  exact ⟨final, rfl⟩

theorem Attempt.Succeeds.orElse (h : ∀ left, (next left).Succeeds) :
    (attempt.onFailure next).Succeeds := by
  cases attempt with
  | success final => exact ⟨final, rfl⟩
  | failure left => exact h left

theorem Setting.tryWay_succeeds (hl : lead.mayStart a = true)
    (hw : ∀ trail, (way a trail rest).Succeeds) :
    (setting.tryWay lead way a trail rest).Succeeds := by
  unfold tryWay
  rw [if_pos hl]
  exact (hw _).onFailure _

-- ---------------------------------------------------------------------------
-- Repeats of a character
-- ---------------------------------------------------------------------------

theorem stretch_of_reads {set : CharSet} {limit : Option Nat} {count pos : Nat}
    {before after read : List Char} (hr : Place.Reads ⟨pos, before, after⟩ read b)
    (hs : ∀ x ∈ read, set.contains x = true) (hm : ∀ most ∈ limit, count + read.length ≤ most) :
    ∃ more, b.Reads more (stretch set limit count pos before after).2 ∧
      (stretch set limit count pos before after).1 = count + read.length + more.length := by
  induction read generalizing count pos before after with
  | nil =>
    obtain rfl := hr.eq_of_nil
    obtain ⟨more, hcount, hmore, -⟩ := stretch_reads set limit count pos before after
    exact ⟨more, hmore, hcount⟩
  | cons x read ih =>
    obtain ⟨rest, hafter, hr⟩ := hr.of_cons
    obtain rfl : after = x :: rest := hafter
    have hgoes : (limit = some count || !set.contains x) = false := by
      have hx := hs x List.mem_cons_self
      have hne : limit ≠ some count := by
        intro he
        have := hm count he
        rw [List.length_cons] at this
        omega
      simp [hx, hne]
    have hmost : ∀ most ∈ limit, count + 1 + read.length ≤ most := by
      intro most hl
      have := hm most hl
      rw [List.length_cons] at this
      omega
    obtain ⟨more, hmore, hcount⟩ := ih hr (fun y hy => hs y (List.mem_cons_of_mem _ hy)) hmost
    unfold stretch
    rw [hgoes]
    refine ⟨more, hmore, hcount.trans ?_⟩
    rw [List.length_cons]
    omega

/-- Giving back characters one by one comes by every place between. -/
theorem Setting.tryBackward_succeeds {saved : Marks} {spare : Nat} {place : Place}
    {more : List Char} (hb : b.Reads more place) (hl : more.length ≤ spare)
    (hnext : setting.next.mayFollow b = true) (hrest : Rest.Accepts rest b) :
    (setting.tryBackward saved rest spare place trail).Succeeds := by
  induction spare generalizing place more trail with
  | zero =>
    obtain rfl : more = [] := List.length_eq_zero_iff.mp (Nat.le_zero.mp hl)
    obtain rfl := hb.eq_of_nil
    obtain ⟨final, hfinal⟩ := hrest (trail.reach place)
    refine ⟨final, ?_⟩
    unfold tryBackward
    simp only [hnext, if_true, hfinal, Attempt.onFailure]
  | succ spare ih =>
    unfold tryBackward
    rcases List.eq_nil_or_concat more with rfl | ⟨kept, y, rfl⟩
    · obtain rfl := hb.eq_of_nil
      obtain ⟨final, hfinal⟩ := hrest (trail.reach place)
      refine ⟨final, ?_⟩
      simp only [hnext, if_true, hfinal, Attempt.onFailure]
    · rw [List.concat_eq_append] at hb hl
      have hbefore : place.before = y :: (kept.reverse ++ b.before) := by simp [hb.before]
      generalize (if setting.next.mayFollow place then _ else _) = attempt
      cases attempt with
      | success final => exact ⟨final, rfl⟩
      | failure left =>
        simp only [hbefore]
        refine ih (hb.unstep hbefore) ?_
        simpa using hl

theorem Place.hasLeft_of_reads {read : List Char} {n : Nat} (h : a.Reads read b)
    (hn : n ≤ read.length) : a.hasLeft n = true := by
  cases n with
  | zero => rfl
  | succ n =>
    have hne : a.after.drop n ≠ [] := by
      rw [Ne, List.drop_eq_nil_iff, h.after, List.length_append]
      omega
    simpa [hasLeft] using hne

theorem Setting.runSingle_succeeds {set : CharSet} {low : Nat} {high : Option Nat}
    (h : Stretches set low high a b) (hnext : setting.next.mayFollow b = true)
    (hrest : Rest.Accepts rest b) :
    (setting.runSingle set .greedy low high a trail rest).Succeeds := by
  obtain ⟨read, hr, hs, hlow, hhigh⟩ := h
  have hmost : ∀ most ∈ high, 0 + read.length ≤ most := by simpa using hhigh
  obtain ⟨more, hmore, hcount⟩ := stretch_of_reads hr hs hmost
  have henough : ¬(stretch set high 0 a.pos a.before a.after).1 < low := by omega
  unfold runSingle
  simp only [Place.hasLeft_of_reads hr hlow, if_true, reduceCtorEq, if_false, henough]
  refine tryBackward_succeeds hmore ?_ hnext hrest
  omega

end

-- ---------------------------------------------------------------------------
-- Other repeats
-- ---------------------------------------------------------------------------

section
variable {body : Runner} {lead : Place → Place → Prop} {rest more : Rest} {n : Nat} {a b : Place}
  {trail : Trail}

theorem runExactly_accepts (hb : Runner.Reaches body lead) (h : Iterated lead n a b)
    (hm : Rest.Accepts more b) : Rest.Accepts (runExactly body more n) a := by
  induction n generalizing a with
  | zero =>
    cases h
    exact hm
  | succ n ih =>
    obtain ⟨mid, hfirst, hlater⟩ := h
    intro trail
    exact (hb a mid _ _ hfirst (ih hlater)).onFailure _

theorem leaveRepeat_accepts (hrest : Rest.Accepts rest a) : Rest.Accepts (leaveRepeat rest) a :=
  fun trail => (hrest (trail.reach a)).onFailure _

def Advances (lead : Place → Place → Prop) (a b : Place) : Prop := lead a b ∧ a.pos < b.pos

theorem runGreedy_accepts {fuel : Nat} (hb : Runner.Reaches body lead)
    (h : Iterated (Advances lead) n a b) (hn : n ≤ fuel) (last : Option Nat)
    (hlast : ∀ pos ∈ last, pos < a.pos) (hrest : Rest.Accepts rest b) :
    Rest.Accepts (runGreedy body rest fuel last) a := by
  induction n generalizing a fuel last with
  | zero =>
    cases h
    intro trail
    cases fuel with
    | zero => exact leaveRepeat_accepts hrest trail
    | succ fuel =>
      unfold runGreedy
      split
      · exact leaveRepeat_accepts hrest trail
      · exact .orElse fun _ => leaveRepeat_accepts hrest trail
  | succ n ih =>
    obtain ⟨mid, ⟨hfirst, hpos⟩, hlater⟩ := h
    obtain ⟨fuel, rfl⟩ : ∃ more, fuel = more + 1 := ⟨fuel - 1, by omega⟩
    have hmoved : ∀ pos ∈ some a.pos, pos < mid.pos := by
      intro pos hp
      cases hp
      exact hpos
    have hne : last ≠ some a.pos := fun he => Nat.lt_irrefl _ (hlast a.pos he)
    intro trail
    unfold runGreedy
    rw [if_neg hne]
    exact (hb a mid _ _ hfirst (ih hlater (by omega) _ hmoved)).onFailure _

end

namespace Pattern

variable {p : Pattern} {set : CharSet} {setting : Setting} {rest : Rest} {a b : Place}
  {trail : Trail} {n : Nat}

/-- Iterations that take nothing can be left out, and the others are not more than characters. -/
theorem Iterated.advances (h : Iterated p.Takes n a b) :
    ∃ m ≤ n, Iterated (Advances p.Takes) m a b ∧ a.pos + m ≤ b.pos := by
  induction n generalizing a with
  | zero =>
    cases h
    exact ⟨0, Nat.le_refl 0, rfl, Nat.le_refl _⟩
  | succ n ih =>
    obtain ⟨mid, hfirst, hlater⟩ := h
    obtain ⟨m, hm, hmore, hle⟩ := ih hlater
    obtain ⟨read, hr, -⟩ := hfirst.reads
    have hpos := hr.pos
    cases read with
    | nil =>
      obtain rfl := hr.eq_of_nil
      exact ⟨m, Nat.le_succ_of_le hm, hmore, hle⟩
    | cons x read =>
      rw [List.length_cons] at hpos
      have hmoved : a.pos < mid.pos := by omega
      exact ⟨m + 1, Nat.succ_le_succ hm, ⟨mid, ⟨hfirst, hmoved⟩, hmore⟩, by omega⟩

theorem takes_one_of_single? (h : p.single? = some set) (ht : p.Takes a b) :
    (one set).Takes a b := by
  induction p generalizing b with
  | one other =>
    cases h
    exact ht
  | seq p q ihp ihq =>
    cases q with
    | empty =>
      obtain ⟨mid, hp, rfl⟩ := ht
      exact ihp h hp
    | _ => cases h
  | empty | anchor | alt | times | group | again | given | look | atomic => cases h
  -- the scope of a pattern
  | _ =>
    rename_i ih
    exact ih h ht

theorem stretches_of_takes_times {mode : RepeatMode} {low : Nat} {high : Option Nat}
    (h : p.single? = some set) (ht : (times mode low high p).Takes a b) :
    Stretches set low high a b := by
  obtain ⟨n, hlow, hhigh, ht⟩ := ht
  obtain ⟨read, hr, hs, rfl⟩ : ∃ read, a.Reads read b ∧
      (∀ x ∈ read, set.contains x = true) ∧ read.length = n := by
    clear hlow hhigh
    induction n generalizing a with
    | zero =>
      cases ht
      exact ⟨[], .refl _, List.forall_mem_nil _, rfl⟩
    | succ n ih =>
      obtain ⟨mid, hfirst, hlater⟩ := ht
      obtain ⟨x, rest, ha, hx, rfl⟩ := takes_one_of_single? h hfirst
      obtain ⟨read, hr, hs, rfl⟩ := ih hlater
      exact ⟨[x] ++ read, (Place.Reads.step ha).trans hr, by simpa [hx] using hs, by simp⟩
  exact ⟨read, hr, hs, hlow, hhigh⟩

theorem runTimes_succeeds {body : Runner} {low : Nat} {high : Option Nat}
    (hb : Runner.Reaches body p.Takes) (h : (times .greedy low high p).Takes a b)
    (hrest : Rest.Accepts rest b) :
    (setting.runTimes body .greedy low high a trail rest).Succeeds := by
  obtain ⟨read, hr, -⟩ := h.reads
  obtain ⟨n, hlow, hhigh, h⟩ := h
  obtain ⟨extra, rfl⟩ := Nat.exists_eq_add_of_le hlow
  obtain ⟨mid, hfirst, hmore⟩ := h.split
  obtain ⟨m, hm, hadvances, hle⟩ := Iterated.advances hmore
  have hfuel : m ≤ spareIterations low high a := by
    unfold spareIterations
    split
    · rename_i most
      have := hhigh most rfl
      omega
    · have hpos := hr.pos
      have hlength := congrArg List.length hr.after
      rw [List.length_append] at hlength
      omega
  have hgreedy := runGreedy_accepts hb hadvances hfuel none (by simp) hrest
  exact runExactly_accepts hb hfirst hgreedy trail

theorem run_look_succeeds {negated : Bool} (h : (look .ahead negated (.one set)).Takes a b)
    (hrest : Rest.Accepts rest b) (trail : Trail) :
    ((look .ahead negated (.one set)).run setting a trail rest).Succeeds := by
  obtain ⟨rfl, hn⟩ := h
  unfold run Setting.runLook
  rcases run_one_settle set b (trail.reach b) { setting with next := .other } with
    ⟨final, hrun, -, hb⟩ | ⟨hrun, hb⟩
  · cases negated with
    | false =>
      simp only [hrun]
      exact hrest final
    | true => exact absurd hb (hn.mp rfl)
  · cases negated with
    | false => exact absurd (hn.mpr hb) Bool.false_ne_true
    | true =>
      simp only [hrun]
      exact hrest _

/-- A way that leads on is found, if the next character speaks for what follows. -/
theorem run_succeeds (hp : p.isPlain = true) (he : p.isExact = true) (h : p.Takes a b)
    (setting : Setting) (hnext : setting.next.mayFollow b = true) (hrest : Rest.Accepts rest b)
    (trail : Trail) :
    (p.run setting a trail rest).Succeeds := by
  induction p generalizing setting rest a b trail with
  | empty =>
    cases h
    exact hrest trail
  | one set =>
    obtain ⟨x, after, ha, hx, rfl⟩ := h
    simp only [run, ha, hx, if_true]
    exact hrest trail
  | anchor condition =>
    obtain ⟨hc, rfl⟩ := h
    simp only [run, hc, if_true]
    exact hrest trail
  | seq p q ihp ihq =>
    obtain ⟨mid, hfirst, hsecond⟩ := h
    simp only [isPlain, isExact, Bool.and_eq_true] at hp he
    have haccepts : Rest.Accepts (fun place trail => q.run setting place trail rest) mid :=
      ihq hp.2 he.2 hsecond setting hnext hrest
    refine ihp hp.1 he.1 hfirst _ ?_ haccepts trail
    obtain ⟨hstart, hstay⟩ := lead?_of_takes he.2 hsecond
    cases hl : q.lead? with
    | some lead => exact Lead.mayFollow_of_mayStart (hstart lead hl)
    | none =>
      obtain rfl := hstay hl
      exact hnext
  | alt p q ihp ihq =>
    simp only [isPlain, isExact, Bool.and_eq_true] at hp he
    unfold run
    rcases h with h | h
    · have hfirst := ihp hp.1 he.1 h { setting with next := .other } rfl hrest
      exact (Setting.tryWay_succeeds (lead_of_takes he.1 h) hfirst).onFailure _
    · have hsecond := ihq hp.2 he.2 h { setting with next := .other } rfl hrest
      refine .orElse fun left => ?_
      split
      · exact hsecond left
      · exact Setting.tryWay_succeeds (lead_of_takes he.2 h) hsecond
  | times mode low high p ih =>
    cases mode with
    | greedy =>
      simp only [isPlain, Bool.and_eq_true] at hp
      unfold run
      split
      · rename_i set hset
        exact Setting.runSingle_succeeds (stretches_of_takes_times hset h) hnext hrest
      · refine runTimes_succeeds (fun a b trail rest ht hrest => ?_) h hrest
        exact ih hp.2 he ht _ rfl hrest trail
    | reluctant | possessive => cases hp
  | look direction negated p ih =>
    cases direction with
    | behind width => cases hp
    | ahead =>
      cases p with
      | one set => exact run_look_succeeds h hrest trail
      | _ => cases hp
  | group | again | given | atomic => cases hp
  -- the scope of a pattern
  | _ =>
    rename_i ih
    exact ih hp he h setting hnext hrest trail

-- ---------------------------------------------------------------------------
-- Matches in a text
-- ---------------------------------------------------------------------------

theorem matchAt?_isSome_iff (hp : p.isPlain = true) (he : p.isExact = true) :
    (p.matchAt? a).isSome = true ↔ ∃ b, p.Takes a b := by
  constructor
  · intro h
    obtain ⟨found, hfound⟩ := Option.isSome_iff_exists.mp h
    obtain ⟨b, hb, -⟩ := takes_of_matchAt? hp hfound
    exact ⟨b, hb⟩
  · rintro ⟨b, hb⟩
    obtain ⟨final, hrun⟩ := run_succeeds hp he hb {} rfl (settle_accepts b) ⟨a, []⟩
    simp [matchAt?, hrun]

theorem matchAt?_group_isSome {index : Nat} {q : Pattern} {c : Place}
    (hp : p.isPlain = true ∧ p.isExact = true) (hq : q.isPlain = true ∧ q.isExact = true)
    (hb : p.Takes a b) (hc : q.Takes b c) :
    ((seq (group index p) q).matchAt? a).isSome = true := by
  have hbehind : Rest.Accepts (fun place trail => q.run {} place
      { trail with marks := trail.marks.closeGroup index place.pos } settle) b :=
    fun trail => run_succeeds hq.1 hq.2 hc {} rfl (settle_accepts c) _
  obtain ⟨final, hrun⟩ := run_succeeds hp.1 hp.2 hb { next := .other } rfl hbehind
    ⟨a, Marks.openGroup [] index a.pos⟩
  have hrun' : (seq (group index p) q).run {} a ⟨a, []⟩ settle = .success final := hrun
  simp [matchAt?, hrun']

theorem matchAt?_start {found : Match} (h : p.matchAt? a = some found) :
    found.span.start = a.pos := by
  obtain ⟨trail, -, rfl⟩ := matchAt?_eq_some h
  rfl

/-- Where there is a match at a place, a search finds one, and none that starts behind it. -/
theorem exists_searchFrom?_le {pos : Nat} {before after read : List Char}
    (hr : Place.Reads ⟨pos, before, after⟩ read a) (h : (p.matchAt? a).isSome = true) :
    ∃ found, p.searchFrom? pos before after = some found ∧ found.span.start ≤ a.pos := by
  induction read generalizing pos before after with
  | nil =>
    obtain rfl := hr.eq_of_nil
    obtain ⟨found, hfound⟩ := Option.isSome_iff_exists.mp h
    refine ⟨found, ?_, Nat.le_of_eq (matchAt?_start hfound)⟩
    cases after with
    | nil => exact hfound
    | cons x after => simp [searchFrom?, hfound]
  | cons x read ih =>
    have hpos : pos ≤ a.pos := hr.pos ▸ Nat.le_add_right _ _
    obtain ⟨rest, hafter, hr⟩ := hr.of_cons
    obtain rfl : after = x :: rest := hafter
    unfold searchFrom?
    split
    · rename_i found hfound
      exact ⟨found, rfl, matchAt?_start hfound ▸ hpos⟩
    · exact ih hr

theorem exists_search?_of_matchAt? {text : List Char} (ha : a.In text)
    (h : (p.matchAt? a).isSome = true) :
    ∃ found, p.search? text = some found ∧ found.span.start ≤ a.pos := by
  have hr : Place.Reads { after := text } a.before.reverse a := by
    refine ⟨ha.text.symm, ?_, ?_⟩
    · simp
    · simp [ha.pos]
  exact exists_searchFrom?_le hr h

theorem exists_search?_le {text : List Char} (hp : p.isPlain = true) (he : p.isExact = true)
    (ha : a.In text) (h : p.Takes a b) :
    ∃ found, p.search? text = some found ∧ found.span.start ≤ a.pos :=
  exists_search?_of_matchAt? ha ((matchAt?_isSome_iff hp he).mpr ⟨b, h⟩)

theorem occursIn_iff (hp : p.isPlain = true) (he : p.isExact = true) (text : List Char) :
    p.occursIn text = true ↔ ∃ a b, Place.In a text ∧ p.Takes a b := by
  constructor
  · intro h
    obtain ⟨found, hfound⟩ := Option.isSome_iff_exists.mp h
    obtain ⟨a, ha, hm⟩ := foundIn_of_search? hfound
    obtain ⟨b, hb, -⟩ := takes_of_matchAt? hp hm
    exact ⟨a, b, ha, hb⟩
  · rintro ⟨a, b, ha, hb⟩
    obtain ⟨found, hfound, -⟩ := exists_search?_le hp he ha hb
    exact Option.isSome_iff_exists.mpr ⟨found, hfound⟩

theorem occursIn_alt_left {p q : Pattern} {text : List Char} (hplain : (alt p q).isPlain = true)
    (hexact : (alt p q).isExact = true) (h : p.occursIn text = true) :
    (alt p q).occursIn text = true := by
  have hp := hplain
  have he := hexact
  simp only [isPlain, isExact, Bool.and_eq_true] at hp he
  obtain ⟨a, b, ha, hb⟩ := (occursIn_iff hp.1 he.1 text).mp h
  exact (occursIn_iff hplain hexact text).mpr ⟨a, b, ha, .inl hb⟩

end Pattern

-- ---------------------------------------------------------------------------
-- Groups at the end
-- ---------------------------------------------------------------------------

section
variable {set : CharSet} {a : Place} {trail final : Trail} {rest : Rest}

theorem stretch_stops (set : CharSet) (count pos : Nat) (before after : List Char) :
    (stretch set none count pos before after).2.after.head?.any set.contains = false := by
  induction after generalizing count pos before with
  | nil => rfl
  | cons x after ih =>
    unfold stretch
    split
    · rename_i hx
      simpa using hx
    · exact ih (count + 1) (pos + 1) (x :: before)

theorem Setting.tryBackward_of_success {setting : Setting} {saved : Marks} {place : Place}
    (hnext : setting.next = .other) (h : rest place (trail.reach place) = .success final)
    (spare : Nat) : setting.tryBackward saved rest spare place trail = .success final := by
  unfold tryBackward
  simp only [hnext, Lead.mayFollow, if_true, h, Attempt.onFailure]

theorem Setting.runSingle_longest {setting : Setting} (hnext : setting.next = .other)
    (hrest : ∀ b, Rest.Accepts rest b)
    (h : setting.runSingle set .greedy 0 none a trail rest = .success final) :
    ∃ b left, Stretches set 0 none a b ∧ b.after.head?.any set.contains = false ∧
      left.marks = trail.marks ∧ rest b left = .success final := by
  obtain ⟨read, -, hr, hs, -⟩ := stretch_reads set none 0 a.pos a.before a.after
  have hstops := stretch_stops set 0 a.pos a.before a.after
  obtain ⟨last, hlast⟩ := hrest _ ((trail.reach _).reach _)
  have hrun : setting.runSingle set .greedy 0 none a trail rest = .success last := by
    unfold runSingle
    simp only [Place.hasLeft, reduceCtorEq, if_false, Nat.not_lt_zero]
    exact tryBackward_of_success hnext hlast _
  cases hrun.symm.trans h
  refine ⟨_, _, ⟨read, hr, hs, Nat.zero_le _, by simp⟩, hstops, ?_, hlast⟩
  rfl

end

namespace Pattern

variable {ps : List Pattern} {q : Pattern} {set first : CharSet} {a : Place} {found : Match}
  {trail final : Trail} {rest : Rest} {setting : Setting}

theorem exists_of_run_all (hp : ∀ p ∈ ps, p.isPlain = true) (ht : trail.marks = [])
    (h : (all (ps ++ [q])).run setting a trail rest = .success final) :
    ∃ b left, (all ps).Takes a b ∧ left.marks = [] ∧
      q.run setting b left rest = .success final := by
  induction ps generalizing a trail with
  | nil => exact ⟨a, trail, rfl, ht, h⟩
  | cons p ps ih =>
    have hseq : all (p :: ps ++ [q]) = seq p (all (ps ++ [q])) := by
      cases ps <;> rfl
    rw [hseq, run] at h
    have hkeeps : Rest.Keeps (fun b trail => (all (ps ++ [q])).run setting b trail rest) [] :=
      fun _ _ _ _ _ => List.nil_prefix
    obtain ⟨b, left, hb, hl, hs⟩ := exists_of_run (hp p List.mem_cons_self) hkeeps ht h
    obtain ⟨c, left, hc, hl, hs⟩ := ih (fun p hm => hp p (List.mem_cons_of_mem _ hm)) hl hs
    exact ⟨c, left, takes_all_cons.mpr ⟨b, hb, hc⟩, hl, hs⟩

/-- A group at the end that can go on with characters of a set does so. -/
theorem group_longest (ps : List Pattern) (hp : ∀ p ∈ ps, p.isPlain = true)
    (h : (all (ps ++ [group 1 (all [one first, many (one set)])])).matchAt? a = some found) :
    ∃ b c, (all ps).Takes a b ∧ (all [one first, many (one set)]).Takes b c ∧
      c.after.head?.any set.contains = false ∧ found.group? 1 = some ⟨b.pos, c.pos⟩ := by
  obtain ⟨final, hrun, rfl⟩ := matchAt?_eq_some h
  obtain ⟨b, left, hb, hl, hs⟩ := exists_of_run_all hp rfl hrun
  simp only [all, run] at hs
  split at hs
  · cases hs
  · rename_i x after hafter
    split at hs
    · rename_i hx
      simp only [many, run, single?] at hs
      obtain ⟨c, reached, hc, hstop, hmarks, hs⟩ :=
        Setting.runSingle_longest rfl (fun _ _ => ⟨_, rfl⟩) hs
      cases hs
      have hname : (all [one first, many (one set)]).Takes b c :=
        ⟨_, ⟨x, after, hafter, hx, rfl⟩, takes_times_of_stretches rfl hc⟩
      obtain ⟨read, hr, -⟩ := hname.reads
      have hle : b.pos ≤ c.pos := hr.pos ▸ Nat.le_add_right _ _
      refine ⟨b, c, hb, hname, hstop, ?_⟩
      have hgroup : reached.marks.closeGroup 1 c.pos = [some b.pos, some c.pos] := by
        rw [hmarks, hl]
        rfl
      simp [Match.group?, Trail.reach, hgroup, Marks.group?, Marks.ends?, hle]
    · cases hs

end Pattern

end SolidityLint
