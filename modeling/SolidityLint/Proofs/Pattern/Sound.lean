import SolidityLint.Proofs.Pattern.Takes

/-!
# Matches are what patterns take

A successful run of a plain pattern goes on where the pattern can lead (`run_passes`). A pattern
with one group, and plain patterns before, in and behind it, splits its match into what these
patterns take (`exists_of_run_parts`). Failed ways may set marks of groups before they fail, so the
proofs carry beside the place which marks are still there after a failure.
-/

namespace SolidityLint

-- ---------------------------------------------------------------------------
-- Attempts and the rest of a match
-- ---------------------------------------------------------------------------

/-- After a failure, the rest of a match leaves the marks with which it began, and maybe more. -/
def Rest.Keeps (rest : Rest) (marks : Marks) : Prop :=
  ∀ place trail left, trail.marks = marks → rest place trail = .failure left →
    marks <+: left.marks

/-- A success has come by one of the places of `goal`, from where the rest succeeded. -/
def Attempt.Passes (marks : Marks) (goal : Place → Prop) (rest : Rest) : Attempt → Prop
  | .success final => ∃ place trail, goal place ∧ trail.marks = marks ∧
      rest place trail = .success final
  | .failure left => marks <+: left.marks

def Attempt.Reverts (marks : Marks) (attempt : Attempt) : Prop :=
  ∀ left, attempt = .failure left → left.marks = marks

section
variable {marks : Marks} {goal other : Place → Prop} {rest middle : Rest} {attempt : Attempt}
  {place : Place} {trail : Trail}

theorem Attempt.Passes.of_rest (hr : Rest.Keeps rest marks) (hg : goal place)
    (ht : trail.marks = marks) : (rest place trail).Passes marks goal rest := by
  cases h : rest place trail with
  | success final => exact ⟨place, trail, hg, ht, h⟩
  | failure left => exact hr place trail left ht h

theorem Attempt.Passes.mono (h : attempt.Passes marks goal rest)
    (hg : ∀ place, goal place → other place) : attempt.Passes marks other rest := by
  cases attempt with
  | success final =>
    obtain ⟨place, trail, hp, hs⟩ := h
    exact ⟨place, trail, hg place hp, hs⟩
  | failure left => exact h

/-- What leads to the middle of a match leads on from there. -/
theorem Attempt.Passes.trans (h : attempt.Passes marks goal middle)
    (hm : ∀ place trail, goal place → trail.marks = marks →
      (middle place trail).Passes marks other rest) : attempt.Passes marks other rest := by
  cases attempt with
  | success final =>
    obtain ⟨place, trail, hg, ht, hs⟩ := h
    have hp := hm place trail hg ht
    rwa [hs] at hp
  | failure left => exact h

theorem Attempt.Passes.onFailure {next : Trail → Attempt} (h : attempt.Passes marks goal rest)
    (hn : ∀ left, marks <+: left.marks → (next left).Passes marks goal rest) :
    (attempt.onFailure next).Passes marks goal rest := by
  cases attempt with
  | success final => exact h
  | failure left => exact hn left h

theorem Rest.Keeps.of_passes {lead : Place → Place → Prop}
    (h : ∀ place trail, trail.marks = marks → (middle place trail).Passes marks (lead place) rest) :
    Rest.Keeps middle marks := by
  intro place trail left ht hf
  have hp := h place trail ht
  rwa [hf] at hp

theorem settle_keeps (marks : Marks) : Rest.Keeps settle marks := by
  intro place trail left _ h
  cases h

theorem Setting.takeBack_of_prefix {setting : Setting} {saved marks : Marks}
    (h : saved <+: marks) : setting.takeBack saved marks = saved := by
  unfold takeBack
  split
  · rfl
  · exact (List.prefix_iff_eq_take.mp h).symm

theorem Attempt.Passes.failure (ht : trail.marks = marks) :
    (Attempt.failure trail).Passes marks goal rest :=
  ht ▸ List.prefix_rfl

theorem Attempt.Reverts.failure (ht : trail.marks = marks) :
    (Attempt.failure trail).Reverts marks := by
  intro left h
  cases h
  exact ht

theorem Attempt.Passes.orElse {next : Trail → Attempt}
    (h : attempt.Passes marks goal rest ∧ attempt.Reverts marks)
    (hn : ∀ left, left.marks = marks → (next left).Passes marks goal rest) :
    (attempt.onFailure next).Passes marks goal rest := by
  obtain ⟨hp, hr⟩ := h
  cases attempt with
  | success final => exact hp
  | failure left => exact hn left (hr left rfl)

theorem Attempt.Passes.takeBack {setting : Setting} (h : attempt.Passes marks goal rest) :
    let back := attempt.onFailure fun left =>
      .failure { left with marks := setting.takeBack marks left.marks }
    back.Passes marks goal rest ∧ back.Reverts marks := by
  cases attempt with
  | success final => exact ⟨h, fun left h => nomatch h⟩
  | failure left =>
    have hback : setting.takeBack marks left.marks = marks := Setting.takeBack_of_prefix h
    exact ⟨.failure hback, .failure hback⟩

theorem Setting.tryWay_passes {setting : Setting} {lead : Lead} {way : Runner}
    (hw : ∀ trail, trail.marks = marks → (way place trail rest).Passes marks goal rest)
    (ht : trail.marks = marks) :
    let attempt := setting.tryWay lead way place trail rest
    attempt.Passes marks goal rest ∧ attempt.Reverts marks := by
  unfold tryWay
  split
  · rw [ht]
    exact (hw (trail.reach place) ht).takeBack
  · exact ⟨.failure ht, .failure ht⟩

end

-- ---------------------------------------------------------------------------
-- Repeats of a character
-- ---------------------------------------------------------------------------

section
variable {set : CharSet} {high : Option Nat} {marks : Marks} {rest : Rest} {a place : Place}
  {read : List Char}

theorem stretch_reads (set : CharSet) (high : Option Nat) (count pos : Nat)
    (before after : List Char) :
    ∃ read, (stretch set high count pos before after).1 = count + read.length ∧
      Place.Reads ⟨pos, before, after⟩ read (stretch set high count pos before after).2 ∧
      (∀ x ∈ read, set.contains x = true) ∧
      ∀ most ∈ high, count ≤ most → count + read.length ≤ most := by
  induction after generalizing count pos before with
  | nil => exact ⟨[], rfl, .refl _, by simp, fun most _ h => h⟩
  | cons x after ih =>
    unfold stretch
    split
    · exact ⟨[], rfl, .refl _, by simp, fun most _ h => h⟩
    · rename_i hx
      simp only [Bool.or_eq_true, decide_eq_true_eq, Bool.not_eq_true', not_or,
        Bool.not_eq_false] at hx
      obtain ⟨read, hc, hr, hs, hm⟩ := ih (count + 1) (pos + 1) (x :: before)
      refine ⟨x :: read, ?_, ?_, ?_, ?_⟩
      · rw [hc, List.length_cons]
        omega
      · have hfirst : Place.Reads ⟨pos, before, x :: after⟩ [x] ⟨pos + 1, x :: before, after⟩ :=
          .step rfl
        exact hfirst.trans hr
      · simpa [hx.2] using hs
      · intro most hmost hle
        have hne : count ≠ most := fun he => hx.1 (he ▸ hmost)
        have := hm most hmost (by omega)
        rw [List.length_cons]
        omega

theorem Setting.tryHere_passes (setting : Setting) {goal : Place → Prop} {trail : Trail}
    (hrest : Rest.Keeps rest marks) (hg : goal place) (ht : trail.marks = marks) :
    let attempt :=
      if setting.next.mayFollow place then
        (rest place (trail.reach place)).onFailure fun left =>
          .failure { left with marks := setting.takeBack marks left.marks }
      else .failure trail
    attempt.Passes marks goal rest ∧ attempt.Reverts marks := by
  have hhere : (rest place (trail.reach place)).Passes marks goal rest := .of_rest hrest hg ht
  split
  · exact hhere.takeBack
  · exact ⟨.failure ht, .failure ht⟩

def Stretches (set : CharSet) (low : Nat) (high : Option Nat) (a b : Place) : Prop :=
  ∃ read, a.Reads read b ∧ (∀ x ∈ read, set.contains x = true) ∧ low ≤ read.length ∧
    ∀ most ∈ high, read.length ≤ most

theorem Setting.tryBackward_passes {setting : Setting} {low spare : Nat} {trail : Trail}
    (hrest : Rest.Keeps rest marks) (hr : a.Reads read place)
    (hs : ∀ x ∈ read, set.contains x = true) (hl : low + spare = read.length)
    (hm : ∀ most ∈ high, read.length ≤ most) (ht : trail.marks = marks) :
    (setting.tryBackward marks rest spare place trail).Passes marks (Stretches set low high a)
      rest := by
  induction spare generalizing place trail read with
  | zero =>
    have hg : Stretches set low high a place := ⟨read, hr, hs, by omega, hm⟩
    obtain ⟨hp, -⟩ := setting.tryHere_passes hrest hg ht
    unfold tryBackward
    dsimp only
    split
    · contradiction
    · exact hp
  | succ spare ih =>
    have hg : Stretches set low high a place := ⟨read, hr, hs, by omega, hm⟩
    obtain ⟨hp, hmarks⟩ := setting.tryHere_passes hrest hg ht
    unfold tryBackward
    revert hp hmarks
    generalize (if setting.next.mayFollow place then _ else _) = attempt
    intro hp hmarks
    dsimp only
    split
    · rename_i left spare' x before he hb
      obtain rfl := Nat.succ.inj he
      obtain ⟨kept, y, rfl⟩ : ∃ kept y, read = kept ++ [y] := by
        refine ⟨read.dropLast, read.getLast ?_, (List.dropLast_concat_getLast _).symm⟩
        rintro rfl
        cases hl
      simp only [List.length_append, List.length_singleton] at hl hm
      refine ih (hr.unstep hb) (fun z hz => hs z (by simp [hz])) ?_ ?_ (hmarks left rfl)
      · omega
      · exact fun most hmost => Nat.le_of_succ_le (hm most hmost)
    · exact hp

theorem Setting.runSingle_passes {setting : Setting} {low : Nat} {trail : Trail}
    (hrest : Rest.Keeps rest marks) (ht : trail.marks = marks) :
    (setting.runSingle set .greedy low high a trail rest).Passes marks (Stretches set low high a)
      rest := by
  obtain ⟨read, hcount, hr, hs, hm⟩ :=
    stretch_reads set high 0 a.pos a.before a.after
  unfold runSingle
  split
  · simp only [reduceCtorEq, if_false]
    split
    · exact .failure ht
    · rename_i hlow
      rw [ht]
      refine tryBackward_passes hrest hr hs ?_ ?_ ht
      · omega
      · exact fun most hmost => Nat.zero_add read.length ▸ hm most hmost (Nat.zero_le _)
  · exact .failure ht

end

-- ---------------------------------------------------------------------------
-- Other repeats
-- ---------------------------------------------------------------------------

section
variable {marks : Marks} {body : Runner} {lead next : Place → Place → Prop} {rest more : Rest}
  {a : Place} {trail : Trail}

def Runner.Leads (body : Runner) (marks : Marks) (lead : Place → Place → Prop) : Prop :=
  ∀ place trail rest, Rest.Keeps rest marks → trail.marks = marks →
    (body place trail rest).Passes marks (lead place) rest

theorem runExactly_passes (hb : Runner.Leads body marks lead)
    (hm : ∀ place trail, trail.marks = marks → (more place trail).Passes marks (next place) rest)
    (n : Nat) (ht : trail.marks = marks) :
    (runExactly body more n a trail).Passes marks
      (fun c => ∃ b, Iterated lead n a b ∧ next b c) rest := by
  induction n generalizing a trail with
  | zero => exact (hm a trail ht).mono fun c hc => ⟨a, rfl, hc⟩
  | succ n ih =>
    unfold runExactly
    refine Attempt.Passes.onFailure ?_ fun left hl => hl
    have hkeeps : Rest.Keeps (runExactly body more n) marks := .of_passes fun _ _ => ih
    refine (hb a (trail.reach a) _ hkeeps ht).trans fun place trail hp ht => ?_
    refine (ih ht).mono ?_
    rintro c ⟨b, hi, hc⟩
    exact ⟨b, ⟨place, hp, hi⟩, hc⟩

theorem leaveRepeat_passes {goal : Place → Prop} (hrest : Rest.Keeps rest marks) (hg : goal a)
    (ht : trail.marks = marks) : (leaveRepeat rest a trail).Passes marks goal rest := by
  have hhere : (rest a (trail.reach a)).Passes marks goal rest := .of_rest hrest hg ht
  exact hhere.onFailure fun left hl => hl

theorem runGreedy_passes (hb : Runner.Leads body marks lead) (hrest : Rest.Keeps rest marks)
    (fuel : Nat) (last : Option Nat) (ht : trail.marks = marks) :
    (runGreedy body rest fuel last a trail).Passes marks
      (fun b => ∃ n ≤ fuel, Iterated lead n a b) rest := by
  induction fuel generalizing a trail last with
  | zero => exact leaveRepeat_passes hrest ⟨0, Nat.le_refl 0, rfl⟩ ht
  | succ fuel ih =>
    have hleave : (leaveRepeat rest a trail).Passes marks
        (fun b => ∃ n ≤ fuel + 1, Iterated lead n a b) rest :=
      leaveRepeat_passes hrest ⟨0, Nat.zero_le _, rfl⟩ ht
    unfold runGreedy
    split
    · exact hleave
    · refine Attempt.Passes.onFailure ?_ fun _ _ => hleave
      have hkeeps : Rest.Keeps (runGreedy body rest fuel (some a.pos)) marks :=
        .of_passes fun _ _ => ih (some a.pos)
      refine (hb a (trail.reach a) _ hkeeps ht).trans fun place trail hp ht => ?_
      refine (ih (some a.pos) ht).mono ?_
      rintro b ⟨n, hn, hi⟩
      exact ⟨n + 1, Nat.succ_le_succ hn, place, hp, hi⟩

theorem Setting.runTimes_passes {setting : Setting} {low : Nat} {high : Option Nat}
    (hb : Runner.Leads body marks lead) (hrest : Rest.Keeps rest marks)
    (hh : ∀ most ∈ high, low ≤ most) (ht : trail.marks = marks) :
    (setting.runTimes body .greedy low high a trail rest).Passes marks
      (fun b => ∃ n, low ≤ n ∧ (∀ most ∈ high, n ≤ most) ∧ Iterated lead n a b) rest := by
  refine (runExactly_passes hb (fun _ _ => runGreedy_passes hb hrest _ none) low ht).mono ?_
  rintro c ⟨b, hfirst, n, hn, hmore⟩
  refine ⟨low + n, Nat.le_add_right _ _, fun most hmost => ?_, hfirst.add hmore⟩
  have hlow := hh most hmost
  cases hmost
  simp only [spareIterations] at hn
  omega

end

-- ---------------------------------------------------------------------------
-- Plain patterns
-- ---------------------------------------------------------------------------

namespace Pattern

variable {p : Pattern} {set : CharSet} {marks : Marks} {rest : Rest} {a b : Place} {trail : Trail}

/-- Neither groups nor references, only greedy repeats, and no looks but at the next character. -/
def isPlain : Pattern → Bool
  | .empty | .one _ | .anchor _ | .look .ahead _ (.one _) => true
  | .seq p q | .alt p q => p.isPlain && q.isPlain
  | .times .greedy low high p => high.all (low ≤ ·) && p.isPlain
  | .scoped p => p.isPlain
  | _ => false

theorem isPlain_all_cons {ps : List Pattern} :
    (all (p :: ps)).isPlain = (p.isPlain && (all ps).isPlain) := by
  cases ps with
  | nil => exact (Bool.and_true _).symm
  | cons q ps => rfl

theorem takes_of_single? (h : p.single? = some set) (ht : (one set).Takes a b) : p.Takes a b := by
  induction p with
  | one other =>
    cases h
    exact ht
  | seq p q ihp ihq =>
    cases q with
    | empty => exact ⟨b, ihp h, rfl⟩
    | _ => cases h
  | empty | anchor | alt | times | group | again | given | look | atomic => cases h
  -- the scope of a pattern
  | _ =>
    rename_i ih
    exact ih h

theorem takes_times_of_stretches {mode : RepeatMode} {low : Nat} {high : Option Nat}
    (h : p.single? = some set) (hs : Stretches set low high a b) :
    (times mode low high p).Takes a b := by
  obtain ⟨read, hr, hset, hlow, hhigh⟩ := hs
  refine ⟨read.length, hlow, hhigh, ?_⟩
  clear hlow hhigh
  induction read generalizing a with
  | nil => exact hr.eq_of_nil
  | cons x read ih =>
    obtain ⟨rest, ha, hr⟩ := hr.of_cons
    have hx : (one set).Takes a (a.step x rest) := ⟨x, rest, ha, hset x (by simp), rfl⟩
    exact ⟨_, takes_of_single? h hx, ih hr fun y hy => hset y (by simp [hy])⟩

theorem run_one_settle (set : CharSet) (a : Place) (trail : Trail) (setting : Setting) :
    (∃ final, (one set).run setting a trail settle = .success final ∧
      final.marks = trail.marks ∧ ∃ b, (one set).Takes a b) ∨
    (one set).run setting a trail settle = .failure trail ∧ ¬∃ b, (one set).Takes a b := by
  unfold run
  split
  · rename_i hafter
    refine .inr ⟨rfl, ?_⟩
    rintro ⟨b, x, after, ha, -⟩
    cases hafter.symm.trans ha
  · rename_i x after hafter
    split
    · rename_i hx
      exact .inl ⟨_, rfl, rfl, _, x, after, hafter, hx, rfl⟩
    · rename_i hx
      refine .inr ⟨rfl, ?_⟩
      rintro ⟨b, y, other, ha, hy, -⟩
      cases hafter.symm.trans ha
      exact hx hy

theorem run_passes (hp : p.isPlain = true) (setting : Setting) :
    Runner.Leads (p.run setting) marks p.Takes := by
  induction p generalizing setting with
  | empty => exact fun a trail rest hrest ht => .of_rest hrest rfl ht
  | one set =>
    intro a trail rest hrest ht
    unfold run
    split
    · exact .failure ht
    · rename_i x after hafter
      split
      · rename_i hx
        exact .of_rest hrest ⟨x, after, hafter, hx, rfl⟩ ht
      · exact .failure ht
  | anchor condition =>
    intro a trail rest hrest ht
    unfold run
    split
    · rename_i hc
      exact .of_rest hrest ⟨hc, rfl⟩ ht
    · exact .failure ht
  | seq p q ihp ihq =>
    intro a trail rest hrest ht
    simp only [isPlain, Bool.and_eq_true] at hp
    have hq : ∀ place trail, trail.marks = marks →
        (q.run setting place trail rest).Passes marks (q.Takes place) rest :=
      fun place trail => ihq hp.2 setting place trail rest hrest
    refine (ihp hp.1 _ a trail _ (.of_passes hq) ht).trans fun b trail hb ht => ?_
    exact (hq b trail ht).mono fun c hc => ⟨b, hb, hc⟩
  | alt p q ihp ihq =>
    intro a trail rest hrest ht
    simp only [isPlain, Bool.and_eq_true] at hp
    have hfirst : ∀ inner trail, trail.marks = marks →
        (p.run inner a trail rest).Passes marks ((alt p q).Takes a) rest :=
      fun inner trail ht => (ihp hp.1 inner a trail rest hrest ht).mono fun b => .inl
    have hsecond : ∀ inner trail, trail.marks = marks →
        (q.run inner a trail rest).Passes marks ((alt p q).Takes a) rest :=
      fun inner trail ht => (ihq hp.2 inner a trail rest hrest ht).mono fun b => .inr
    refine Attempt.Passes.orElse (Setting.tryWay_passes (hfirst _) ht) fun left hl => ?_
    split
    · exact hsecond _ left hl
    · exact (Setting.tryWay_passes (hsecond _) hl).1
  | times mode low high p ih =>
    intro a trail rest hrest ht
    cases mode with
    | greedy =>
      simp only [isPlain, Bool.and_eq_true, Option.all_eq_true, decide_eq_true_eq] at hp
      unfold run
      split
      · rename_i set hset
        exact (Setting.runSingle_passes hrest ht).mono fun b hb => takes_times_of_stretches hset hb
      · exact Setting.runTimes_passes (ih hp.2 _) hrest hp.1 ht
    | reluctant | possessive => cases hp
  | look direction negated p ih =>
    intro a trail rest hrest ht
    match direction, p with
    | .ahead, .one set =>
      have hlook : ∀ trail, trail.marks = marks → (negated = true ↔ ¬∃ b, (one set).Takes a b) →
          (rest a trail).Passes marks ((look .ahead negated (.one set)).Takes a) rest :=
        fun trail ht hn => .of_rest hrest ⟨rfl, hn⟩ ht
      unfold run Setting.runLook
      rcases run_one_settle set a (trail.reach a) { setting with next := .other } with
        ⟨final, hrun, hmarks, hb⟩ | ⟨hrun, hb⟩
      · cases negated
        · simp only [hrun]
          exact hlook final (hmarks.trans ht) (by simp [hb])
        · simp only [hrun]
          exact .failure (hmarks.trans ht)
      · cases negated
        · simp only [hrun]
          exact .failure ht
        · simp only [hrun]
          have hback : setting.takeBack trail.marks trail.marks = trail.marks :=
            Setting.takeBack_of_prefix List.prefix_rfl
          exact hlook _ (hback.trans ht) (by simp [hb])
  | group | again | given | atomic => cases hp
  | _ =>
    rename_i ih
    exact ih hp setting

theorem exists_of_run {final : Trail} {setting : Setting} (hp : p.isPlain = true)
    (hrest : Rest.Keeps rest marks) (ht : trail.marks = marks)
    (h : p.run setting a trail rest = .success final) :
    ∃ b trail, p.Takes a b ∧ trail.marks = marks ∧ rest b trail = .success final := by
  have hpasses := run_passes hp setting a trail rest hrest ht
  rwa [h] at hpasses

-- ---------------------------------------------------------------------------
-- One group
-- ---------------------------------------------------------------------------

def parts? : Pattern → Option (Pattern × Pattern × Pattern)
  | .group 1 body => if body.isPlain then some (.empty, body, .empty) else none
  | .seq p q =>
    if p.isPlain then q.parts?.map fun (pre, body, post) => (.seq p pre, body, post)
    else if q.isPlain then p.parts?.map fun (pre, body, post) => (pre, body, .seq post q)
    else none
  | _ => none

variable {pre body post : Pattern} {final : Trail}

theorem exists_of_run_group {setting : Setting} (hb : body.isPlain = true)
    (hrest : ∀ marks, Rest.Keeps rest marks) (ht : trail.marks = [])
    (h : (group 1 body).run setting a trail rest = .success final) :
    ∃ b trail, body.Takes a b ∧ trail.marks = [some a.pos, some b.pos] ∧
      rest b trail = .success final := by
  -- The end of the group is marked behind its beginning, so what fails keeps the beginning.
  have hkeeps : Rest.Keeps (fun b trail =>
      rest b { trail with marks := trail.marks.closeGroup 1 b.pos }) [some a.pos] := by
    intro b trail left ht hf
    have hmarks : trail.marks.closeGroup 1 b.pos = [some a.pos] ++ [some b.pos] := by
      rw [ht]
      rfl
    exact (List.prefix_append _ _).trans (hrest _ _ _ left hmarks hf)
  have hopen : trail.marks.openGroup 1 a.pos = [some a.pos] := by
    rw [ht]
    rfl
  unfold run at h
  obtain ⟨b, trail, hbody, ht, hs⟩ := exists_of_run hb hkeeps hopen h
  refine ⟨b, _, hbody, ?_, hs⟩
  simp only [ht]
  rfl

theorem exists_of_run_parts {setting : Setting} (hp : p.parts? = some (pre, body, post))
    (hrest : ∀ marks, Rest.Keeps rest marks) (ht : trail.marks = [])
    (h : p.run setting a trail rest = .success final) :
    ∃ b c d trail, pre.Takes a b ∧ body.Takes b c ∧ post.Takes c d ∧
      trail.marks = [some b.pos, some c.pos] ∧ rest d trail = .success final := by
  induction p generalizing pre post a trail rest setting with
  | group index body ih =>
    match index with
    | 1 =>
      simp only [parts?, Option.ite_none_right_eq_some, Option.some.injEq, Prod.mk.injEq] at hp
      obtain ⟨hb, rfl, rfl, rfl⟩ := hp
      obtain ⟨b, trail, hbody, ht, hs⟩ := exists_of_run_group hb hrest ht h
      exact ⟨a, b, b, trail, rfl, hbody, rfl, ht, hs⟩
  | seq p q ihp ihq =>
    unfold run at h
    unfold parts? at hp
    split at hp
    · rename_i hplain
      obtain ⟨⟨pre, body, post⟩, hq, hparts⟩ := Option.map_eq_some_iff.mp hp
      cases hparts
      have hkeeps : Rest.Keeps (fun b trail => q.run setting b trail rest) [] :=
        fun _ _ _ _ _ => List.nil_prefix
      obtain ⟨next, trail, hnext, ht, hs⟩ := exists_of_run hplain hkeeps ht h
      obtain ⟨b, c, d, trail, hb, hmore⟩ := ihq hq hrest ht hs
      exact ⟨b, c, d, trail, ⟨next, hnext, hb⟩, hmore⟩
    · split at hp
      · rename_i hplain
        obtain ⟨⟨pre, body, post⟩, hgroup, hparts⟩ := Option.map_eq_some_iff.mp hp
        cases hparts
        have hkeeps : ∀ marks, Rest.Keeps (fun d trail => q.run setting d trail rest) marks :=
          fun marks => .of_passes fun d trail =>
            run_passes hplain setting d trail rest (hrest marks)
        obtain ⟨b, c, d, trail, hb, hc, hd, ht, hs⟩ := ihp hgroup hkeeps ht h
        obtain ⟨last, trail, hl, ht, hs⟩ := exists_of_run hplain (hrest _) ht hs
        exact ⟨b, c, last, trail, hb, hc, ⟨d, hd, hl⟩, ht, hs⟩
      · cases hp
  | _ => cases hp

end Pattern

end SolidityLint
