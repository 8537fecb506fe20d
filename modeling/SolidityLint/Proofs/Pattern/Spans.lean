import SolidityLint.Proofs.Pattern.Sound

/-!
# Where matches lie

Whatever way a match was looked for, it starts at a place of the text (`FoundIn`). What patterns
take then bounds the span of a match and the span of its group by the widths of the patterns
(`FoundIn.span_bounds`, `FoundIn.group_bounds`), and a character that the pattern needs stands in
the text (`FoundIn.mem_of_needs`).
-/

namespace SolidityLint

namespace Span

structure Fits (span : Span) (length : Nat) : Prop where
  start_lt : span.start < span.stop
  stop_le : span.stop ≤ length

theorem length_of {span : Span} {text : List Char} (h : span.stop ≤ text.length) :
    (span.of text).length = span.stop - span.start := by
  simp only [Span.of, Text.slice, List.length_take, List.length_drop]
  omega

theorem Fits.of_ne_nil {span : Span} {text : List Char} (h : span.Fits text.length) :
    span.of text ≠ [] := by
  have hl := length_of h.stop_le
  have := h.start_lt
  rintro he
  rw [he] at hl
  simp only [List.length_nil] at hl
  omega

end Span

namespace Pattern

variable {p pre body post : Pattern} {text : List Char} {found : Match} {span : Span} {a : Place}

-- ---------------------------------------------------------------------------
-- Matches at a place
-- ---------------------------------------------------------------------------

theorem matchAt?_eq_some (h : p.matchAt? a = some found) :
    ∃ trail, p.run {} a ⟨a, []⟩ settle = .success trail ∧
      found = ⟨⟨a.pos, trail.reached.pos⟩, trail.marks⟩ := by
  unfold matchAt? at h
  split at h
  · rename_i trail hrun
    exact ⟨trail, hrun, (Option.some.inj h).symm⟩
  · cases h

theorem takes_of_matchAt? (hp : p.isPlain = true) (h : p.matchAt? a = some found) :
    ∃ b, p.Takes a b ∧ found.span = ⟨a.pos, b.pos⟩ := by
  obtain ⟨final, hrun, rfl⟩ := matchAt?_eq_some h
  obtain ⟨b, trail, hb, -, hs⟩ := exists_of_run hp (settle_keeps []) rfl hrun
  cases hs
  exact ⟨b, hb, rfl⟩

theorem parts_of_matchAt? (hp : p.parts? = some (pre, body, post))
    (h : p.matchAt? a = some found) :
    ∃ b c d, pre.Takes a b ∧ body.Takes b c ∧ post.Takes c d ∧
      found.group? 1 = some ⟨b.pos, c.pos⟩ := by
  obtain ⟨final, hrun, rfl⟩ := matchAt?_eq_some h
  obtain ⟨b, c, d, trail, hb, hc, hd, ht, hs⟩ := exists_of_run_parts hp settle_keeps rfl hrun
  cases hs
  obtain ⟨read, hr, -⟩ := hc.reads
  have hle : b.pos ≤ c.pos := hr.pos ▸ Nat.le_add_right _ _
  refine ⟨b, c, d, hb, hc, hd, ?_⟩
  simp [Match.group?, Trail.reach, ht, Marks.group?, Marks.ends?, hle]

-- ---------------------------------------------------------------------------
-- Matches in a text
-- ---------------------------------------------------------------------------

def FoundIn (p : Pattern) (text : List Char) (found : Match) : Prop :=
  ∃ a, Place.In a text ∧ p.matchAt? a = some found

theorem foundIn_of_match? (h : p.match? text = some found) : p.FoundIn text found :=
  ⟨_, .of_start text, h⟩

theorem foundIn_of_searchFrom? {pos : Nat} {before after : List Char}
    (ha : Place.In ⟨pos, before, after⟩ text) (h : p.searchFrom? pos before after = some found) :
    p.FoundIn text found := by
  induction after generalizing pos before with
  | nil => exact ⟨_, ha, h⟩
  | cons x after ih =>
    unfold searchFrom? at h
    split at h
    · rename_i first hfirst
      exact ⟨_, ha, hfirst.trans h⟩
    · exact ih ((Place.Reads.step rfl).in ha) h

theorem foundIn_of_search? (h : p.search? text = some found) : p.FoundIn text found :=
  foundIn_of_searchFrom? (.of_start text) h

theorem foundIn_of_mem_findAllFrom {pos skip : Nat} {before after : List Char}
    (ha : Place.In ⟨pos, before, after⟩ text)
    (h : found ∈ p.findAllFrom pos before skip after) : p.FoundIn text found := by
  induction after generalizing pos before skip with
  | nil => cases h
  | cons x after ih =>
    have hnext : Place.In ⟨pos + 1, x :: before, after⟩ text := (Place.Reads.step rfl).in ha
    unfold findAllFrom at h
    split at h
    · exact ih hnext h
    · split at h
      · rename_i first hfirst
        rcases List.mem_cons.mp h with rfl | h
        · exact ⟨_, ha, hfirst⟩
        · exact ih hnext h
      · exact ih hnext h

theorem foundIn_of_mem_findAll (h : found ∈ p.findAll text) : p.FoundIn text found :=
  foundIn_of_mem_findAllFrom (.of_start text) h

theorem FoundIn.span_bounds (least : Nat) (h : p.FoundIn text found) (hp : p.isPlain = true)
    (hw : (p.width []).least = least) :
    found.span.start + least ≤ found.span.stop ∧ found.span.stop ≤ text.length := by
  obtain ⟨a, ha, hm⟩ := h
  obtain ⟨b, hb, hspan⟩ := takes_of_matchAt? hp hm
  obtain ⟨read, hr, hl⟩ := hb.reads
  have hpos := hr.pos
  have hle := (hr.in ha).pos_le
  rw [hspan]
  constructor
  · dsimp only
    omega
  · exact hle

/-- How many characters the group takes at least, and how many there are behind it at least. -/
def groupWidths? (p : Pattern) : Option (Nat × Nat) :=
  p.parts?.map fun (_, body, post) => ((body.width []).least, (post.width []).least)

theorem FoundIn.group_bounds {least behind : Nat} (h : p.FoundIn text found)
    (hp : p.groupWidths? = some (least, behind)) (hs : found.group? 1 = some span) :
    span.start + least ≤ span.stop ∧ span.stop + behind ≤ text.length := by
  obtain ⟨⟨pre, body, post⟩, hparts, hwidths⟩ := Option.map_eq_some_iff.mp hp
  cases hwidths
  obtain ⟨a, ha, hm⟩ := h
  obtain ⟨b, c, d, hb, hc, hd, hgroup⟩ := parts_of_matchAt? hparts hm
  cases hs.symm.trans hgroup
  obtain ⟨first, hfirst, -⟩ := hb.reads
  obtain ⟨read, hread, hl⟩ := hc.reads
  obtain ⟨last, hlast, hbehind⟩ := hd.reads
  have hpos := hread.pos
  have hlpos := hlast.pos
  have hle := (hlast.in (hread.in (hfirst.in ha))).pos_le
  constructor
  · dsimp only
    omega
  · dsimp only
    omega

theorem search?_group_bounds (least behind : Nat) (hp : p.groupWidths? = some (least, behind))
    (h : (p.search? text).bind (·.group? 1) = some span) :
    span.start + least ≤ span.stop ∧ span.stop + behind ≤ text.length := by
  obtain ⟨found, hfound, hs⟩ := Option.bind_eq_some_iff.mp h
  exact (foundIn_of_search? hfound).group_bounds hp hs

-- ---------------------------------------------------------------------------
-- Matches and groups that are never empty
-- ---------------------------------------------------------------------------

theorem search?_fits (hp : p.isPlain = true) (hw : 0 < (p.width []).least)
    (h : p.search? text = some found) : found.span.Fits text.length := by
  obtain ⟨hl, hs⟩ := (foundIn_of_search? h).span_bounds _ hp rfl
  exact ⟨by omega, hs⟩

theorem FoundIn.group_fits (h : p.FoundIn text found)
    (hp : p.groupWidths?.any (0 < ·.1) = true) (hs : found.group? 1 = some span) :
    span.Fits text.length := by
  obtain ⟨⟨least, behind⟩, hw, hpos⟩ := (Option.any_eq_true _ _).mp hp
  obtain ⟨hl, hb⟩ := h.group_bounds hw hs
  have hpos : 0 < least := by simpa using hpos
  exact ⟨by omega, by omega⟩

theorem search?_group_fits (hp : p.groupWidths?.any (0 < ·.1) = true)
    (h : (p.search? text).bind (·.group? 1) = some span) : span.Fits text.length := by
  obtain ⟨found, hfound, hs⟩ := Option.bind_eq_some_iff.mp h
  exact (foundIn_of_search? hfound).group_fits hp hs

theorem match?_group_fits (hp : p.groupWidths?.any (0 < ·.1) = true)
    (h : (p.match? text).bind (·.group? 1) = some span) : span.Fits text.length := by
  obtain ⟨found, hfound, hs⟩ := Option.bind_eq_some_iff.mp h
  exact (foundIn_of_match? hfound).group_fits hp hs

theorem findAll_group_fits (hp : p.groupWidths?.any (0 < ·.1) = true)
    (h : span ∈ (p.findAll text).filterMap (·.group? 1)) : span.Fits text.length := by
  obtain ⟨found, hfound, hs⟩ := List.mem_filterMap.mp h
  exact (foundIn_of_mem_findAll hfound).group_fits hp hs

-- ---------------------------------------------------------------------------
-- Characters that a match needs
-- ---------------------------------------------------------------------------

section
variable {b : Place} {c : Char}

def needs (c : Char) : Pattern → Bool
  | .one set => set = { items := [.char c] }
  | .seq p q => p.needs c || q.needs c
  | _ => false

theorem Takes.mem_of_needs (h : p.Takes a b) (hc : p.needs c = true) (ha : a.In text) :
    c ∈ text := by
  induction p generalizing a b with
  | one set =>
    obtain ⟨x, after, hafter, hx, rfl⟩ := h
    obtain rfl : set = { items := [.char c] } := of_decide_eq_true hc
    obtain rfl : x = c := by
      simpa [CharSet.contains, CharItem.char, CharItem.contains, Char.toNat_inj] using hx
    rw [← ha.text, Place.text, hafter]
    simp
  | seq p q ihp ihq =>
    obtain ⟨d, hp, hq⟩ := h
    rcases Bool.or_eq_true_iff.mp hc with hc | hc
    · exact ihp hp hc ha
    · obtain ⟨read, hr, -⟩ := hp.reads
      exact ihq hq hc (hr.in ha)
  | _ => cases hc

theorem FoundIn.mem_of_needs (h : p.FoundIn text found)
    (hp : (p.parts?.any fun parts => parts.1.needs c || parts.2.2.needs c) = true) : c ∈ text := by
  obtain ⟨⟨pre, body, post⟩, hparts, hc⟩ := (Option.any_eq_true _ _).mp hp
  obtain ⟨a, ha, hm⟩ := h
  obtain ⟨b, d, e, hb, hd, he, -⟩ := parts_of_matchAt? hparts hm
  obtain ⟨first, hfirst, -⟩ := hb.reads
  obtain ⟨second, hsecond, -⟩ := hd.reads
  rcases Bool.or_eq_true_iff.mp hc with hc | hc
  · exact hb.mem_of_needs hc ha
  · exact he.mem_of_needs hc (hsecond.in (hfirst.in ha))

end

end Pattern

end SolidityLint
