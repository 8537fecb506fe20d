import SolidityLint.Proofs.Text
import SolidityLint.Settings

/-!
# Written integers

Which texts stand for an integer, said without the reader: a sign, digits of any script and single
underscores, between blanks (`SpellsInteger`). Exactly these are read, and the decimal numeral of an
integer is one of them (`readInteger?_eq_some_iff`, `spellsInteger_toString`).
-/

namespace SolidityLint.Text

variable {text : List Char} {digits : List Nat} {negative : Bool} {c : Char}

-- ---------------------------------------------------------------------------
-- Words between blanks
-- ---------------------------------------------------------------------------

def IsBetweenBlanks (word text : List Char) : Prop :=
  ∃ before behind, (∀ c ∈ before, isBlank c = true) ∧ (∀ c ∈ behind, isBlank c = true) ∧
    text = before ++ word ++ behind

theorem trimStart_eq_self (h : ∀ c ∈ text, isBlank c = false) : trimStart text = text := by
  cases text with
  | nil => rfl
  | cons c rest => exact trimStart_of_not_isBlank (h c List.mem_cons_self)

theorem trimEnd_eq_self (h : ∀ c ∈ text, isBlank c = false) : trimEnd text = text := by
  have hreverse := trimStart_eq_self fun c hc => h c (List.mem_reverse.mp hc)
  rw [trimEnd, ← trimStart, hreverse, List.reverse_reverse]

theorem IsBetweenBlanks.trim_eq {word : List Char} (h : IsBetweenBlanks word text)
    (hword : ∀ c ∈ word, isBlank c = false) : trim text = word := by
  obtain ⟨before, behind, hbefore, hbehind, rfl⟩ := h
  rw [trim, List.append_assoc, trimStart_blank_append hbefore]
  cases word with
  | nil => exact congrArg trimEnd (trimStart_of_blank hbehind)
  | cons c rest =>
    rw [List.cons_append, trimStart_of_not_isBlank (hword c List.mem_cons_self), ← List.cons_append,
      trimEnd_append_of_blank _ hbehind, trimEnd_eq_self hword]

theorem isBetweenBlanks_trim (text : List Char) : IsBetweenBlanks (trim text) text :=
  exists_append_trim_append text

theorem IsBetweenBlanks.trans {inner word : List Char} (hinner : IsBetweenBlanks inner word)
    (h : IsBetweenBlanks word text) : IsBetweenBlanks inner text := by
  obtain ⟨start, last, hstart, hlast, rfl⟩ := hinner
  obtain ⟨before, behind, hbefore, hbehind, rfl⟩ := h
  exact ⟨before ++ start, last ++ behind, List.forall_mem_append.mpr ⟨hbefore, hstart⟩,
    List.forall_mem_append.mpr ⟨hlast, hbehind⟩, by simp only [List.append_assoc]⟩

-- Fewer characters may surround a number than are blank. None are left after trimming.

theorem isBlank_of_surroundsNumber (h : surroundsNumber c = true) : isBlank c = true :=
  (Bool.and_eq_true_iff.mp h).1

theorem isBetweenBlanks_trimNumber (text : List Char) : IsBetweenBlanks (trimNumber text) text := by
  refine ⟨text.takeWhile surroundsNumber,
    ((text.dropWhile surroundsNumber).reverse.takeWhile surroundsNumber).reverse,
    fun c hc => isBlank_of_surroundsNumber (List.mem_takeWhile_imp hc),
    fun c hc => isBlank_of_surroundsNumber (List.mem_takeWhile_imp (List.mem_reverse.mp hc)), ?_⟩
  rw [trimNumber, List.append_assoc, ← List.reverse_append, List.takeWhile_append_dropWhile,
    List.reverse_reverse, List.takeWhile_append_dropWhile]

theorem trimNumber_eq_self (h : ∀ c ∈ text, isBlank c = false) : trimNumber text = text := by
  obtain ⟨before, behind, hbefore, hbehind, htext⟩ := isBetweenBlanks_trimNumber text
  have hnil {gap : List Char} (hgap : ∀ c ∈ gap, isBlank c = true) (hsub : gap ⊆ text) :
      gap = [] :=
    List.eq_nil_iff_forall_not_mem.mpr fun c hc => by
      have hblank := hgap c hc
      rw [h c (hsub hc)] at hblank
      cases hblank
  have hbefore := hnil hbefore fun c hc => htext ▸ by simp [hc]
  have hbehind := hnil hbehind fun c hc => htext ▸ by simp [hc]
  rw [hbefore, hbehind, List.nil_append, List.append_nil] at htext
  exact htext.symm

-- ---------------------------------------------------------------------------
-- Digits
-- ---------------------------------------------------------------------------

/-- Digits with single underscores between them, and their values. -/
inductive WritesDigits : List Char → List Nat → Prop
  | last {c : Char} {d : Nat} : digit? c = some d → WritesDigits [c] [d]
  | digit {c : Char} {d : Nat} {rest : List Char} {digits : List Nat} :
      digit? c = some d → WritesDigits rest digits → WritesDigits (c :: rest) (d :: digits)
  | underscore {c : Char} {d : Nat} {rest : List Char} {digits : List Nat} :
      digit? c = some d → WritesDigits rest digits →
      WritesDigits (c :: '_' :: rest) (d :: digits)

theorem WritesDigits.exists_head (h : WritesDigits text digits) :
    ∃ c rest, text = c :: rest ∧ digit? c ≠ none := by
  cases h with
  | last hc => exact ⟨_, _, rfl, hc ▸ Option.some_ne_none _⟩
  | digit hc => exact ⟨_, _, rfl, hc ▸ Option.some_ne_none _⟩
  | underscore hc => exact ⟨_, _, rfl, hc ▸ Option.some_ne_none _⟩

theorem readDigits?_eq_some_iff :
    readDigits? digit? text = some digits ↔ WritesDigits text digits := by
  constructor
  · intro h
    fun_induction readDigits? digit? text generalizing digits with
    | case1 => cases h
    | case2 c =>
      obtain ⟨d, hd, rfl⟩ := Option.map_eq_some_iff.mp h
      exact .last hd
    | case3 c rest ih =>
      obtain ⟨d, hd, h⟩ := Option.bind_eq_some_iff.mp h
      obtain ⟨later, hlater, ⟨⟩⟩ := Option.bind_eq_some_iff.mp h
      exact .underscore hd (ih hlater)
    | case4 c rest _ _ ih =>
      obtain ⟨d, hd, h⟩ := Option.bind_eq_some_iff.mp h
      obtain ⟨later, hlater, ⟨⟩⟩ := Option.bind_eq_some_iff.mp h
      exact .digit hd (ih hlater)
  · intro h
    induction h with
    | last hc => rw [readDigits?, hc, Option.map_some]
    | underscore hc _ ih =>
      simp only [readDigits?, hc, ih, Option.bind_eq_bind, Option.bind_some, Option.pure_def]
    | digit hc hrest ih =>
      obtain ⟨first, rest, rfl, hfirst⟩ := hrest.exists_head
      have hne : first ≠ '_' := by
        rintro rfl
        exact hfirst (by decide)
      rw [readDigits?]
      · simp only [hc, ih, Option.bind_eq_bind, Option.bind_some, Option.pure_def]
      · exact List.cons_ne_nil _ _
      · intro _ h
        injection h with hhead
        exact hne hhead

theorem digit?_eq_none_of_isBlank (h : isBlank c = true) : digit? c = none := by
  have hall : (blankCodes.all fun code => (digit? (Char.ofNat code)).isNone) = true := by
    decide +kernel
  have hc := List.all_eq_true.mp hall _ (mem_blankCodes h)
  rwa [Char.ofNat_toNat, Option.isNone_iff_eq_none] at hc

theorem not_isBlank_of_digit? {d : Nat} (h : digit? c = some d) : isBlank c = false := by
  rw [← Bool.not_eq_true]
  intro hblank
  rw [digit?_eq_none_of_isBlank hblank] at h
  cases h

theorem WritesDigits.not_blank (h : WritesDigits text digits) : ∀ c ∈ text, isBlank c = false := by
  induction h with
  | last hc => exact List.forall_mem_singleton.mpr (not_isBlank_of_digit? hc)
  | digit hc _ ih => exact List.forall_mem_cons.mpr ⟨not_isBlank_of_digit? hc, ih⟩
  | underscore hc _ ih =>
    exact List.forall_mem_cons.mpr
      ⟨not_isBlank_of_digit? hc, List.forall_mem_cons.mpr ⟨by decide, ih⟩⟩

-- ---------------------------------------------------------------------------
-- Integers
-- ---------------------------------------------------------------------------

/-- A sign that may be left out, and whether it is a minus. -/
inductive WritesSign : List Char → Bool → Prop
  | none : WritesSign [] false
  | plus : WritesSign ['+'] false
  | minus : WritesSign ['-'] true

theorem WritesSign.not_blank (h : WritesSign text negative) : ∀ c ∈ text, isBlank c = false := by
  cases h with
  | none => exact List.forall_mem_nil _
  | plus => exact List.forall_mem_singleton.mpr (by decide)
  | minus => exact List.forall_mem_singleton.mpr (by decide)

theorem readSigned?_eq_some_iff :
    readSigned? digit? text = some (negative, digits) ↔
      ∃ sign body, text = sign ++ body ∧ WritesSign sign negative ∧ WritesDigits body digits := by
  have hmap {b : Bool} {body : List Char} :
      (readDigits? digit? body).map (b, ·) = some (negative, digits) ↔
        b = negative ∧ WritesDigits body digits := by
    rw [← readDigits?_eq_some_iff, Option.map_eq_some_iff]
    constructor
    · rintro ⟨found, hfound, ⟨⟩⟩
      exact ⟨rfl, hfound⟩
    · rintro ⟨rfl, h⟩
      exact ⟨digits, h, rfl⟩
  constructor
  · intro h
    unfold readSigned? at h
    split at h
    · obtain ⟨rfl, hbody⟩ := hmap.mp h
      exact ⟨['+'], _, rfl, .plus, hbody⟩
    · obtain ⟨rfl, hbody⟩ := hmap.mp h
      exact ⟨['-'], _, rfl, .minus, hbody⟩
    · obtain ⟨rfl, hbody⟩ := hmap.mp h
      exact ⟨[], _, rfl, .none, hbody⟩
  · rintro ⟨sign, body, rfl, hsign, hbody⟩
    cases hsign with
    | plus => exact hmap.mpr ⟨rfl, hbody⟩
    | minus => exact hmap.mpr ⟨rfl, hbody⟩
    | none =>
      obtain ⟨c, rest, rfl, hc⟩ := hbody.exists_head
      rw [List.nil_append, readSigned?]
      · exact hmap.mpr ⟨rfl, hbody⟩
      · rintro _ ⟨⟩
        exact hc (by decide)
      · rintro _ ⟨⟩
        exact hc (by decide)

def SpellsInteger (text : List Char) (n : Int) : Prop :=
  ∃ sign body negative digits, IsBetweenBlanks (sign ++ body) text ∧ WritesSign sign negative ∧
    WritesDigits body digits ∧ digits.length ≤ maxDigits ∧ signed negative (ofDigits digits) = n

theorem integer?_eq_some_iff {n : Int} : integer? text = some n ↔
    ∃ negative digits, readSigned? digit? (trimNumber text) = some (negative, digits) ∧
      digits.length ≤ maxDigits ∧ signed negative (ofDigits digits) = n := by
  rw [integer?, Option.bind_eq_bind, Option.bind_eq_some_iff]
  constructor
  · rintro ⟨⟨negative, digits⟩, hread, h⟩
    obtain ⟨hlength, hn⟩ := Option.ite_none_right_eq_some.mp h
    exact ⟨negative, digits, hread, hlength, Option.some.inj hn⟩
  · rintro ⟨negative, digits, hread, hlength, rfl⟩
    exact ⟨(negative, digits), hread, if_pos hlength⟩

theorem readInteger?_eq_some_iff {raw : String} {n : Int} :
    Environment.readInteger? raw = some n ↔ SpellsInteger raw.toList n := by
  rw [Environment.readInteger?, integer?_eq_some_iff]
  constructor
  · rintro ⟨negative, digits, hread, hlength, hn⟩
    obtain ⟨sign, body, htext, hsign, hbody⟩ := readSigned?_eq_some_iff.mp hread
    refine ⟨sign, body, negative, digits, ?_, hsign, hbody, hlength, hn⟩
    rw [← htext]
    exact (isBetweenBlanks_trimNumber _).trans (isBetweenBlanks_trim _)
  · rintro ⟨sign, body, negative, digits, hbetween, hsign, hbody, hlength, hn⟩
    have hword := List.forall_mem_append.mpr ⟨hsign.not_blank, hbody.not_blank⟩
    refine ⟨negative, digits, ?_, hlength, hn⟩
    rw [hbetween.trim_eq hword, trimNumber_eq_self hword]
    exact readSigned?_eq_some_iff.mpr ⟨sign, body, rfl, hsign, hbody⟩

-- ---------------------------------------------------------------------------
-- Decimal numerals
-- ---------------------------------------------------------------------------

theorem digit?_of_isDigit (h : c.isDigit = true) : digit? c = some (c.toNat - '0'.toNat) := by
  have hascii : c.toNat < 128 := by
    simp only [Char.isDigit, Bool.and_eq_true, decide_eq_true_eq] at h
    exact Nat.lt_of_le_of_lt (UInt32.le_iff_toNat_le.mp h.2) (by decide)
  rw [digit?, if_pos hascii, asciiDigit?, if_pos h]

theorem writesDigits_of_isDigit (hne : text ≠ []) (h : ∀ c ∈ text, c.isDigit = true) :
    WritesDigits text (text.map fun c => c.toNat - '0'.toNat) := by
  induction text with
  | nil => exact absurd rfl hne
  | cons c rest ih =>
    obtain ⟨hc, hrest⟩ := List.forall_mem_cons.mp h
    cases rest with
    | nil => exact .last (digit?_of_isDigit hc)
    | cons next rest => exact .digit (digit?_of_isDigit hc) (ih (List.cons_ne_nil _ _) hrest)

theorem exists_writesDigits_toDigits (n : Nat) :
    ∃ digits, WritesDigits (Nat.toDigits 10 n) digits ∧ ofDigits digits = n ∧
      digits.length = (Nat.toDigits 10 n).length := by
  refine ⟨_, writesDigits_of_isDigit Nat.toDigits_ne_nil fun c hc =>
    Nat.isDigit_of_mem_toDigits (by decide) (by decide) hc, ?_, List.length_map ..⟩
  rw [ofDigits, List.foldl_map, ← Nat.ofDigitChars_eq_foldl,
    Nat.ofDigitChars_toDigits (by decide) (by decide)]

theorem spellsInteger_toString {n : Int} (h : IsBetweenBlanks (toString n).toList text)
    (hlength : (Nat.toDigits 10 n.natAbs).length ≤ maxDigits) : SpellsInteger text n := by
  obtain ⟨digits, hdigits, hvalue, hcount⟩ := exists_writesDigits_toDigits n.natAbs
  rw [← hcount] at hlength
  cases n with
  | ofNat m =>
    have hnumeral : (toString (Int.ofNat m)).toList = [] ++ Nat.toDigits 10 m := Nat.toList_repr
    rw [hnumeral] at h
    exact ⟨[], _, false, digits, h, .none, hdigits, hlength, congrArg Int.ofNat hvalue⟩
  | negSucc m =>
    have hnumeral : (toString (Int.negSucc m)).toList = ['-'] ++ Nat.toDigits 10 (m + 1) := by
      rw [← Nat.toList_repr]
      exact String.toList_append
    rw [hnumeral] at h
    exact ⟨['-'], _, true, digits, h, .minus, hdigits, hlength,
      congrArg (fun value : Nat => -(value : Int)) hvalue⟩

end SolidityLint.Text
