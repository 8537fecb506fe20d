
import SolidityLint.Check.Returns
import SolidityLint.Proofs.Document
import SolidityLint.Proofs.Text

/-!
# Columns in bytes and in characters

Syntax trees count in bytes, so what they say is about the encoded text (`encode`), of which
stretches are read back (`decode`). A stretch may cut a character in two, and then the character is
left out on both sides. Slices of a text by byte offsets are read back from the bytes between them
(`byteSlice_eq_decode`), and byte columns are converted exactly (`pointOf_converts_columns`).
-/

namespace SolidityLint

namespace Text

-- ---------------------------------------------------------------------------
-- Bytes and characters
-- ---------------------------------------------------------------------------

def encode (text : List Char) : List UInt8 := text.flatMap String.utf8EncodeChar

/-- The character that starts with the first of some bytes. -/
def leadingChar? (bytes : List UInt8) : Option Char := bytes.toByteArray.utf8DecodeChar? 0

/-- The characters of some bytes, of which `skip` belong to a character that was met before. -/
def decodeFrom : Nat → List UInt8 → List Char
  | _, [] => []
  | skip + 1, _ :: bytes => decodeFrom skip bytes
  | 0, byte :: bytes => match leadingChar? (byte :: bytes) with
    | some c => c :: decodeFrom (c.utf8Size - 1) bytes
    | none => decodeFrom 0 bytes

/-- The characters of some bytes. Bytes that belong to no whole character are left out. -/
def decode (bytes : List UInt8) : List Char := decodeFrom 0 bytes

variable {c : Char} {front bytes : List UInt8} {text : List Char} {n : Nat}

theorem encode_cons (c : Char) (text : List Char) :
    encode (c :: text) = String.utf8EncodeChar c ++ encode text := rfl

theorem length_encode (text : List Char) : (encode text).length = byteLength text := by
  induction text with
  | nil => rfl
  | cons c text ih =>
    rw [encode_cons, List.length_append, String.length_utf8EncodeChar, ih, byteLength]

theorem leadingChar?_encode (c : Char) (bytes : List UInt8) :
    leadingChar? (String.utf8EncodeChar c ++ bytes) = some c := by
  rw [leadingChar?, List.toByteArray_append]
  exact ByteArray.utf8DecodeChar?_utf8EncodeChar_append

theorem leadingChar?_of_not_first {byte : UInt8} (h : ¬byte.IsUTF8FirstByte) :
    leadingChar? (byte :: bytes) = none := by
  cases hc : leadingChar? (byte :: bytes) with
  | none => rfl
  | some c =>
    have hfirst := ByteArray.isUTF8FirstByte_of_isSome_utf8DecodeChar? (Option.isSome_of_eq_some hc)
    refine absurd ?_ h
    simpa using hfirst

/-- No character starts with a part of another one. -/
theorem leadingChar?_take (h : n < c.utf8Size) :
    leadingChar? ((String.utf8EncodeChar c).take n) = none := by
  cases hc : leadingChar? ((String.utf8EncodeChar c).take n) with
  | none => rfl
  | some other =>
    have hwhole := ByteArray.utf8DecodeChar?_append_eq_some hc
      ((String.utf8EncodeChar c).drop n).toByteArray
    rw [← List.toByteArray_append, List.take_append_drop] at hwhole
    have hsame := leadingChar?_encode c []
    rw [List.append_nil, leadingChar?, hwhole] at hsame
    cases hsame
    have hsize := ByteArray.le_size_of_utf8DecodeChar?_eq_some hc
    simp only [List.size_toByteArray, List.length_take] at hsize
    omega

theorem decodeFrom_length (front bytes : List UInt8) :
    decodeFrom front.length (front ++ bytes) = decode bytes := by
  induction front with
  | nil => rfl
  | cons byte front ih => exact ih

theorem decode_char (c : Char) (bytes : List UInt8) :
    decode (String.utf8EncodeChar c ++ bytes) = c :: decode bytes := by
  have hlead := leadingChar?_encode c bytes
  have hlength := String.length_utf8EncodeChar c
  cases hc : String.utf8EncodeChar c with
  | nil => exact absurd hc String.utf8EncodeChar_ne_nil
  | cons byte more =>
    rw [hc] at hlead hlength
    have hmore : c.utf8Size - 1 = more.length := by
      rw [← hlength]
      rfl
    rw [List.cons_append] at hlead ⊢
    rw [decode, decodeFrom, hlead]
    simp only [hmore, decodeFrom_length]

theorem decode_of_not_first (h : ∀ byte ∈ front, ¬byte.IsUTF8FirstByte) (bytes : List UInt8) :
    decode (front ++ bytes) = decode bytes := by
  induction front with
  | nil => rfl
  | cons byte front ih =>
    obtain ⟨hbyte, hfront⟩ := List.forall_mem_cons.mp h
    rw [List.cons_append, decode, decodeFrom, leadingChar?_of_not_first hbyte]
    exact ih hfront

theorem not_first_of_mem_drop {byte : UInt8} (hn : 0 < n)
    (h : byte ∈ (String.utf8EncodeChar c).drop n) : ¬byte.IsUTF8FirstByte := by
  obtain ⟨i, hi, rfl⟩ := List.getElem_of_mem h
  rw [List.getElem_drop, UInt8.isUTF8FirstByte_getElem_utf8EncodeChar]
  omega

/-- Neither the first byte of a part of a character starts one, nor any other. -/
theorem decode_take (h : n < c.utf8Size) : decode ((String.utf8EncodeChar c).take n) = [] := by
  have hlead := leadingChar?_take h
  have hlater : ∀ byte ∈ ((String.utf8EncodeChar c).take n).drop 1, ¬byte.IsUTF8FirstByte := by
    intro byte hb
    rw [List.drop_take] at hb
    exact not_first_of_mem_drop Nat.one_pos (List.mem_of_mem_take hb)
  cases hpart : (String.utf8EncodeChar c).take n with
  | nil => rfl
  | cons byte more =>
    rw [hpart] at hlead hlater
    rw [decode, decodeFrom, hlead]
    have hmore := decode_of_not_first hlater []
    rwa [List.append_nil] at hmore

-- ---------------------------------------------------------------------------
-- Slices
-- ---------------------------------------------------------------------------

theorem decode_between (first last offset : Nat) (text : List Char) :
    decode (((encode text).drop (first - offset)).take (last - max first offset)) =
      charsBetween first last offset text := by
  induction text generalizing offset with
  | nil => simp [encode, charsBetween, decode, decodeFrom]
  | cons c text ih =>
    have hsize := String.length_utf8EncodeChar c
    have hpos := c.utf8Size_pos
    specialize ih (offset + c.utf8Size)
    rw [encode_cons, charsBetween]
    by_cases hfirst : first ≤ offset
    · rw [Nat.sub_eq_zero_of_le hfirst, List.drop_zero, Nat.max_eq_right hfirst]
      have hnext : first ≤ offset + c.utf8Size := Nat.le_add_right_of_le hfirst
      rw [Nat.sub_eq_zero_of_le hnext, List.drop_zero, Nat.max_eq_right hnext] at ih
      by_cases hlast : offset + c.utf8Size ≤ last
      · have hcond : (decide (first ≤ offset) && decide (offset + c.utf8Size ≤ last)) = true := by
          simp [hfirst, hlast]
        rw [if_pos hcond, List.take_append, List.take_of_length_le (by omega), decode_char, hsize,
          Nat.sub_sub, ih]
      · have hcond : ¬(decide (first ≤ offset) && decide (offset + c.utf8Size ≤ last)) = true := by
          simp [hlast]
        rw [if_neg hcond, List.take_append_of_le_length (by omega), decode_take (by omega), ← ih,
          Nat.sub_eq_zero_of_le (by omega)]
        rfl
    · have hcond : ¬(decide (first ≤ offset) && decide (offset + c.utf8Size ≤ last)) = true := by
        simp [hfirst]
      have hcut : ∀ byte ∈ ((String.utf8EncodeChar c).drop (first - offset)).take
          (last - max first offset), ¬byte.IsUTF8FirstByte :=
        fun byte hb => not_first_of_mem_drop (by omega) (List.mem_of_mem_take hb)
      rw [if_neg hcond, List.drop_append, List.take_append, decode_of_not_first hcut, ← ih, hsize,
        List.length_drop, hsize, Nat.sub_sub first]
      congr 2
      omega

theorem byteSlice_eq_decode (text : List Char) (first last : Nat) :
    byteSlice text (some first) (some last) =
      decode (((encode text).drop first).take (last - first)) := by
  have hlength := length_encode text
  have hbetween := decode_between (min first (byteLength text)) (min last (byteLength text)) 0 text
  rw [Nat.sub_zero, Nat.max_eq_left (Nat.zero_le _)] at hbetween
  have hclamp (n : Nat) : clampBound (byteLength text) n = min n (byteLength text) := by
    have hn : ¬(n : Int) < 0 := by omega
    rw [clampBound, if_neg hn, Int.toNat_natCast]
  simp only [byteSlice, Option.elim, hclamp]
  rw [← hbetween]
  by_cases hle : first ≤ byteLength text
  · rw [Nat.min_eq_left hle]
    congr 1
    rw [List.take_eq_take_iff, List.length_drop]
    omega
  · rw [List.drop_eq_nil_of_le (by omega), List.drop_eq_nil_of_le (by omega), List.take_nil,
      List.take_nil]

theorem charsBetween_of_lt {first last offset : Nat} (h : last < offset) (text : List Char) :
    charsBetween first last offset text = [] := by
  have hbetween := decode_between first last offset text
  rw [Nat.sub_eq_zero_of_le (by omega), List.take_zero] at hbetween
  exact hbetween.symm

theorem exists_charsBetween_zero {last offset : Nat} (h : offset ≤ last) (text : List Char) :
    ∃ front back, text = front ++ back ∧ charsBetween 0 last offset text = front ∧
      offset + byteLength front ≤ last ∧
      ∀ c ∈ back.head?, last < offset + byteLength front + c.utf8Size := by
  induction text generalizing offset with
  | nil => exact ⟨[], [], rfl, rfl, h, by simp⟩
  | cons c text ih =>
    rw [charsBetween]
    by_cases hlast : offset + c.utf8Size ≤ last
    · obtain ⟨front, back, rfl, hfront, hfits, hnext⟩ := ih hlast
      refine ⟨c :: front, back, rfl, ?_, ?_, fun d hd => ?_⟩
      · simp [hlast, hfront]
      · rw [byteLength]
        omega
      · have := hnext d hd
        rw [byteLength]
        omega
    · refine ⟨[], c :: text, rfl, ?_, h, ?_⟩
      · simp [hlast, charsBetween_of_lt (Nat.lt_of_not_le hlast)]
      · intro d hd
        cases hd
        rw [byteLength]
        omega

theorem byteSlice_none (row : List Char) (byte : Nat) :
    byteSlice row none (some byte) = decode ((encode row).take byte) := by
  have hzero : byteSlice row none (some byte) = byteSlice row (some 0) (some byte) := by
    simp [byteSlice, clampBound]
  rw [hzero]
  exact byteSlice_eq_decode row 0 byte

theorem byteLength_append (front back : List Char) :
    byteLength (front ++ back) = byteLength front + byteLength back := by
  rw [← length_encode, encode, List.flatMap_append, List.length_append]
  exact congrArg₂ _ (length_encode front) (length_encode back)

/-- How many characters of a row are before a byte column: as many as are whole before it. -/
theorem charsBefore_greatest (row : List Char) (byte : Nat) :
    charsBefore row (some byte) ≤ row.length ∧
      (encode (row.take (charsBefore row (some byte)))).length ≤ byte ∧
      ∀ column ≤ row.length, (encode (row.take column)).length ≤ byte →
        column ≤ charsBefore row (some byte) := by
  obtain ⟨front, back, hrow, hfront, hfits, hnext⟩ := exists_charsBetween_zero byte.zero_le row
  have hbefore : charsBefore row (some byte) = front.length := by
    rw [charsBefore, byteSlice_none, ← hfront]
    exact congrArg List.length (decode_between 0 byte 0 row)
  subst hrow
  rw [hbefore, List.take_left, length_encode]
  refine ⟨by simp, by omega, fun column hcolumn hbytes => Nat.le_of_not_lt fun hlt => ?_⟩
  -- one more character would end behind the byte column
  cases back with
  | nil =>
    rw [List.append_nil] at hcolumn
    omega
  | cons c back =>
    have hmore := hnext c rfl
    obtain ⟨more, rfl⟩ := Nat.exists_eq_add_of_lt hlt
    rw [length_encode, Nat.add_assoc, List.take_length_add_append, List.take_succ_cons,
      byteLength_append, byteLength] at hbytes
    omega

theorem byteLength_take_lt {row : List Char} {few many : Nat} (h : few < many)
    (hm : many ≤ row.length) : byteLength (row.take few) < byteLength (row.take many) := by
  obtain ⟨more, rfl⟩ := Nat.exists_eq_add_of_lt h
  obtain ⟨c, rest, hrest⟩ : ∃ c rest, row.drop few = c :: rest :=
    List.exists_cons_of_length_pos (by rw [List.length_drop]; omega)
  have hpos := c.utf8Size_pos
  rw [Nat.add_assoc, List.take_add, hrest, List.take_succ_cons, byteLength_append, byteLength]
  omega

theorem charsBefore_take {row : List Char} {column : Nat} (h : column ≤ row.length) :
    charsBefore row (some (encode (row.take column)).length) = column := by
  obtain ⟨hle, hfits, hgreatest⟩ := charsBefore_greatest row (encode (row.take column)).length
  refine Nat.le_antisymm (Nat.le_of_not_lt fun hlt => ?_) (hgreatest column h (Nat.le_refl _))
  have hmore := byteLength_take_lt hlt hle
  rw [← length_encode, ← length_encode] at hmore
  omega

-- ---------------------------------------------------------------------------
-- Rows
-- ---------------------------------------------------------------------------

theorem rows_cons (c : Char) (text : List Char) :
    rows (c :: text) =
      if c = '\n' then [] :: rows text else (rows text).modifyHead (c :: ·) := by
  simp only [rows, splitBy, beq_iff_eq]
  split
  · rfl
  · cases h : splitBy (· == '\n') text with
    | nil => exact absurd h (splitBy_ne_nil _ text)
    | cons part parts => rfl

theorem feed_not_mem_encode (h : c ≠ '\n') : 10 ∉ String.utf8EncodeChar c := by
  have hc : c.val.toNat ≠ 10 := fun he => h (Char.ext (UInt32.toNat_inj.mp he))
  have hne (n : Nat) (hn : n < 256) (h10 : n ≠ 10) : (10 : UInt8) ≠ UInt8.ofNat n := by
    intro he
    have hvalue := congrArg UInt8.toNat he
    rw [UInt8.toNat_ofNat', Nat.mod_eq_of_lt hn] at hvalue
    exact h10 hvalue.symm
  rw [String.utf8EncodeChar]
  split
  · simpa using hne _ (by omega) hc
  · split
    · simp only [List.mem_cons, List.not_mem_nil, or_false, not_or]
      exact ⟨hne _ (by omega) (by omega), hne _ (by omega) (by omega)⟩
    · split
      · simp only [List.mem_cons, List.not_mem_nil, or_false, not_or]
        exact ⟨hne _ (by omega) (by omega), hne _ (by omega) (by omega),
          hne _ (by omega) (by omega)⟩
      · simp only [List.mem_cons, List.not_mem_nil, or_false, not_or]
        exact ⟨hne _ (by omega) (by omega), hne _ (by omega) (by omega),
          hne _ (by omega) (by omega), hne _ (by omega) (by omega)⟩

theorem splitOn_append_of_not_mem {sep : UInt8} (h : sep ∉ front) (bytes : List UInt8) :
    (front ++ bytes).splitOn sep = (bytes.splitOn sep).modifyHead (front ++ ·) := by
  induction front with
  | nil => exact (congrFun List.modifyHead_id _).symm
  | cons byte front ih =>
    simp only [List.mem_cons, not_or] at h
    have hb : (byte == sep) = false := by simpa using Ne.symm h.1
    rw [List.cons_append, List.splitOn_cons_eq_if_modifyHead, hb, ih h.2,
      List.modifyHead_modifyHead]
    rfl

/-- No character but the line feed holds the byte of a line feed. -/
theorem splitOn_encode (text : List Char) :
    (encode text).splitOn 10 = (rows text).map encode := by
  induction text with
  | nil => rfl
  | cons c text ih =>
    rw [rows_cons, encode_cons]
    split
    · rename_i hc
      subst hc
      have hfeed : String.utf8EncodeChar '\n' ++ encode text = 10 :: encode text := rfl
      rw [hfeed, List.splitOn_cons_eq_if_modifyHead, ih]
      rfl
    · rename_i hc
      rw [splitOn_append_of_not_mem (feed_not_mem_encode hc), ih]
      cases rows text with
      | nil => rfl
      | cons row more => rfl

end Text

open Text

-- ---------------------------------------------------------------------------
-- Points
-- ---------------------------------------------------------------------------

variable {text : List Char}

/-- Lines and rows end with the same line feeds, but a carriage return before one is part of the
row. -/
theorem exists_rows_getElem? {k : Nat} {line : Line} (h : (splitLines text)[k]? = some line) :
    ∃ stop, (rows text)[k]? = some (line ++ stop) := by
  fun_induction splitLines text generalizing k line with
  | case1 =>
    cases k with
    | zero =>
      cases h
      exact ⟨[], rfl⟩
    | succ k => cases h
  | case2 rest ih =>
    rw [rows_cons, if_pos rfl]
    cases k with
    | zero =>
      cases h
      exact ⟨[], rfl⟩
    | succ k => exact ih h
  | case3 rest ih =>
    rw [rows_cons, if_neg (by decide), rows_cons, if_pos rfl]
    cases k with
    | zero =>
      cases h
      exact ⟨['\r'], rfl⟩
    | succ k => exact ih h
  | case4 x rest hx _ hrest => exact absurd hrest (splitLines_ne_nil rest)
  | case5 x rest hx _ first more hrest ih =>
    rw [rows_cons, if_neg hx, List.getElem?_modifyHead]
    cases k with
    | zero =>
      cases h
      obtain ⟨stop, hstop⟩ := ih (hrest ▸ rfl : (splitLines rest)[0]? = some first)
      exact ⟨stop, by rw [if_pos rfl, hstop]; rfl⟩
    | succ k =>
      obtain ⟨stop, hstop⟩ := ih (hrest ▸ h : (splitLines rest)[k + 1]? = some line)
      exact ⟨stop, by rw [if_neg k.succ_ne_zero]; exact hstop⟩

namespace Check

theorem pointOf_of_row {row : Nat} {line : List Char} (h : (rows text)[row]? = some line)
    (byte : Nat) :
    pointOf text (.int row) (.int byte) = .ok (.int row, .int (charsBefore line (some byte))) := by
  obtain ⟨hlt, -⟩ := List.getElem?_eq_some_iff.mp h
  have hrow : (Number.int row).isAtLeast (rows text).length = false := by
    simp only [Number.isAtLeast, decide_eq_false_iff_not]
    omega
  have hposition := position?_of_lt hlt
  simp [pointOf, columnOf, Value.number?, Value.index?, hrow, columnOfByte, SyntaxNode.bound,
    hposition, h, bind, Except.bind, pure, Except.pure]

end Check

/-- For every row and byte column the column is that of the bytes of the row up to the byte column:
the greatest one before which there are not more bytes. The columns of a line, counted in bytes, are
given back as they are. -/
theorem pointOf_converts_columns (text : List Char) :
    (∀ (row : Nat) (line : List Char), (rows text)[row]? = some line → ∀ byte : Nat,
      ∃ column : Nat,
        Check.pointOf text (.int row) (.int byte) = .ok (.int row, .int column) ∧
        (∃ bytes, ((encode text).splitOn 10)[row]? = some bytes ∧
          column = (decode (bytes.take byte)).length) ∧
        column ≤ line.length ∧ (encode (line.take column)).length ≤ byte ∧
        ∀ other ≤ line.length, (encode (line.take other)).length ≤ byte → other ≤ column) ∧
    ∀ (row : Nat) (line : Line), (splitLines text)[row]? = some line →
      ∀ column ≤ line.length,
        Check.pointOf text (.int row) (.int (encode (line.take column)).length) =
          .ok (.int row, .int column) := by
  constructor
  · intro row line hrow byte
    obtain ⟨hle, hfits, hgreatest⟩ := charsBefore_greatest line byte
    refine ⟨_, Check.pointOf_of_row hrow byte, ⟨encode line, ?_, ?_⟩, hle, hfits, hgreatest⟩
    · rw [splitOn_encode, List.getElem?_map, hrow]
      rfl
    · rw [charsBefore, byteSlice_none]
  · intro row line hline column hcolumn
    obtain ⟨stop, hrow⟩ := exists_rows_getElem? hline
    have htake : line.take column = (line ++ stop).take column :=
      (List.take_append_of_le_length hcolumn).symm
    have hle : column ≤ (line ++ stop).length := by
      rw [List.length_append]
      exact Nat.le_add_right_of_le hcolumn
    rw [Check.pointOf_of_row hrow, htake, charsBefore_take hle]

/-- A byte column in the middle of a character, and the end of a line before a carriage return. -/
theorem pointOf_converts_columns_beside_return :
    let text := "xé\r\n😀y".toList
    (rows text)[1]? = some "😀y".toList ∧
      Check.pointOf text (.int 1) (.int 3) = .ok (.int 1, .int 0) ∧
      (splitLines text)[0]? = some "xé".toList ∧
      Check.pointOf text (.int 0) (.int 3) = .ok (.int 0, .int 2) := by
  intro text
  have hrow : (rows text)[1]? = some "😀y".toList := by decide
  have hline : (splitLines text)[0]? = some "xé".toList := by decide
  obtain ⟨hrows, hlines⟩ := pointOf_converts_columns text
  obtain ⟨column, hcolumn, -, hle, hfits, -⟩ := hrows 1 _ hrow 3
  have hzero : column = 0 := by
    have hmany : ∀ n ≤ 2, 0 < n → ¬(encode ("😀y".toList.take n)).length ≤ 3 := by decide
    exact Nat.eq_zero_of_not_pos fun hpos => hmany column hle hpos hfits
  subst hzero
  refine ⟨hrow, hcolumn, hline, ?_⟩
  exact hlines 0 _ hline 2 (by decide)

end SolidityLint
