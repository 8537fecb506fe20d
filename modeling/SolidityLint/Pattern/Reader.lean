import SolidityLint.Pattern.Expression
import SolidityLint.Pattern.Part
import SolidityLint.Text.CharacterName
import SolidityLint.Text.GroupName
import SolidityLint.Text.Integer

/-!
# Patterns in text

The written form of patterns. Text is first cut into symbols, a character or a character behind a
backslash, and then read symbol by symbol with a stack of the groups that are still open. A pattern
that breaks the rules is `malformed`; five faults stand apart, because they are not answered by
ignoring the pattern. Of several faults the first one in reading order counts, and a look behind
that is too wide counts last.

Readers go down into groups within groups, and how deep they come is a matter of the stack that they
run on. Which patterns still fit on it is therefore a parameter of reading, of which nothing is
assumed (`Expression.read`).
-/

namespace SolidityLint

open Text

inductive PatternFault
  | malformed
  /-- A repeat count that no repeat can reach. -/
  | countTooLarge
  /-- A repeat count with more digits than are ever read. -/
  | countTooLong (digits : Nat)
  /-- ASCII and Unicode classes asked for at once. -/
  | clashingFlags
  /-- A look behind that goes back further than any text. -/
  | lookTooWide
  /-- Groups within groups that go deeper than the reader can follow. -/
  | tooDeep
  deriving DecidableEq, Repr

def PatternFault.message : PatternFault → String
  | .malformed => "malformed pattern"
  | .countTooLarge => "the repetition number is too large"
  | .countTooLong digits =>
    s!"Exceeds the limit (4300 digits) for integer string conversion: value has {digits} digits" ++
      "; use sys.set_int_max_str_digits() to increase the limit"
  | .clashingFlags => "ASCII and UNICODE flags are incompatible"
  | .lookTooWide => "invalid SRE code"
  | .tooDeep => "maximum recursion depth exceeded"

namespace PatternReader

inductive Symbol
  | plain (c : Char)
  | escaped (c : Char)
  /-- A backslash at the end of the text. -/
  | dangling
  deriving DecidableEq, Repr

def symbols : List Char → List Symbol
  | [] => []
  | ['\\'] => [.dangling]
  | '\\' :: c :: rest => .escaped c :: symbols rest
  | c :: rest => .plain c :: symbols rest

def Symbol.text : Symbol → List Char
  | .plain c => [c]
  | .escaped c => ['\\', c]
  | .dangling => ['\\']

structure Flags where
  ignoreCase : Bool := false
  multiLine : Bool := false
  dotAll : Bool := false
  verbose : Bool := false
  ascii : Bool := false
  deriving DecidableEq, Repr

def Flags.switch (flags : Flags) (on off : List Char) : Flags where
  ignoreCase := (flags.ignoreCase || on.contains 'i') && !off.contains 'i'
  multiLine := (flags.multiLine || on.contains 'm') && !off.contains 'm'
  dotAll := (flags.dotAll || on.contains 's') && !off.contains 's'
  verbose := (flags.verbose || on.contains 'x') && !off.contains 'x'
  ascii := (flags.ascii || on.contains 'a') && !on.contains 'u'

/-- What was read last of a sequence. Anchors and repeats cannot be repeated. -/
inductive Piece
  | single (part : Part) (repeatable : Bool)
  /-- A group that only holds its parts together. -/
  | block (parts : List Part)

def Piece.of (pattern : Pattern) : Piece := .single ⟨pattern, none⟩ true

def Piece.parts : Piece → List Part
  | .single part _ => [part]
  | .block parts => parts

inductive Opener
  | capture (index : Nat)
  | plain
  | flagged
  | atomic
  | lookAhead (negated : Bool)
  /-- With the number of groups that the surrounding look behind may refer to. -/
  | lookBehind (negated : Bool) (outer : Option Nat)
  | given (index : Nat)

/-- An open group and what was read before it: alternatives and pieces, latest first. -/
structure Frame where
  opener : Opener
  flags : Flags
  alternatives : List (List Part)
  pieces : List Piece

structure Reader where
  frames : List Frame := []
  flags : Flags := {}
  alternatives : List (List Part) := []
  pieces : List Piece := []
  /-- The index of the next group. -/
  nextGroup : Nat := 1
  names : List (List Char × Nat) := []
  /-- The widths of complete groups. -/
  widths : List (Nat × Width) := []
  /-- Inside a look behind only groups with a smaller index can be referred to. -/
  referable : Option Nat := none
  conditions : List Nat := []
  unevenLookBehind : Bool := false
  wideLookBehind : Bool := false
  asksAscii : Bool := false
  asksUnicode : Bool := false
  template : Bool := false
  repeats : Bool := false

abbrev Read := Except PatternFault

def malformed {α : Type} : Read α := .error .malformed

def Reader.parts (reader : Reader) : List Part :=
  reader.pieces.reverse.flatMap Piece.parts

def Reader.body (reader : Reader) : List Part :=
  Part.alternatives (reader.parts :: reader.alternatives).reverse

def Reader.push (reader : Reader) (piece : Piece) : Reader :=
  { reader with pieces := piece :: reader.pieces }

def Flags.set (flags : Flags) (items : List CharItem) (negated : Bool) : Piece :=
  .of (.one { items, negated, ignoreCase := flags.ignoreCase, ascii := flags.ascii })

def Flags.code (flags : Flags) (code : Nat) : Piece :=
  flags.set [.code code] false

/-! ## Escapes -/

def hexDigit? (c : Char) : Option Nat :=
  if c.isDigit then some (c.toNat - 48)
  else if 'a' ≤ c && c ≤ 'f' then some (c.toNat - 87)
  else if 'A' ≤ c && c ≤ 'F' then some (c.toNat - 55)
  else none

def octalDigit? (c : Char) : Option Nat :=
  if '0' ≤ c && c ≤ '7' then some (c.toNat - 48) else none

def readDigits (base : Nat) (digit? : Char → Option Nat) :
    Nat → Nat → List Symbol → Nat × Nat × List Symbol
  | 0, value, rest => (value, 0, rest)
  | _ + 1, value, [] => (value, 0, [])
  | count + 1, value, symbol :: rest =>
    match symbol with
    | .plain c => match digit? c with
      | some digit =>
        let (value, read, rest) := readDigits base digit? count (base * value + digit) rest
        (value, read + 1, rest)
      | none => (value, 0, symbol :: rest)
    | _ => (value, 0, symbol :: rest)

def readHex (count : Nat) (rest : List Symbol) : Read (Nat × List Symbol) :=
  let (value, read, rest) := readDigits 16 hexDigit? count 0 rest
  if read = count then .ok (value, rest) else malformed

/-- The text before a closing mark, which must not be empty, and the input behind the mark. -/
def readUntil (mark : Char) : List Symbol → Read (List Char × List Symbol)
  | [] => malformed
  | symbol :: rest =>
    if symbol = .plain mark then .ok ([], rest)
    else do
      let (text, rest) ← readUntil mark rest
      return (symbol.text ++ text, rest)

def readNonEmpty (mark : Char) (rest : List Symbol) : Read (List Char × List Symbol) := do
  let (text, rest) ← readUntil mark rest
  if text.isEmpty then malformed else return (text, rest)

def readNamed : List Symbol → Read (Nat × List Symbol)
  | .plain '{' :: rest => do
    let (name, rest) ← readNonEmpty '}' rest
    match characterNamed? name with
    | some code => return (code, rest)
    | none => malformed
  | _ => malformed

def controlCode? : Char → Option Nat
  | 'a' => some 7
  | 'b' => some 8
  | 'f' => some 12
  | 'n' => some 10
  | 'r' => some 13
  | 't' => some 9
  | 'v' => some 11
  | '\\' => some 92
  | _ => none

def classItem? : Char → Option CharItem
  | 'd' => some (.inClass .digit)
  | 'D' => some (.outOfClass .digit)
  | 's' => some (.inClass .blank)
  | 'S' => some (.outOfClass .blank)
  | 'w' => some (.inClass .word)
  | 'W' => some (.outOfClass .word)
  | _ => none

/-- Escapes by code point, the same inside and outside of sets. Letters that have no meaning are
refused, all else stands for itself. -/
def readCodeEscape (c : Char) (rest : List Symbol) : Read (Nat × List Symbol) :=
  if c == 'x' then readHex 2 rest
  else if c == 'u' then readHex 4 rest
  else if c == 'U' then do
    let (code, rest) ← readHex 8 rest
    if code < 0x110000 then return (code, rest) else malformed
  else if c == 'N' then readNamed rest
  else if c.isAlpha || c.isDigit then malformed
  else .ok (c.toNat, rest)

def maxOctal : Nat := 255

def readSetEscape (c : Char) (rest : List Symbol) : Read ((Nat ⊕ CharItem) × List Symbol) :=
  match controlCode? c, classItem? c, octalDigit? c with
  | some code, _, _ => .ok (.inl code, rest)
  | none, some item, _ => .ok (.inr item, rest)
  | none, none, some digit =>
    let (code, _, rest) := readDigits 8 octalDigit? 2 digit rest
    if code ≤ maxOctal then .ok (.inl code, rest) else malformed
  | none, none, none => do
    let (code, rest) ← readCodeEscape c rest
    return (.inl code, rest)

/-- A group can be referred to once it is complete. -/
def Reader.isComplete (reader : Reader) (index : Nat) : Bool :=
  (reader.widths.lookup index).isSome

def Reader.mayRefer (reader : Reader) (index : Nat) : Bool :=
  match reader.referable with
  | none => true
  | some bound => reader.isComplete index && index < bound

def Reader.refer (reader : Reader) (index : Nat) : Read Piece :=
  if reader.isComplete index && reader.mayRefer index then
    .ok (.of (.again index reader.flags.ignoreCase reader.flags.ascii))
  else malformed

/-- A nonzero digit behind a backslash: three octal digits are a code point, else one or two
digits refer to a group. -/
def Reader.readDigitEscape (reader : Reader) (c : Char) (rest : List Symbol) :
    Read (Piece × List Symbol) := do
  let first := c.toNat - 48
  match rest with
  | .plain d :: rest =>
    if d.isDigit then
      match octalDigit? c, octalDigit? d, rest with
      | some high, some middle, .plain e :: more =>
        match octalDigit? e with
        | some low =>
          let code := 64 * high + 8 * middle + low
          if code ≤ maxOctal then return (reader.flags.code code, more) else malformed
        | none => return (← reader.refer (10 * first + (d.toNat - 48)), rest)
      | _, _, _ => return (← reader.refer (10 * first + (d.toNat - 48)), rest)
    else return (← reader.refer first, .plain d :: rest)
  | _ => return (← reader.refer first, rest)

def Reader.anchorEscape? (reader : Reader) : Char → Option Anchor
  | 'A' => some .textStart
  | 'Z' => some .textEnd
  | 'b' => some (.wordBoundary reader.flags.ascii)
  | 'B' => some (.notWordBoundary reader.flags.ascii)
  | _ => none

def Reader.readEscape (reader : Reader) (c : Char) (rest : List Symbol) :
    Read (Piece × List Symbol) :=
  match reader.anchorEscape? c, classItem? c, controlCode? c with
  | some anchor, _, _ => .ok (.single ⟨.anchor anchor, none⟩ false, rest)
  | none, some item, _ => .ok (reader.flags.set [item] false, rest)
  | none, none, some code => .ok (reader.flags.code code, rest)
  | none, none, none =>
    if c == '0' then
      let (code, _, rest) := readDigits 8 octalDigit? 2 0 rest
      .ok (reader.flags.code code, rest)
    else if c.isDigit then reader.readDigitEscape c rest
    else do
      let (code, rest) ← readCodeEscape c rest
      return (reader.flags.code code, rest)

/-! ## Sets -/

def readSetMember : Symbol → List Symbol → Read ((Nat ⊕ CharItem) × List Symbol)
  | .plain c, rest => .ok (.inl c.toNat, rest)
  | .escaped c, rest => readSetEscape c rest
  | .dangling, _ => malformed

def itemOfMember : Nat ⊕ CharItem → CharItem
  | .inl code => .code code
  | .inr item => item

/-- The members of a set up to its closing bracket, latest first. A bracket that comes first is a
member. A hyphen makes a range unless it is the last member. -/
def readSet : Nat → List CharItem → List Symbol → Read (List CharItem × List Symbol)
  | 0, _, _ => malformed
  | _ + 1, _, [] => malformed
  | fuel + 1, items, symbol :: rest =>
    if symbol = .plain ']' && !items.isEmpty then .ok (items, rest)
    else do
      let (member, rest) ← readSetMember symbol rest
      match rest with
      | .plain '-' :: [] => malformed
      | .plain '-' :: .plain ']' :: rest => .ok (.char '-' :: itemOfMember member :: items, rest)
      | .plain '-' :: symbol :: rest =>
        let (last, rest) ← readSetMember symbol rest
        match member, last with
        | .inl first, .inl last =>
          if last < first then malformed else readSet fuel (.range first last :: items) rest
        | _, _ => malformed
      | rest => readSet fuel (itemOfMember member :: items) rest

/-! ## Repeats -/

def countLimit : Nat := 4294967295

def readCount (digits : List Char) : Read Nat :=
  if digits.length ≤ maxDigits then
    let count := ofDigits (digits.filterMap asciiDigit?)
    if count < countLimit then .ok count else .error .countTooLarge
  else .error (.countTooLong digits.length)

def takeDigits : List Symbol → List Char × List Symbol
  | .plain c :: rest =>
    if c.isDigit then
      let (digits, rest) := takeDigits rest
      (c :: digits, rest)
    else ([], .plain c :: rest)
  | rest => ([], rest)

/-- The two counts of a braced repeat behind its opening brace; a single count stands for both.
Without a closing brace, or with nothing between the braces, it is no repeat. -/
def bracedCounts? (rest : List Symbol) : Option (List Char × List Char × List Symbol) :=
  match rest with
  | .plain '}' :: _ => none
  | _ =>
    let (low, rest) := takeDigits rest
    let (high, rest) := match rest with
      | .plain ',' :: rest => takeDigits rest
      | _ => (low, rest)
    match rest with
    | .plain '}' :: rest => some (low, high, rest)
    | _ => none

def readBounds (low high : List Char) : Read (Nat × Option Nat) := do
  let least ← if low.isEmpty then pure 0 else readCount low
  if high.isEmpty then return (least, none)
  let most ← readCount high
  if most < least then malformed else return (least, some most)

def repeatMode : List Symbol → RepeatMode × List Symbol
  | .plain '?' :: rest => (.reluctant, rest)
  | .plain '+' :: rest => (.possessive, rest)
  | rest => (.greedy, rest)

def Reader.repeatLast (reader : Reader) (low : Nat) (high : Option Nat) (rest : List Symbol) :
    Read (Reader × List Symbol) :=
  match reader.pieces with
  | [] | .single _ false :: _ => malformed
  | piece :: pieces =>
    let (mode, rest) := repeatMode rest
    let repeated := .single ⟨.times mode low high (Part.sequence piece.parts), none⟩ false
    .ok ({ reader with pieces := repeated :: pieces, repeats := true }, rest)

def Reader.readBraces (reader : Reader) (rest : List Symbol) : Read (Reader × List Symbol) :=
  match bracedCounts? rest with
  | none => .ok (reader.push (reader.flags.code 123), rest)
  | some (_, _, [.dangling]) => malformed
  | some (low, high, rest) => do
    let (least, most) ← readBounds low high
    reader.repeatLast least most rest

/-! ## Groups -/

def readGroupName (mark : Char) (rest : List Symbol) : Read (List Char × List Symbol) := do
  let (name, rest) ← readNonEmpty mark rest
  if isGroupName name then return (name, rest) else malformed

def Reader.enter (reader : Reader) (opener : Opener) (flags : Flags) : Reader :=
  let frame := ⟨opener, reader.flags, reader.alternatives, reader.pieces⟩
  { reader with frames := frame :: reader.frames, flags, alternatives := [], pieces := [] }

def Reader.capture (reader : Reader) : Reader :=
  { reader.enter (.capture reader.nextGroup) reader.flags with nextGroup := reader.nextGroup + 1 }

def Reader.captureNamed (reader : Reader) (name : List Char) : Read Reader :=
  if (reader.names.lookup name).isSome then malformed
  else .ok { reader.capture with names := (name, reader.nextGroup) :: reader.names }

def Reader.enterLookBehind (reader : Reader) (negated : Bool) : Reader :=
  let inner := reader.enter (.lookBehind negated reader.referable) reader.flags
  { inner with referable := some (reader.referable.getD reader.nextGroup) }

def Reader.conditionGroup (reader : Reader) (text : List Char) : Read Nat :=
  if isGroupName text then
    match reader.names.lookup text with
    | some index => .ok index
    | none => malformed
  else match integer? text with
    | some index => if 0 < index then .ok index.toNat else malformed
    | none => malformed

def Reader.readCondition (reader : Reader) (rest : List Symbol) : Read (Reader × List Symbol) := do
  let (text, rest) ← readNonEmpty ')' rest
  let index ← reader.conditionGroup text
  if reader.mayRefer index then
    let inner := reader.enter (.given index) reader.flags
    return ({ inner with conditions := index :: inner.conditions }, rest)
  else malformed

def flagLetters : List Char := ['i', 'L', 'm', 's', 'x', 'a', 't', 'u']

def takeFlags : List Symbol → List Char × List Symbol
  | .plain c :: rest =>
    if flagLetters.contains c then
      let (letters, rest) := takeFlags rest
      (c :: letters, rest)
    else ([], .plain c :: rest)
  | rest => ([], rest)

def Reader.atStart (reader : Reader) : Bool :=
  reader.frames.isEmpty && reader.alternatives.isEmpty && reader.pieces.isEmpty

def Reader.setFlags (reader : Reader) (on : List Char) : Reader :=
  { reader with
    flags := reader.flags.switch (on.filter (· != 'u')) []
    asksAscii := reader.asksAscii || on.contains 'a'
    asksUnicode := reader.asksUnicode || on.contains 'u'
    template := reader.template || on.contains 't' }

/-- Flags, for the whole pattern if nothing was read yet, or for a group. -/
def Reader.readFlags (reader : Reader) (rest : List Symbol) : Read (Reader × List Symbol) :=
  let (on, rest) := takeFlags rest
  if on.contains 'L' || (on.contains 'a' && on.contains 'u') then malformed
  else match rest with
    | .plain ')' :: rest =>
      if !on.isEmpty && reader.atStart then .ok (reader.setFlags on, rest) else malformed
    | .plain ':' :: rest =>
      if on.isEmpty || on.contains 't' then malformed
      else .ok (reader.enter .flagged (reader.flags.switch on []), rest)
    | .plain '-' :: rest =>
      let (off, rest) := takeFlags rest
      let refused := off.isEmpty || off.any ['L', 'a', 'u', 't'].contains || on.contains 't' ||
        on.any off.contains
      match rest with
      | .plain ':' :: rest =>
        if refused then malformed
        else .ok (reader.enter .flagged (reader.flags.switch on off), rest)
      | _ => malformed
    | _ => malformed

def skipComment : List Symbol → Read (List Symbol)
  | [] => malformed
  | symbol :: rest => if symbol = .plain ')' then .ok rest else skipComment rest

/-- A group with a question mark behind its opening parenthesis. -/
def Reader.readExtension (reader : Reader) : List Symbol → Read (Reader × List Symbol)
  | .plain 'P' :: .plain '<' :: rest => do
    let (name, rest) ← readGroupName '>' rest
    return (← reader.captureNamed name, rest)
  | .plain 'P' :: .plain '=' :: rest => do
    let (name, rest) ← readGroupName ')' rest
    match reader.names.lookup name with
    | some index => return (reader.push (← reader.refer index), rest)
    | none => malformed
  | .plain ':' :: rest => .ok (reader.enter .plain reader.flags, rest)
  | .plain '#' :: rest => do return (reader, ← skipComment rest)
  | .plain '=' :: rest => .ok (reader.enter (.lookAhead false) reader.flags, rest)
  | .plain '!' :: rest => .ok (reader.enter (.lookAhead true) reader.flags, rest)
  | .plain '<' :: .plain '=' :: rest => .ok (reader.enterLookBehind false, rest)
  | .plain '<' :: .plain '!' :: rest => .ok (reader.enterLookBehind true, rest)
  | .plain '(' :: rest => reader.readCondition rest
  | .plain '>' :: rest => .ok (reader.enter .atomic reader.flags, rest)
  | rest => reader.readFlags rest

def lookWidthLimit : Nat := 2147483648

def Reader.close (reader : Reader) (frame : Frame) (frames : List Frame) : Reader :=
  let parts := reader.body
  let body := Part.sequence parts
  let width := body.width reader.widths
  let outer := { reader with
    frames, flags := frame.flags, alternatives := frame.alternatives, pieces := frame.pieces }
  match frame.opener with
  | .capture index =>
    { outer.push (.of (.group index body)) with widths := (index, width) :: reader.widths }
  | .plain => outer.push (.block parts)
  | .flagged => outer.push (.of (.scoped body))
  | .atomic => outer.push (.of (.atomic body))
  | .lookAhead negated => outer.push (.of (.look .ahead negated body))
  | .lookBehind negated referable =>
    let back := width.fixed?.getD 0
    { outer.push (.of (.look (.behind back) negated body)) with
      referable
      unevenLookBehind := reader.unevenLookBehind || width.fixed?.isNone
      wideLookBehind := reader.wideLookBehind || lookWidthLimit ≤ back }
  | .given index => match reader.alternatives with
    | yes :: _ =>
      outer.push (.of (.given index (Part.sequence yes) (Part.sequence reader.parts)))
    | [] => outer.push (.of (.given index (Part.sequence reader.parts) .empty))

/-! ## The whole pattern -/

/-- A condition has two branches at most. -/
def Reader.readBar (reader : Reader) : Read Reader :=
  let next := { reader with
    alternatives := reader.parts :: reader.alternatives, pieces := [] }
  match reader.frames with
  | ⟨.given _, _, _, _⟩ :: _ => if reader.alternatives.isEmpty then .ok next else malformed
  | _ => .ok next

def isLayout (c : Char) : Bool :=
  [' ', '\t', '\n', '\r', '\x0b', '\x0c'].contains c

def skipLine : List Symbol → List Symbol
  | [] => []
  | .dangling :: rest => .dangling :: rest
  | symbol :: rest => if symbol = .plain '\n' then rest else skipLine rest

def Reader.readPlain (reader : Reader) (c : Char) (rest : List Symbol) :
    Read (Reader × List Symbol) :=
  match c with
  | '[' =>
    let (negated, rest) := match rest with
      | .plain '^' :: rest => (true, rest)
      | _ => (false, rest)
    do
      let (items, rest) ← readSet (rest.length + 1) [] rest
      return (reader.push (reader.flags.set items.reverse.eraseDups negated), rest)
  | '*' => reader.repeatLast 0 none rest
  | '+' => reader.repeatLast 1 none rest
  | '?' => reader.repeatLast 0 (some 1) rest
  | '{' => reader.readBraces rest
  | '.' =>
    let excluded := if reader.flags.dotAll then [] else [.char '\n']
    .ok (reader.push (.single ⟨.one { items := excluded, negated := true }, some c⟩ true), rest)
  | '^' =>
    let anchor := if reader.flags.multiLine then .lineStart else .textStart
    .ok (reader.push (.single ⟨.anchor anchor, some c⟩ false), rest)
  | '$' =>
    let anchor := if reader.flags.multiLine then .lineEnd else .lastLineEnd
    .ok (reader.push (.single ⟨.anchor anchor, some c⟩ false), rest)
  | '(' => match rest with
    | .plain '?' :: rest => reader.readExtension rest
    | _ => .ok (reader.capture, rest)
  | _ => .ok (reader.push (reader.flags.code c.toNat), rest)

/-- Faults that show only when the whole pattern was read. -/
def Reader.clash (reader : Reader) : Read Unit :=
  if reader.asksAscii && reader.asksUnicode then .error .clashingFlags else .ok ()

def Reader.finish (reader : Reader) : Read Expression := do
  if !reader.frames.isEmpty then malformed
  reader.clash
  if reader.conditions.any (reader.nextGroup ≤ ·) then malformed
  if reader.unevenLookBehind || (reader.template && reader.repeats) then malformed
  if reader.wideLookBehind then .error .lookTooWide
  let pattern := Part.sequence reader.body
  return {
    pattern
    least := min (pattern.width reader.widths).least Width.maxLeast
    opening := pattern.opening reader.flags.ascii }

def Reader.step (reader : Reader) (symbol : Symbol) (rest : List Symbol) :
    Read (Reader × List Symbol) :=
  match symbol with
  | .dangling => malformed
  | .escaped c => do
    let (piece, rest) ← reader.readEscape c rest
    return (reader.push piece, rest)
  | .plain '|' => do return (← reader.readBar, rest)
  | .plain ')' => match reader.frames with
    | [] => do reader.clash; malformed
    | frame :: frames => .ok (reader.close frame frames, rest)
  | .plain c =>
    if reader.flags.verbose && isLayout c then .ok (reader, rest)
    else if reader.flags.verbose && c == '#' then .ok (reader, skipLine rest)
    else reader.readPlain c rest

/-- Every step takes at least one symbol, so as many steps as symbols are enough. -/
def run : Nat → Reader → List Symbol → Read Expression
  | _, reader, [] => reader.finish
  | 0, _, _ => malformed
  | fuel + 1, reader, symbol :: rest => do
    let (reader, rest) ← reader.step symbol rest
    run fuel reader rest

/-- How many parentheses are open at once, at most, where `depth` of them are open before. -/
def nesting (depth : Nat) : List Symbol → Nat
  | [] => depth
  | .plain '(' :: rest => nesting (depth + 1) rest
  | .plain ')' :: rest => max depth (nesting (depth - 1) rest)
  | _ :: rest => nesting depth rest

end PatternReader

/-- Reads a pattern to its end, however deep its groups are. -/
def Expression.parse (text : List Char) : Except PatternFault Expression :=
  let input := PatternReader.symbols text
  PatternReader.run input.length {} input

/-- Reads a pattern that `fits` on the stack. -/
def Expression.read (fits : List Char → Bool) (text : List Char) : Except PatternFault Expression :=
  if fits text then Expression.parse text else .error .tooDeep

def usualNesting : Nat := 490

def fitsUsually (text : List Char) : Bool :=
  PatternReader.nesting 0 (PatternReader.symbols text) ≤ usualNesting

end SolidityLint
