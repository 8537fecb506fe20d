import SolidityLint.Service.Response

/-!
# What fields spell

Which values stand for a truth value, an integer or a model, said without the readers. A reader
accepts exactly these values (`Spelled`), so the models that fields spell are the ones that are read
from them (`Request.ofFields_eq_ok_iff`, `Envelope.ofFields_eq_ok_iff`).
-/

namespace SolidityLint

-- ---------------------------------------------------------------------------
-- Results without issues
-- ---------------------------------------------------------------------------

namespace Validated

variable {α β : Type}

theorem map_eq_valid_iff {f : α → β} {x : Validated α} {b : β} :
    x.map f = .valid b ↔ ∃ a, x = .valid a ∧ f a = b := by
  cases x <;> simp [map]

theorem seq_eq_valid_iff {f : Validated (α → β)} {x : Validated α} {b : β} :
    f <*> x = .valid b ↔ ∃ g a, f = .valid g ∧ x = .valid a ∧ g a = b := by
  change f.apply x = .valid b ↔ _
  cases f <;> cases x <;> simp [apply]

theorem functorMap_eq_valid_iff {f : α → β} {x : Validated α} {b : β} :
    f <$> x = .valid b ↔ ∃ a, x = .valid a ∧ f a = b := by
  change (valid f).apply x = .valid b ↔ _
  cases x <;> simp [apply]

theorem under_eq_valid_iff {key : String} {x : Validated α} {a : α} :
    x.under key = .valid a ↔ x = .valid a := by
  cases x <;> simp [under]

theorem toExcept_eq_ok_iff {model : String} {x : Validated α} {a : α} :
    x.toExcept model = .ok a ↔ x = .valid a := by
  cases x <;> simp [toExcept]

end Validated

namespace Schema

variable {α : Type}

-- ---------------------------------------------------------------------------
-- Values
-- ---------------------------------------------------------------------------

inductive SpellsBool : Value → Bool → Prop
  | bool (b : Bool) : SpellsBool (.bool b) b
  | int (b : Bool) : SpellsBool (.int b.toInt) b
  | real {value : Double} {b : Bool} : value.integer? = some b.toInt → SpellsBool (.real value) b
  | yes {word : String} : word.map Char.toLower ∈ trueWords → SpellsBool (.text word) true
  | no {word : String} : word.map Char.toLower ∈ falseWords → SpellsBool (.text word) false

/-- Values that are taken for an integer. A double must be whole and fit into a word. -/
inductive SpellsInt : Value → Int → Prop
  | bool (b : Bool) : SpellsInt (.bool b) b.toInt
  | int (n : Int) : SpellsInt (.int n) n
  | real {value : Double} {n : Int} :
      value.integer? = some n → -wordBound < n → n < wordBound → SpellsInt (.real value) n
  | text {word : String} {n : Int} :
      Text.numeral word.toList = .value n → SpellsInt (.text word) n

inductive SpellsText : Value → String → Prop
  | text (text : String) : SpellsText (.text text) text

inductive SpellsObject : Value → Fields → Prop
  | object (fields : Fields) : SpellsObject (.object fields) fields

inductive SpellsModel (SpelledBy : α → Fields → Prop) : Value → α → Prop
  | object {fields : Fields} {a : α} : SpelledBy a fields → SpellsModel SpelledBy (.object fields) a

inductive SpellsOption (Spells : Value → α → Prop) : Value → Option α → Prop
  | null : SpellsOption Spells .null none
  | some {value : Value} {a : α} : Spells value a → SpellsOption Spells value (some a)

/-- A reader accepts the values that spell something, and gives what they spell. -/
def Spelled (read : Value → Validated α) (Spells : Value → α → Prop) : Prop :=
  ∀ value a, read value = .valid a ↔ Spells value a

theorem boolOfInt_eq_valid_iff {n : Int} {b : Bool} : boolOfInt n = .valid b ↔ n = b.toInt := by
  unfold boolOfInt Validated.fail
  cases b <;> (repeat' split) <;> simp_all [Bool.toInt]

theorem integerOf_eq_valid_iff {value : Double} {n : Int} :
    integerOf value = .valid n ↔ value.integer? = some n ∧ -wordBound < n ∧ n < wordBound := by
  unfold integerOf
  split
  · rename_i integer hinteger
    rw [hinteger]
    split <;> simp_all [Validated.fail] <;> grind
  · simp_all [Validated.fail]

theorem neg_wordBound_lt_toInt (b : Bool) : -wordBound < b.toInt ∧ b.toInt < wordBound := by
  cases b <;> decide

theorem readBool_spelled : Spelled readBool SpellsBool := by
  intro value b
  cases value with
  | bool value =>
    exact ⟨fun h => by cases h; exact .bool _, fun h => by cases h; rfl⟩
  | int n =>
    rw [readBool, boolOfInt_eq_valid_iff]
    exact ⟨fun h => h ▸ .int b, fun h => by cases h; rfl⟩
  | real value =>
    rw [readBool]
    constructor
    · intro h
      split at h
      · rename_i n hn
        have hb := boolOfInt_eq_valid_iff.mp h
        exact .real (hb ▸ (integerOf_eq_valid_iff.mp hn).1)
      · cases h
    · intro h
      cases h with
      | real h =>
        rw [integerOf_eq_valid_iff.mpr ⟨h, neg_wordBound_lt_toInt b⟩]
        exact boolOfInt_eq_valid_iff.mpr rfl
  | text word =>
    rw [readBool]
    constructor
    · intro h
      split at h
      · rename_i hyes
        cases h
        exact .yes (List.contains_iff_mem.mp hyes)
      · split at h
        · rename_i hno
          cases h
          exact .no (List.contains_iff_mem.mp hno)
        · cases h
    · intro h
      cases h with
      | yes h => rw [if_pos (List.contains_iff_mem.mpr h)]
      | no h =>
        have hyes : ¬ trueWords.contains (word.map Char.toLower) := by
          simp only [falseWords, List.mem_cons, List.not_mem_nil, or_false] at h
          rcases h with h | h | h | h | h | h <;> rw [h] <;> decide
        rw [if_neg hyes, if_pos (List.contains_iff_mem.mpr h)]
  | _ => exact ⟨nofun, nofun⟩

theorem readInt_spelled : Spelled readInt SpellsInt := by
  intro value n
  cases value with
  | bool b =>
    have hread : readInt (.bool b) = .valid b.toInt := by cases b <;> rfl
    rw [hread]
    exact ⟨fun h => by cases h; exact .bool b, fun h => by cases h; rfl⟩
  | int value =>
    exact ⟨fun h => by cases h; exact .int _, fun h => by cases h; rfl⟩
  | real value =>
    rw [readInt, integerOf_eq_valid_iff]
    constructor
    · rintro ⟨hn, hlower, hupper⟩
      exact .real hn hlower hupper
    · rintro ⟨⟩
      exact ⟨‹_›, ‹_›, ‹_›⟩
  | text word =>
    have hread : readInt (.text word) = .valid n ↔ Text.numeral word.toList = .value n := by
      rw [readInt, readIntText]
      split <;> simp_all [Validated.fail]
    rw [hread]
    exact ⟨.text, fun h => by cases h; assumption⟩
  | _ => exact ⟨nofun, nofun⟩

theorem readText_spelled : Spelled readText SpellsText := by
  intro value text
  cases value with
  | text value =>
    exact ⟨fun h => by cases h; exact .text _, fun h => by cases h; rfl⟩
  | _ => exact ⟨nofun, nofun⟩

theorem readModel_spelled {SpelledBy : α → Fields → Prop} {model : String}
    {read : Fields → Validated α} (h : ∀ {fields a}, read fields = .valid a ↔ SpelledBy a fields) :
    Spelled (readModel model read) (SpellsModel SpelledBy) := by
  intro value a
  cases value with
  | object fields =>
    rw [readModel, h]
    exact ⟨.object, fun h => by cases h; assumption⟩
  | _ => exact ⟨nofun, nofun⟩

theorem readObject_spelled : Spelled readObject SpellsObject := by
  intro value fields
  cases value with
  | object object =>
    exact ⟨fun h => by cases h; exact .object _, fun h => by cases h; rfl⟩
  | _ => exact ⟨nofun, nofun⟩

theorem Spelled.optional {read : Value → Validated α} {Spells : Value → α → Prop}
    (h : Spelled read Spells) (hnull : ∀ a, ¬ Spells .null a) :
    Spelled (readOptional read) (SpellsOption Spells) := by
  intro value result
  by_cases hvalue : value = .null
  · subst hvalue
    constructor
    · rintro ⟨⟩
      exact .null
    · rintro (_ | hs)
      · rfl
      · exact absurd hs (hnull _)
  · have hread : readOptional read value = (read value).map some := by
      cases value <;> first | rfl | exact absurd rfl hvalue
    rw [hread, Validated.map_eq_valid_iff]
    constructor
    · rintro ⟨a, ha, rfl⟩
      exact .some ((h value a).mp ha)
    · rintro (_ | hs)
      · exact absurd rfl hvalue
      · exact ⟨_, (h value _).mpr hs, rfl⟩

-- ---------------------------------------------------------------------------
-- Fields
-- ---------------------------------------------------------------------------

/-- A field is there, and spells something. -/
def Holds (fields : Fields) (key : String) (Spells : Value → α → Prop) (a : α) : Prop :=
  ∃ value, fields.lookup key = some value ∧ Spells value a

/-- The first of several names that is present holds what is spelled. If none is, the default is
meant. -/
inductive HoldsOr (fields : Fields) (keys : List String) (default : α)
    (Spells : Value → α → Prop) : α → Prop
  | absent : (∀ key ∈ keys, fields.lookup key = none) →
      HoldsOr fields keys default Spells default
  | present {earlier later : List String} {key : String} {a : α} :
      keys = earlier ++ key :: later → (∀ key ∈ earlier, fields.lookup key = none) →
      Holds fields key Spells a → HoldsOr fields keys default Spells a

variable {fields : Fields} {read : Value → Validated α} {Spells : Value → α → Prop}

theorem field_eq_valid_iff (h : Spelled read Spells) {key : String} {a : α} :
    field fields key read = .valid a ↔ Holds fields key Spells a := by
  unfold field Holds
  cases hlookup : fields.lookup key with
  | none => simp [Validated.fail, Validated.under]
  | some value =>
    dsimp only
    rw [Validated.under_eq_valid_iff, h]
    exact ⟨fun hs => ⟨value, rfl, hs⟩, fun ⟨_, he, hs⟩ => Option.some.inj he ▸ hs⟩

theorem find?_eq_none_iff {keys : List String} :
    find? fields keys = none ↔ ∀ key ∈ keys, fields.lookup key = none := by
  induction keys with
  | nil => simp [find?]
  | cons key keys ih =>
    rw [find?, List.forall_mem_cons]
    cases fields.lookup key <;> simp [ih]

theorem find?_eq_some_iff {keys : List String} {key : String} {value : Value} :
    find? fields keys = some (key, value) ↔ ∃ earlier later, keys = earlier ++ key :: later ∧
      (∀ key ∈ earlier, fields.lookup key = none) ∧ fields.lookup key = some value := by
  induction keys with
  | nil => simp [find?]
  | cons first keys ih =>
    rw [find?]
    cases hfirst : fields.lookup first with
    | none =>
      dsimp only
      rw [ih]
      constructor
      · rintro ⟨earlier, later, rfl, hearlier, hkey⟩
        exact ⟨first :: earlier, later, rfl, List.forall_mem_cons.mpr ⟨hfirst, hearlier⟩, hkey⟩
      · rintro ⟨_ | ⟨_, earlier⟩, later, hkeys, hearlier, hkey⟩ <;> injection hkeys with hhead htail
        · simp [← hhead, hfirst] at hkey
        · exact ⟨earlier, later, htail, (List.forall_mem_cons.mp hearlier).2, hkey⟩
    | some found =>
      dsimp only
      constructor
      · rintro ⟨⟩
        exact ⟨[], keys, rfl, List.forall_mem_nil _, hfirst⟩
      · rintro ⟨_ | ⟨_, earlier⟩, later, hkeys, hearlier, hkey⟩ <;> injection hkeys with hhead htail
        · rw [← hhead, hfirst] at hkey
          rw [hhead, Option.some.inj hkey]
        · have hnone := (List.forall_mem_cons.mp hearlier).1
          simp [← hhead, hfirst] at hnone

theorem fieldOr_eq_valid_iff (h : Spelled read Spells) {keys : List String} {default a : α} :
    fieldOr fields keys default read = .valid a ↔ HoldsOr fields keys default Spells a := by
  unfold fieldOr
  cases hfind : find? fields keys with
  | none =>
    have hnone := find?_eq_none_iff.mp hfind
    constructor
    · rintro ⟨⟩
      exact .absent hnone
    · intro hholds
      cases hholds with
      | absent => rfl
      | present hkeys _ hheld =>
        obtain ⟨value, hvalue, -⟩ := hheld
        have hkey := hnone _ (hkeys ▸ List.mem_append_right _ List.mem_cons_self)
        rw [hkey] at hvalue
        cases hvalue
  | some found =>
    obtain ⟨key, value⟩ := found
    dsimp only
    rw [Validated.under_eq_valid_iff, h]
    obtain ⟨earlier, later, hkeys, hearlier, hkey⟩ := find?_eq_some_iff.mp hfind
    constructor
    · intro hs
      exact .present hkeys hearlier ⟨value, hkey, hs⟩
    · intro hholds
      cases hholds with
      | absent hnone =>
        rw [find?_eq_none_iff.mpr hnone] at hfind
        cases hfind
      | present hkeys' hearlier' hheld =>
        obtain ⟨value', hkey', hs⟩ := hheld
        have hsame := find?_eq_some_iff.mpr ⟨_, _, hkeys', hearlier', hkey'⟩
        rw [hfind] at hsame
        cases hsame
        exact hs

end Schema

open Schema

-- ---------------------------------------------------------------------------
-- Models
-- ---------------------------------------------------------------------------

/-- Each switch is set by its own field, and is on if it has none. -/
def Rules.SpelledBy (rules : Rules) (fields : Fields) : Prop :=
  ∀ switch : Switch,
    HoldsOr fields [switch.editorName, switch.name] true SpellsBool (rules.enabled switch)

structure Naming.SpelledBy (naming : Naming) (fields : Fields) : Prop where
  functionPattern : HoldsOr fields ["functionPattern", "function_pattern"] "" SpellsText
    naming.functionPattern
  variablePattern : HoldsOr fields ["variablePattern", "variable_pattern"] "" SpellsText
    naming.variablePattern
  constantPattern : HoldsOr fields ["constantPattern", "constant_pattern"] "" SpellsText
    naming.constantPattern
  contractPattern : HoldsOr fields ["contractPattern", "contract_pattern"] "" SpellsText
    naming.contractPattern

/-- Only the text must be there. The other fields may be left out or null. -/
structure Request.SpelledBy (request : Request) (fields : Fields) : Prop where
  text : Holds fields "text" SpellsText request.text
  rules : HoldsOr fields ["rules"] none (SpellsOption (SpellsModel Rules.SpelledBy)) request.rules
  maxProblems : HoldsOr fields ["maxProblems", "max_problems"] none (SpellsOption SpellsInt)
    request.maxProblems
  naming : HoldsOr fields ["naming"] none (SpellsOption (SpellsModel Naming.SpelledBy))
    request.naming
  useTree : HoldsOr fields ["useAST", "use_ast"] none (SpellsOption SpellsBool) request.useTree

structure Envelope.SpelledBy (envelope : Envelope) (fields : Fields) : Prop where
  requestId : Holds fields "request_id" SpellsText envelope.requestId
  action : Holds fields "action" SpellsText envelope.action
  payload : Holds fields "payload" SpellsObject envelope.payload
  context : HoldsOr fields ["context"] none (SpellsOption SpellsObject) envelope.context

-- A value that is refused is refused with an issue, so no issues at all mean that every switch
-- was read.

theorem Schema.readBool_ne_invalid_nil (value : Value) : readBool value ≠ .invalid [] := by
  have hint (n : Int) : boolOfInt n ≠ .invalid [] := by
    unfold boolOfInt Validated.fail
    (repeat' split) <;> nofun
  cases value with
  | int n => exact hint n
  | real value =>
    rw [readBool]
    split
    · exact hint _
    · nofun
  | text word =>
    rw [readBool]
    (repeat' split) <;> nofun
  | _ => nofun

theorem Switch.read_issues_eq_nil_iff {fields : Fields} {switch : Switch} :
    (switch.read fields).issues = [] ↔ ∃ b, switch.read fields = .valid b := by
  have hne : switch.read fields ≠ .invalid [] := by
    unfold Switch.read fieldOr
    split
    · rename_i key value _
      have hvalue := readBool_ne_invalid_nil value
      cases hread : readBool value with
      | valid b => nofun
      | invalid issues => simpa [Validated.under, hread] using hvalue
    · nofun
  cases hread : switch.read fields with
  | valid b => simp [Validated.issues]
  | invalid issues => simpa [Validated.issues, hread] using hne

theorem Rules.read_eq_valid_iff {fields : Fields} {rules : Rules} :
    Rules.read fields = .valid rules ↔ rules.SpelledBy fields := by
  have hread : Rules.read fields = .valid rules ↔
      ∀ switch : Switch, switch.read fields = .valid (rules.enabled switch) := by
    unfold Rules.read
    split
    · rename_i hissues
      have hvalid (switch : Switch) : ∃ b, switch.read fields = .valid b :=
        Switch.read_issues_eq_nil_iff.mp
          (List.flatMap_eq_nil_iff.mp hissues switch (by cases switch <;> decide))
      constructor
      · rintro ⟨⟩ switch
        obtain ⟨b, hb⟩ := hvalid switch
        simp [hb, Validated.value?]
      · intro h
        simp [h, Validated.value?]
    · rename_i issues hne
      constructor
      · nofun
      · intro h
        exact absurd (by simp [h, Validated.issues]) hne
  rw [hread]
  exact forall_congr' fun switch => fieldOr_eq_valid_iff readBool_spelled

theorem Naming.read_eq_valid_iff {fields : Fields} {naming : Naming} :
    Naming.read fields = .valid naming ↔ naming.SpelledBy fields := by
  unfold Naming.read
  simp only [Validated.seq_eq_valid_iff, Validated.functorMap_eq_valid_iff,
    fieldOr_eq_valid_iff readText_spelled]
  constructor
  · rintro ⟨_, _, ⟨_, _, ⟨_, _, ⟨_, hfunction, rfl⟩, hvariable, rfl⟩, hconstant, rfl⟩,
      hcontract, rfl⟩
    exact ⟨hfunction, hvariable, hconstant, hcontract⟩
  · rintro ⟨hfunction, hvariable, hconstant, hcontract⟩
    exact ⟨_, _, ⟨_, _, ⟨_, _, ⟨_, hfunction, rfl⟩, hvariable, rfl⟩, hconstant, rfl⟩,
      hcontract, rfl⟩

theorem Request.read_eq_valid_iff {fields : Fields} {request : Request} :
    Request.read fields = .valid request ↔ request.SpelledBy fields := by
  have hrules : Spelled (readOptional (readModel rulesModel Rules.read))
      (SpellsOption (SpellsModel Rules.SpelledBy)) :=
    (readModel_spelled Rules.read_eq_valid_iff).optional nofun
  have hnaming : Spelled (readOptional (readModel namingModel Naming.read))
      (SpellsOption (SpellsModel Naming.SpelledBy)) :=
    (readModel_spelled Naming.read_eq_valid_iff).optional nofun
  unfold Request.read
  simp only [Validated.seq_eq_valid_iff, Validated.functorMap_eq_valid_iff,
    field_eq_valid_iff readText_spelled, fieldOr_eq_valid_iff hrules,
    fieldOr_eq_valid_iff (readInt_spelled.optional nofun), fieldOr_eq_valid_iff hnaming,
    fieldOr_eq_valid_iff (readBool_spelled.optional nofun)]
  constructor
  · rintro ⟨_, _, ⟨_, _, ⟨_, _, ⟨_, _, ⟨_, htext, rfl⟩, hrules, rfl⟩, hmax, rfl⟩, hnaming, rfl⟩,
      htree, rfl⟩
    exact ⟨htext, hrules, hmax, hnaming, htree⟩
  · rintro ⟨htext, hrules, hmax, hnaming, htree⟩
    exact ⟨_, _, ⟨_, _, ⟨_, _, ⟨_, _, ⟨_, htext, rfl⟩, hrules, rfl⟩, hmax, rfl⟩, hnaming, rfl⟩,
      htree, rfl⟩

theorem Envelope.read_eq_valid_iff {fields : Fields} {envelope : Envelope} :
    Envelope.read fields = .valid envelope ↔ envelope.SpelledBy fields := by
  unfold Envelope.read
  simp only [Validated.seq_eq_valid_iff, Validated.functorMap_eq_valid_iff,
    field_eq_valid_iff readText_spelled, field_eq_valid_iff readObject_spelled,
    fieldOr_eq_valid_iff (readObject_spelled.optional nofun)]
  constructor
  · rintro ⟨_, _, ⟨_, _, ⟨_, _, ⟨_, hid, rfl⟩, haction, rfl⟩, hpayload, rfl⟩, hcontext, rfl⟩
    exact ⟨hid, haction, hpayload, hcontext⟩
  · rintro ⟨hid, haction, hpayload, hcontext⟩
    exact ⟨_, _, ⟨_, _, ⟨_, _, ⟨_, hid, rfl⟩, haction, rfl⟩, hpayload, rfl⟩, hcontext, rfl⟩

end SolidityLint
