import SolidityLint.Proofs.Numerals
import SolidityLint.Proofs.RoundTrip

/-!
# Settings and their variables

Each setting has one variable, and is what its variable spells. It keeps its default if the variable
is missing or spells nothing (`Settings.Field.Decodes`). So settings that are written into variables
are read back from them, and a variable changes no more than its own setting (`settings_decoded`).
-/

namespace SolidityLint

open Text

-- ---------------------------------------------------------------------------
-- Truth values
-- ---------------------------------------------------------------------------

namespace Environment

def wordsFor : Bool → List String
  | true => ["1", "true", "yes", "on"]
  | false => ["0", "false", "no", "off"]

/-- A word for a truth value in any letter case, between blanks. -/
def SpellsTruth (raw : String) (b : Bool) : Prop :=
  ∃ word, IsBetweenBlanks word raw.toList ∧
    ∃ known ∈ wordsFor b, known.toList = word.map Char.toLower

theorem isWordOf_iff {words : List String} {word : List Char} :
    boolean?.isWordOf words word = true ↔
      ∃ known ∈ words, known.toList = word.map Char.toLower := by
  simp only [boolean?.isWordOf, List.any_eq_true, beq_iff_eq]

theorem toLower_of_isBlank {c : Char} (h : isBlank c = true) : c.toLower = c := by
  have hall : (blankCodes.all fun code => (Char.ofNat code).toLower == Char.ofNat code) = true := by
    decide +kernel
  have hc := List.all_eq_true.mp hall _ (mem_blankCodes h)
  rwa [Char.ofNat_toNat, beq_iff_eq] at hc

theorem not_blank_of_mem_wordsFor {b : Bool} {known : String} (h : known ∈ wordsFor b) :
    ∀ c ∈ known.toList, isBlank c = false := by
  have hall : ((wordsFor b).all fun known => known.toList.all fun c => !isBlank c) = true := by
    cases b <;> decide +kernel
  intro c hc
  simpa using List.all_eq_true.mp (List.all_eq_true.mp hall known h) c hc

theorem disjoint_words {known : String} (hfalse : known ∈ falseWords) : known ∉ trueWords := by
  have hall : (falseWords.all fun known => !trueWords.contains known) = true := by decide +kernel
  have hknown := List.all_eq_true.mp hall known hfalse
  simpa using hknown

theorem boolean?_eq_some_iff {raw : String} {b : Bool} :
    boolean? raw = some b ↔ SpellsTruth raw b := by
  constructor
  · intro h
    refine ⟨trim raw.toList, isBetweenBlanks_trim _, ?_⟩
    unfold boolean? at h
    dsimp only at h
    split at h
    · rename_i htrue
      cases h
      exact isWordOf_iff.mp htrue
    · split at h
      · rename_i hfalse
        cases h
        exact isWordOf_iff.mp hfalse
      · cases h
  · rintro ⟨word, hbetween, known, hknown, hlower⟩
    have hword : ∀ c ∈ word, isBlank c = false := by
      intro c hc
      rw [← Bool.not_eq_true]
      intro hblank
      have hmem : c ∈ known.toList := by
        rw [hlower, ← toLower_of_isBlank hblank]
        exact List.mem_map_of_mem hc
      rw [not_blank_of_mem_wordsFor hknown c hmem] at hblank
      cases hblank
    rw [boolean?, hbetween.trim_eq hword]
    cases b with
    | true => exact if_pos (isWordOf_iff.mpr ⟨known, hknown, hlower⟩)
    | false =>
      have htrue : ¬ boolean?.isWordOf trueWords word = true := by
        rw [isWordOf_iff]
        rintro ⟨other, hother, hsame⟩
        rw [String.toList_inj.mp (hsame.trans hlower.symm)] at hother
        exact disjoint_words hknown hother
      have hfalse : boolean?.isWordOf falseWords word = true :=
        isWordOf_iff.mpr ⟨known, hknown, hlower⟩
      rw [if_neg htrue, if_pos hfalse]

end Environment

-- ---------------------------------------------------------------------------
-- Settings one by one
-- ---------------------------------------------------------------------------

inductive Settings.Field
  | enable
  | maxProblems
  | useTree
  | debounceMs
  | rule (switch : Switch)
  | pattern (kind : NameKind)
  deriving DecidableEq, Repr

def Settings.get (settings : Settings) : Settings.Field → Value
  | .enable => .bool settings.enable
  | .maxProblems => .int settings.maxProblems
  | .useTree => .bool settings.useTree
  | .debounceMs => .int settings.debounceMs
  | .rule switch => .bool (settings.rules.enabled switch)
  | .pattern kind => .text (settings.naming.written kind)

theorem Naming.eq_of_written {one other : Naming}
    (h : ∀ kind, one.written kind = other.written kind) : one = other := by
  cases one
  cases other
  rw [Naming.mk.injEq]
  exact ⟨h .functionName, h .variableName, h .constantName, h .contractName⟩

theorem Settings.eq_of_get {one other : Settings} (h : ∀ field, one.get field = other.get field) :
    one = other := by
  obtain ⟨enable, maxProblems, useTree, debounceMs, ⟨enabled⟩, naming⟩ := one
  obtain ⟨enable', maxProblems', useTree', debounceMs', ⟨enabled'⟩, naming'⟩ := other
  obtain rfl := Value.bool.inj (h .enable)
  obtain rfl := Value.int.inj (h .maxProblems)
  obtain rfl := Value.bool.inj (h .useTree)
  obtain rfl := Value.int.inj (h .debounceMs)
  obtain rfl : enabled = enabled' := funext fun switch => Value.bool.inj (h (.rule switch))
  obtain rfl : naming = naming' :=
    Naming.eq_of_written fun kind => Value.text.inj (h (.pattern kind))
  rfl

namespace Settings.Field

def all : List Settings.Field :=
  [.enable, .maxProblems, .useTree, .debounceMs] ++ Switch.all.map .rule ++
    NameKind.all.map .pattern

def variableName : Settings.Field → String
  | .enable => "SOLSENTRY_ENABLE"
  | .maxProblems => "SOLSENTRY_MAX_PROBLEMS"
  | .useTree => "SOLSENTRY_USE_AST"
  | .debounceMs => "SOLSENTRY_DEBOUNCE_MS"
  | .rule .txOrigin => "SOLSENTRY_RULE_TX_ORIGIN"
  | .rule .selfdestruct => "SOLSENTRY_RULE_SELFDESTRUCT"
  | .rule .delegatecall => "SOLSENTRY_RULE_DELEGATECALL"
  | .rule .lowLevelCallValue => "SOLSENTRY_RULE_LOW_LEVEL_CALL_VALUE"
  | .rule .missingSemicolon => "SOLSENTRY_RULE_MISSING_SEMICOLON"
  | .rule .missingParentheses => "SOLSENTRY_RULE_MISSING_PARENTHESES"
  | .rule .missingBraces => "SOLSENTRY_RULE_MISSING_BRACES"
  | .rule .missingReturn => "SOLSENTRY_RULE_MISSING_RETURN"
  | .rule .wrongKeywords => "SOLSENTRY_RULE_WRONG_KEYWORDS"
  | .rule .missingDataType => "SOLSENTRY_RULE_MISSING_DATA_TYPE"
  | .rule .missingPayable => "SOLSENTRY_RULE_MISSING_PAYABLE"
  | .rule .functionNaming => "SOLSENTRY_RULE_FUNCTION_NAMING"
  | .rule .variableNaming => "SOLSENTRY_RULE_VARIABLE_NAMING"
  | .rule .contractNaming => "SOLSENTRY_RULE_CONTRACT_NAMING"
  | .pattern .functionName => "SOLSENTRY_FUNCTION_PATTERN"
  | .pattern .variableName => "SOLSENTRY_VARIABLE_PATTERN"
  | .pattern .constantName => "SOLSENTRY_CONSTANT_PATTERN"
  | .pattern .contractName => "SOLSENTRY_CONTRACT_PATTERN"

theorem mem_all (field : Settings.Field) : field ∈ all := by
  cases field with
  | rule switch => cases switch <;> decide
  | pattern kind => cases kind <;> decide
  | _ => decide

theorem variableName_injective : Function.Injective variableName := by
  have hall : ∀ one ∈ all, ∀ other ∈ all, one.variableName = other.variableName → one = other := by
    decide +kernel
  exact fun one other => hall one one.mem_all other other.mem_all

theorem family_append_rule (switch : Switch) :
    variableFamily ++ ("RULE_" ++ switch.variableName) = (rule switch).variableName := by
  cases switch <;> decide +kernel

inductive Shape
  | truth
  | number
  | text

def shape : Settings.Field → Shape
  | .enable | .useTree | .rule _ => .truth
  | .maxProblems | .debounceMs => .number
  | .pattern _ => .text

inductive Shape.Spells : Shape → String → Value → Prop
  | truth {raw : String} {b : Bool} : Environment.SpellsTruth raw b → Spells .truth raw (.bool b)
  | number {raw : String} {n : Int} : SpellsInteger raw.toList n → Spells .number raw (.int n)
  | text (raw : String) : Spells .text raw (.text raw)

def Shape.read? : Shape → String → Option Value
  | .truth, raw => (Environment.boolean? raw).map .bool
  | .number, raw => (Environment.readInteger? raw).map .int
  | .text, raw => some (.text raw)

theorem Shape.read?_eq_some_iff {shape : Shape} {raw : String} {value : Value} :
    shape.read? raw = some value ↔ shape.Spells raw value := by
  cases shape with
  | truth =>
    rw [read?, Option.map_eq_some_iff]
    constructor
    · rintro ⟨b, hb, rfl⟩
      exact .truth (Environment.boolean?_eq_some_iff.mp hb)
    · rintro ⟨h⟩
      exact ⟨_, Environment.boolean?_eq_some_iff.mpr h, rfl⟩
  | number =>
    rw [read?, Option.map_eq_some_iff]
    constructor
    · rintro ⟨n, hn, rfl⟩
      exact .number (readInteger?_eq_some_iff.mp hn)
    · intro h
      cases h with
      | number h => exact ⟨_, readInteger?_eq_some_iff.mpr h, rfl⟩
  | text =>
    constructor
    · rintro ⟨⟩
      exact .text raw
    · rintro ⟨⟩
      rfl

/-- How a value is written into a variable: truth values and integers stand between blanks, the
former as any of their words and the latter in decimal. -/
inductive Shape.Encodes : Shape → Value → String → Prop
  | truth {b : Bool} {raw : String} : Environment.SpellsTruth raw b → Encodes .truth (.bool b) raw
  | number {n : Int} {raw : String} : (Nat.toDigits 10 n.natAbs).length ≤ maxDigits →
      IsBetweenBlanks (toString n).toList raw.toList → Encodes .number (.int n) raw
  | text (raw : String) : Encodes .text (.text raw) raw

theorem Shape.Encodes.spells {shape : Shape} {value : Value} {raw : String}
    (h : shape.Encodes value raw) : shape.Spells raw value := by
  cases h with
  | truth h => exact .truth h
  | number hlength h => exact .number (spellsInteger_toString h hlength)
  | text => exact .text raw

inductive Decodes (field : Settings.Field) : Option String → Value → Prop
  | missing : Decodes field none (({} : Settings).get field)
  | spelled {raw : String} {value : Value} :
      field.shape.Spells raw value → Decodes field (some raw) value
  | unreadable {raw : String} : (∀ value, ¬ field.shape.Spells raw value) →
      Decodes field (some raw) (({} : Settings).get field)

theorem decodes_iff {field : Settings.Field} {raw? : Option String} {value : Value} :
    field.Decodes raw? value ↔
      (raw?.bind field.shape.read?).getD (({} : Settings).get field) = value := by
  cases raw? with
  | none =>
    constructor
    · rintro ⟨⟩
      rfl
    · rintro rfl
      exact .missing
  | some raw =>
    rw [Option.bind_some]
    cases hread : field.shape.read? raw with
    | none =>
      have hnone (value : Value) : ¬ field.shape.Spells raw value := by
        rw [← Shape.read?_eq_some_iff, hread]
        exact Option.some_ne_none value ∘ Eq.symm
      constructor
      · intro h
        cases h with
        | spelled h => exact absurd h (hnone value)
        | unreadable => rfl
      · rintro rfl
        exact .unreadable hnone
    | some found =>
      have hfound := Shape.read?_eq_some_iff.mp hread
      constructor
      · intro h
        cases h with
        | spelled h =>
          rw [Shape.read?_eq_some_iff.mpr h] at hread
          exact (Option.some.inj hread).symm
        | unreadable h => exact absurd hfound (h found)
      · rintro rfl
        exact .spelled hfound

end Settings.Field

-- ---------------------------------------------------------------------------
-- Settings from variables
-- ---------------------------------------------------------------------------

namespace Environment

variable (environment : Environment)

theorem setting_fst {α : Type} (wrap : α → Value) (name : String) (default : α)
    (expected : α → Expected) (read? : String → Option α) :
    wrap (environment.setting name default expected read?).1 =
      ((environment.lookup (variableFamily ++ name)).bind fun raw => (read? raw).map wrap).getD
        (wrap default) := by
  unfold setting get?
  cases environment.lookup (variableFamily ++ name) with
  | none => rfl
  | some raw =>
    rw [Option.bind_some]
    dsimp only
    cases read? raw <;> rfl

theorem text_getD (name default : String) :
    Value.text ((environment.get? name).getD default) =
      ((environment.lookup (variableFamily ++ name)).bind Settings.Field.Shape.text.read?).getD
        (.text default) := by
  unfold get?
  cases environment.lookup (variableFamily ++ name) <;> rfl

theorem get_settings (field : Settings.Field) :
    environment.settings.get field =
      ((environment.lookup field.variableName).bind field.shape.read?).getD
        (({} : Settings).get field) := by
  cases field with
  | enable => exact environment.setting_fst .bool "ENABLE" true .boolean boolean?
  | maxProblems =>
    exact environment.setting_fst .int "MAX_PROBLEMS" defaultCap .integer readInteger?
  | useTree => exact environment.setting_fst .bool "USE_AST" false .boolean boolean?
  | debounceMs => exact environment.setting_fst .int "DEBOUNCE_MS" 300 .integer readInteger?
  | rule switch =>
    rw [← Settings.Field.family_append_rule]
    exact environment.setting_fst .bool ("RULE_" ++ switch.variableName) true .boolean boolean?
  | pattern kind =>
    cases kind with
    | functionName => exact environment.text_getD "FUNCTION_PATTERN" _
    | variableName => exact environment.text_getD "VARIABLE_PATTERN" _
    | constantName => exact environment.text_getD "CONSTANT_PATTERN" _
    | contractName => exact environment.text_getD "CONTRACT_PATTERN" _

/-- The settings as models are made of fields: everything is validated. -/
def load : Except Invalid Settings := do
  let rules ← (Rules.read (Switch.all.map fun switch =>
    (switch.name, .bool (environment.switch switch).1))).toExcept rulesModel
  let naming ← (Naming.read [("function_pattern", .text environment.naming.functionPattern),
    ("variable_pattern", .text environment.naming.variablePattern),
    ("constant_pattern", .text environment.naming.constantPattern),
    ("contract_pattern", .text environment.naming.contractPattern)]).toExcept namingModel
  (Settings.read [("enable", .bool (environment.boolean "ENABLE" true).1),
    ("max_problems", .int (environment.integer "MAX_PROBLEMS" defaultCap).1),
    ("use_ast", .bool (environment.boolean "USE_AST" false).1),
    ("debounce_ms", .int (environment.integer "DEBOUNCE_MS" 300).1),
    ("rules", rules.toValue), ("naming", naming.toValue)]).toExcept settingsModel

theorem load_eq : environment.load = .ok environment.settings := by
  have hrules : (Rules.read (environment.settings.rules.spell .plain)).toExcept rulesModel =
      .ok environment.settings.rules :=
    Validated.toExcept_eq_ok_iff.mpr (environment.settings.rules.read_spell .plain)
  have hnaming : (Naming.read (environment.naming.spell .plain)).toExcept namingModel =
      .ok environment.naming :=
    Validated.toExcept_eq_ok_iff.mpr (environment.naming.read_spell .plain)
  have hsettings : (Settings.read (environment.settings.spell .plain)).toExcept settingsModel =
      .ok environment.settings :=
    Validated.toExcept_eq_ok_iff.mpr (environment.settings.read_spell .plain)
  exact bind_ok.mpr ⟨_, hrules, bind_ok.mpr ⟨_, hnaming, hsettings⟩⟩

end Environment

/-- Settings can always be loaded. Each one is what its variable spells, or else its default, and
what was written into the variables is loaded from them. If environments differ in one variable, the
settings differ in no other setting than its own. -/
theorem settings_decoded (environment : Environment) :
    environment.load = .ok environment.settings ∧
    (∀ field value, environment.settings.get field = value ↔
      field.Decodes (environment.lookup field.variableName) value) ∧
    (∀ settings : Settings,
      (∀ field : Settings.Field, ∃ raw, environment.lookup field.variableName = some raw ∧
        field.shape.Encodes (settings.get field) raw) → environment.load = .ok settings) ∧
    Function.Injective Settings.Field.variableName ∧
    ∀ (changed : Environment) (name : String),
      (∀ other ≠ name, changed.lookup other = environment.lookup other) →
      ∀ field : Settings.Field, field.variableName ≠ name →
        changed.settings.get field = environment.settings.get field := by
  refine ⟨environment.load_eq, ?_, ?_, Settings.Field.variableName_injective, ?_⟩
  · intro field value
    rw [environment.get_settings, Settings.Field.decodes_iff]
  · intro settings hwritten
    rw [environment.load_eq]
    refine congrArg _ (Settings.eq_of_get fun field => ?_)
    obtain ⟨raw, hraw, hencodes⟩ := hwritten field
    rw [environment.get_settings, ← Settings.Field.decodes_iff, hraw]
    exact .spelled hencodes.spells
  · intro changed name hsame field hne
    rw [changed.get_settings, environment.get_settings, hsame _ hne]

def oddSettings : Settings where
  enable := false
  maxProblems := -12
  useTree := true
  debounceMs := 0
  rules := ⟨fun switch => switch != .txOrigin⟩
  naming := { Naming.default with functionPattern := " ^a" }

def oddSpelling : Settings.Field → String
  | .enable => " oFF\t"
  | .maxProblems => "\n-12 "
  | .useTree => "YES"
  | .debounceMs => "0\r"
  | .rule .txOrigin => "No "
  | .rule _ => "\t1"
  | .pattern kind => oddSettings.naming.written kind

def oddEnvironment : Environment :=
  Settings.Field.all.map fun field => (field.variableName, oddSpelling field)

theorem lookup_oddEnvironment (field : Settings.Field) :
    oddEnvironment.lookup field.variableName = some (oddSpelling field) :=
  lookup_map_eq_some field.mem_all fun _ _ h => Settings.Field.variableName_injective h

theorem encodes_oddSpelling (field : Settings.Field) :
    field.shape.Encodes (oddSettings.get field) (oddSpelling field) := by
  cases field with
  | enable => exact .truth (Environment.boolean?_eq_some_iff.mp (by decide +kernel))
  | maxProblems =>
    exact .number (by decide) ⟨['\n'], [' '], List.forall_mem_singleton.mpr (by decide),
      List.forall_mem_singleton.mpr (by decide), by decide +kernel⟩
  | useTree => exact .truth (Environment.boolean?_eq_some_iff.mp (by decide +kernel))
  | debounceMs =>
    exact .number (by decide) ⟨[], ['\r'], List.forall_mem_nil _,
      List.forall_mem_singleton.mpr (by decide), by decide +kernel⟩
  | rule switch =>
    refine .truth (Environment.boolean?_eq_some_iff.mp ?_)
    cases switch <;> decide +kernel
  | pattern kind => exact .text _

theorem settings_decoded_from_odd_spellings :
    (∀ field : Settings.Field, ∃ raw, oddEnvironment.lookup field.variableName = some raw ∧
      field.shape.Encodes (oddSettings.get field) raw) ∧
    oddEnvironment.load = .ok oddSettings ∧
    (∀ other ≠ "SOLSENTRY_ENABLE",
      List.lookup other (("SOLSENTRY_ENABLE", "maybe") :: oddEnvironment) =
        oddEnvironment.lookup other) ∧
    Settings.get (Environment.settings (("SOLSENTRY_ENABLE", "maybe") :: oddEnvironment))
      .maxProblems = oddEnvironment.settings.get .maxProblems := by
  have hwritten (field : Settings.Field) :
      ∃ raw, oddEnvironment.lookup field.variableName = some raw ∧
        field.shape.Encodes (oddSettings.get field) raw :=
    ⟨_, lookup_oddEnvironment field, encodes_oddSpelling field⟩
  have hothers : ∀ other ≠ "SOLSENTRY_ENABLE",
      List.lookup other (("SOLSENTRY_ENABLE", "maybe") :: oddEnvironment) =
        oddEnvironment.lookup other := by
    intro other hne
    rw [List.lookup_cons, beq_false_of_ne hne]
  obtain ⟨-, -, hread, -, hkeeps⟩ := settings_decoded oddEnvironment
  exact ⟨hwritten, hread oddSettings hwritten, hothers,
    hkeeps _ "SOLSENTRY_ENABLE" hothers .maxProblems (by decide)⟩

end SolidityLint
