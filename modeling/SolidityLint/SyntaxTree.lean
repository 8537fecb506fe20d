import SolidityLint.Value.Basic

/-!
# Syntax trees from outside

Trees are taken as they come: a node may lack any attribute, an attribute may have any value, and a
child may be missing. Reading an attribute that a node lacks is a fault, and so is a value that is
of no use where it is read.
-/

namespace SolidityLint

inductive TreeFault
  | missingNode
  | missingAttribute
  | uselessValue
  | positionOutOfRange
  /-- A position that no finding can have. -/
  | unfitPosition
  deriving DecidableEq, Repr

/-- The row and byte column of a node come as a list, which may be too short. -/
structure NodeAttributes where
  kind : Option Value := none
  startByte : Option Value := none
  startPoint : Option Value := none

inductive SyntaxNode
  | missing
  | node (attributes : NodeAttributes) (body : SyntaxNode) (named others : List SyntaxNode)

/-- Where trees come from: no parser, a parser that fails, or a tree. -/
inductive TreeSource
  | unavailable
  | broken
  | tree (root : SyntaxNode)

namespace SyntaxNode

def isMissing : SyntaxNode → Bool
  | .missing => true
  | .node .. => false

/-- The named children; if there are none, all children. -/
def children : SyntaxNode → List SyntaxNode
  | .missing => []
  | .node _ _ named others => if named.isEmpty then others else named

def attributes : SyntaxNode → Except TreeFault NodeAttributes
  | .missing => .error .missingNode
  | .node attributes _ _ _ => .ok attributes

def require {α : Type} : Option α → Except TreeFault α
  | some value => .ok value
  | none => .error .missingAttribute

def kind (node : SyntaxNode) : Except TreeFault Value := do
  require (← node.attributes).kind

def isKind (node : SyntaxNode) (name : String) : Except TreeFault Bool := do
  match ← node.kind with
  | .text kind => return kind = name
  | _ => return false

/-- The kind is one of several names. Lists and objects cannot be looked up. -/
def isAnyKind (node : SyntaxNode) (names : List String) : Except TreeFault Bool := do
  match ← node.kind with
  | .text kind => return names.contains kind
  | .list _ | .object _ => .error .uselessValue
  | _ => return false

def bound : Value → Except TreeFault (Option Int)
  | .null => .ok none
  | value => match value.index? with
    | some index => .ok (some index)
    | none => .error .uselessValue

def startByte (node : SyntaxNode) : Except TreeFault (Option Int) := do
  bound (← require (← node.attributes).startByte)

def startPoint (node : SyntaxNode) : Except TreeFault (Value × Value) := do
  match ← require (← node.attributes).startPoint with
  | .list (row :: column :: _) => return (row, column)
  | _ => .error .positionOutOfRange

/-! ### Walks -/

mutual
/-- A node and all nodes below it, parents before children. -/
def walk : SyntaxNode → List SyntaxNode
  | .missing => []
  | .node attributes body named others =>
    .node attributes body named others ::
      if named.isEmpty then walkAll others else walkAll named
def walkAll : List SyntaxNode → List SyntaxNode
  | [] => []
  | first :: rest => first.walk ++ walkAll rest
end

mutual
def size : SyntaxNode → Nat
  | .missing => 1
  | .node _ _ named others => sizeAll named + sizeAll others + 1
def sizeAll : List SyntaxNode → Nat
  | [] => 0
  | first :: rest => first.size + sizeAll rest
end

theorem sizeAll_append (first second : List SyntaxNode) :
    sizeAll (first ++ second) = sizeAll first + sizeAll second := by
  induction first with
  | nil => rw [List.nil_append, sizeAll, Nat.zero_add]
  | cons node nodes ih => rw [List.cons_append, sizeAll, sizeAll, ih, Nat.add_assoc]

theorem sizeAll_reverse (nodes : List SyntaxNode) : sizeAll nodes.reverse = sizeAll nodes := by
  induction nodes with
  | nil => rfl
  | cons node nodes ih =>
    rw [List.reverse_cons, sizeAll_append, ih, sizeAll, sizeAll, sizeAll, Nat.add_zero,
      Nat.add_comm]

theorem sizeAll_children_lt (node : SyntaxNode) : sizeAll node.children < node.size := by
  cases node with
  | missing => exact Nat.one_pos
  | node attributes body named others =>
    rw [children, size]
    split <;> omega

theorem sizeAll_of_getLast? {stack : List SyntaxNode} {node : SyntaxNode}
    (h : stack.getLast? = some node) : sizeAll stack = sizeAll stack.dropLast + node.size := by
  obtain ⟨before, rfl⟩ := List.getLast?_eq_some_iff.mp h
  rw [List.dropLast_concat, sizeAll_append, sizeAll, sizeAll, Nat.add_zero]

/-- The nodes that a loop with a stack meets. The last node of the stack is on top, so the children
of a node are put on it in reverse, and the first child is met next. -/
def unwind (stack : List SyntaxNode) : List SyntaxNode :=
  match h : stack.getLast? with
  | none => []
  | some top =>
    if top.isMissing then unwind stack.dropLast
    else top :: unwind (stack.dropLast ++ top.children.reverse)
termination_by sizeAll stack
decreasing_by
  · rw [sizeAll_of_getLast? h]
    exact Nat.lt_add_of_pos_right (Nat.zero_lt_of_lt top.sizeAll_children_lt)
  · rw [sizeAll_of_getLast? h, sizeAll_append, sizeAll_reverse]
    exact Nat.add_lt_add_left top.sizeAll_children_lt _

def traverse (root : SyntaxNode) : List SyntaxNode := unwind [root]

/-! ### Kinds and bodies -/

/-- The first node of a kind. Nodes before it must have a kind. -/
def findKind? (kind : String) : List SyntaxNode → Except TreeFault (Option SyntaxNode)
  | [] => .ok none
  | first :: rest => do
    if ← first.isKind kind then return some first
    findKind? kind rest

/-- The body of a function: its own, or the first child that is one. -/
def bodyNode? : SyntaxNode → Except TreeFault (Option SyntaxNode)
  | .missing => .error .missingNode
  | .node attributes body named others =>
    if body.isMissing then findKind? "function_body" (children (.node attributes body named others))
    else .ok (some body)

end SyntaxNode

/-! ## Loading the parser -/

def grammarName : String := "tree-sitter-solidity"

def grammarLanguage : String := "solidity"

inductive GrammarPack
  | absent
  | failing (reason : String)
  | ready
  deriving DecidableEq, Repr

/-- The loader asks for the grammar when it is first needed, and again as long as it has none. -/
structure GrammarLoader where
  loaded : Bool := false
  requests : List String := []
  deriving DecidableEq, Repr

def GrammarLoader.load (loader : GrammarLoader) (pack : GrammarPack) :
    GrammarLoader × Except String Unit :=
  if loader.loaded then (loader, .ok ())
  else
    let asked := { loader with requests := loader.requests ++ [grammarLanguage] }
    match pack with
    | .absent =>
      (loader, .error "tree-sitter-language-pack is not installed (pip install solsentry[ast])")
    | .failing reason => (asked, .error ("Solidity grammar failed to load: " ++ reason))
    | .ready => ({ asked with loaded := true }, .ok ())

end SolidityLint
