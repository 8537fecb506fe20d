import SolidityLint.SyntaxTree
import SolidityLint.Text.Utf8

/-!
# Walks over syntax trees

A loop with a stack meets the nodes that a walk meets, in the same order (`traverse_eq_walk`). Nodes
are told apart by their paths from the root, since a tree may hold the same node twice. A walk meets
the nodes in the order of their paths (`exists_inOrder_walk`). In a tree whose nodes have all
their attributes (`IsWhole`), looking for a node of a kind and for the body of a function is never a
fault.
-/

namespace SolidityLint

open Text

namespace SyntaxNode

variable {node body inner : SyntaxNode} {nodes : List SyntaxNode} {name : String}

-- ---------------------------------------------------------------------------
-- The loop with a stack
-- ---------------------------------------------------------------------------

theorem walkAll_append (first second : List SyntaxNode) :
    walkAll (first ++ second) = walkAll first ++ walkAll second := by
  induction first with
  | nil => rw [List.nil_append, walkAll, List.nil_append]
  | cons node nodes ih => rw [List.cons_append, walkAll, walkAll, ih, List.append_assoc]

theorem walk_of_isMissing (h : node.isMissing = true) : node.walk = [] := by
  cases node with
  | missing => rw [walk]
  | node => cases h

theorem walk_eq_cons (h : node.isMissing = false) : node.walk = node :: walkAll node.children := by
  cases node with
  | missing => cases h
  | node attributes body named others =>
    rw [walk, children]
    split <;> rfl

/-- What is left on a stack is walked from the top down, whatever has been met before. -/
theorem unwind_eq_walkAll (stack : List SyntaxNode) : unwind stack = walkAll stack.reverse := by
  fun_induction unwind stack with
  | case1 stack htop =>
    rw [List.getLast?_eq_none_iff.mp htop, List.reverse_nil, walkAll]
  | case2 stack top htop hmissing ih =>
    obtain ⟨below, rfl⟩ := List.getLast?_eq_some_iff.mp htop
    rw [List.dropLast_concat] at ih ⊢
    rw [ih, List.reverse_concat, walkAll, walk_of_isMissing hmissing, List.nil_append]
  | case3 stack top htop hnode ih =>
    obtain ⟨below, rfl⟩ := List.getLast?_eq_some_iff.mp htop
    rw [List.dropLast_concat] at ih ⊢
    rw [ih, List.reverse_append, List.reverse_reverse, walkAll_append, List.reverse_concat, walkAll,
      walk_eq_cons (Bool.eq_false_iff.mpr hnode), List.cons_append]

theorem traverse_eq_walk (root : SyntaxNode) : root.traverse = root.walk := by
  rw [traverse, unwind_eq_walkAll, List.reverse_singleton, walkAll, walkAll, List.append_nil]

-- ---------------------------------------------------------------------------
-- Paths
-- ---------------------------------------------------------------------------

/-- The node at the end of a path, which holds the numbers of the children to go through. -/
def at? (node : SyntaxNode) : List Nat → Option SyntaxNode
  | [] => if node.isMissing then none else some node
  | number :: path => node.children[number]?.bind (·.at? path)

/-- The node at the end of a path that begins with the number of a node in a list, counted from
`first` on. -/
def ReachedIn (nodes : List SyntaxNode) (first : Nat) (path : List Nat) (inner : SyntaxNode) :
    Prop :=
  ∃ number rest node, path = (first + number) :: rest ∧ nodes[number]? = some node ∧
    node.at? rest = some inner

theorem reachedIn_cons {first : Nat} {path : List Nat} :
    ReachedIn (node :: nodes) first path inner ↔
      (∃ rest, path = first :: rest ∧ node.at? rest = some inner) ∨
        ReachedIn nodes (first + 1) path inner := by
  constructor
  · rintro ⟨number, rest, other, rfl, hother, hinner⟩
    cases number with
    | zero =>
      cases hother
      exact .inl ⟨rest, rfl, hinner⟩
    | succ number =>
      exact .inr ⟨number, rest, other, by rw [Nat.add_assoc, Nat.add_comm 1], hother, hinner⟩
  · rintro (⟨rest, rfl, hinner⟩ | ⟨number, rest, other, rfl, hother, hinner⟩)
    · exact ⟨0, rest, node, rfl, rfl, hinner⟩
    · exact ⟨number + 1, rest, other, by rw [Nat.add_assoc, Nat.add_comm 1], hother, hinner⟩

theorem at?_cons {number : Nat} {path : List Nat} :
    node.at? (number :: path) = some inner ↔ ReachedIn node.children 0 (number :: path) inner := by
  rw [at?, Option.bind_eq_some_iff]
  constructor
  · rintro ⟨child, hchild, hinner⟩
    exact ⟨number, path, child, by rw [Nat.zero_add], hchild, hinner⟩
  · rintro ⟨other, rest, child, hpath, hchild, hinner⟩
    rw [Nat.zero_add] at hpath
    cases hpath
    exact ⟨child, hchild, hinner⟩

/-- The nodes that are reached, with the paths to them, in the order of the paths: a node before
those below it, and those below a child before the next child. -/
structure InOrder (reached : List Nat → SyntaxNode → Prop)
    (entries : List (List Nat × SyntaxNode)) : Prop where
  ordered : entries.Pairwise (·.1 < ·.1)
  mem_iff : ∀ path inner, (path, inner) ∈ entries ↔ reached path inner

theorem InOrder.parent {entries : List (List Nat × SyntaxNode)} (hnode : node.isMissing = false)
    (h : InOrder (ReachedIn node.children 0) entries) :
    InOrder (fun path inner => node.at? path = some inner) (([], node) :: entries) where
  ordered := by
    refine List.pairwise_cons.mpr ⟨fun entry he => ?_, h.ordered⟩
    obtain ⟨number, rest, child, hpath, -, -⟩ := (h.mem_iff _ _).mp he
    rw [hpath]
    exact List.nil_lt_cons _ _
  mem_iff path inner := by
    rw [List.mem_cons, h.mem_iff]
    cases path with
    | nil =>
      have hnever : ¬ReachedIn node.children 0 [] inner := by
        rintro ⟨number, rest, child, hpath, -, -⟩
        cases hpath
      simp [hnever, at?, hnode, eq_comm]
    | cons number path => simp [at?_cons]

theorem InOrder.append {here later : List (List Nat × SyntaxNode)} {first : Nat}
    (hhere : InOrder (fun path inner => node.at? path = some inner) here)
    (hlater : InOrder (ReachedIn nodes (first + 1)) later) :
    InOrder (ReachedIn (node :: nodes) first)
      (here.map (fun entry => (first :: entry.1, entry.2)) ++ later) where
  ordered := by
    refine List.pairwise_append.mpr ⟨?_, hlater.ordered, fun one hone other hother => ?_⟩
    · rw [List.pairwise_map]
      exact hhere.ordered.imp fun hlt => List.cons_lt_cons_self.mpr hlt
    · obtain ⟨entry, -, rfl⟩ := List.mem_map.mp hone
      obtain ⟨number, rest, child, hpath, -, -⟩ := (hlater.mem_iff _ _).mp hother
      rw [hpath]
      exact List.Lex.rel (by omega)
  mem_iff path inner := by
    rw [List.mem_append, hlater.mem_iff, reachedIn_cons]
    refine or_congr_left ⟨fun h => ?_, ?_⟩
    · obtain ⟨⟨rest, other⟩, hentry, he⟩ := List.mem_map.mp h
      cases he
      exact ⟨rest, rfl, (hhere.mem_iff _ _).mp hentry⟩
    · rintro ⟨rest, rfl, hinner⟩
      exact List.mem_map.mpr ⟨(rest, inner), (hhere.mem_iff _ _).mpr hinner, rfl⟩

mutual
/-- A walk meets the nodes in the order of their paths. -/
theorem exists_inOrder_walk : ∀ node : SyntaxNode, ∃ entries,
    InOrder (fun path inner => node.at? path = some inner) entries ∧
      entries.map Prod.snd = node.walk
  | .missing => by
    refine ⟨[], ⟨.nil, fun path inner => ⟨nofun, fun h => ?_⟩⟩, rfl⟩
    cases path <;> cases h
  | .node attributes body named others => by
    have hchildren : ∃ entries,
        InOrder (ReachedIn (children (.node attributes body named others)) 0) entries ∧
          entries.map Prod.snd = walkAll (children (.node attributes body named others)) := by
      rw [children]
      split
      · exact exists_inOrder_walkAll others 0
      · exact exists_inOrder_walkAll named 0
    obtain ⟨entries, horder, hwalk⟩ := hchildren
    exact ⟨_, horder.parent rfl, by rw [walk_eq_cons rfl, List.map_cons, hwalk]⟩
theorem exists_inOrder_walkAll : ∀ (nodes : List SyntaxNode) (first : Nat), ∃ entries,
    InOrder (ReachedIn nodes first) entries ∧ entries.map Prod.snd = walkAll nodes
  | [], first => by
    refine ⟨[], ⟨.nil, fun path inner => ⟨nofun, ?_⟩⟩, rfl⟩
    rintro ⟨number, rest, node, -, hnode, -⟩
    cases hnode
  | child :: nodes, first => by
    obtain ⟨here, hhere, hwalk⟩ := exists_inOrder_walk child
    obtain ⟨later, hlater, hwalkAll⟩ := exists_inOrder_walkAll nodes (first + 1)
    refine ⟨_, hhere.append hlater, ?_⟩
    rw [List.map_append, List.map_map, walkAll, ← hwalk, ← hwalkAll]
    rfl
end

theorem mem_walk_iff : inner ∈ node.walk ↔ ∃ path, node.at? path = some inner := by
  obtain ⟨entries, horder, hwalk⟩ := exists_inOrder_walk node
  rw [← hwalk, List.mem_map]
  constructor
  · rintro ⟨⟨path, other⟩, he, rfl⟩
    exact ⟨path, (horder.mem_iff _ _).mp he⟩
  · rintro ⟨path, hp⟩
    exact ⟨(path, inner), (horder.mem_iff _ _).mpr hp, rfl⟩

-- ---------------------------------------------------------------------------
-- Whole trees
-- ---------------------------------------------------------------------------

def HasKind (node : SyntaxNode) (name : String) : Prop := node.kind = .ok (.text name)

def StartsAtByte (node : SyntaxNode) (byte : Nat) : Prop :=
  node.attributes.map (·.startByte) = .ok (some (.int byte))

def StartsAtPoint (node : SyntaxNode) (row byte : Nat) : Prop :=
  node.attributes.map (·.startPoint) = .ok (some (.list [.int row, .int byte]))

/-- A node has all its attributes and starts on a row of the text, and so do its body and its
children, none of which is missing. -/
inductive IsWhole (text : List Char) : SyntaxNode → Prop
  | intro {attributes : NodeAttributes} {body : SyntaxNode} {named others : List SyntaxNode}
      {kind : String} {start row byte : Nat}
      (hkind : HasKind (.node attributes body named others) kind)
      (hstart : StartsAtByte (.node attributes body named others) start)
      (hpoint : StartsAtPoint (.node attributes body named others) row byte)
      (hrow : row < (rows text).length)
      (hbody : body.isMissing = false → IsWhole text body)
      (hchildren : ∀ child ∈ children (.node attributes body named others), IsWhole text child) :
      IsWhole text (.node attributes body named others)

/-- The body of a function is its own; without one, it is the first child of this kind. -/
inductive HasBody : SyntaxNode → SyntaxNode → Prop
  | own {attributes : NodeAttributes} {body : SyntaxNode} {named others : List SyntaxNode} :
      body.isMissing = false → HasBody (.node attributes body named others) body
  | child {attributes : NodeAttributes} {named others before after : List SyntaxNode}
      {body : SyntaxNode} :
      children (.node attributes .missing named others) = before ++ body :: after →
      body.HasKind "function_body" → (∀ earlier ∈ before, ¬earlier.HasKind "function_body") →
      HasBody (.node attributes .missing named others) body

variable {text : List Char} {kind : String}

theorem HasKind.unique {other : String} (h : node.HasKind kind) (ho : node.HasKind other) :
    kind = other := by
  cases h.symm.trans ho
  rfl

theorem HasKind.isKind (h : node.HasKind kind) : node.isKind name = .ok (kind = name) := by
  have hkind : node.kind = .ok (.text kind) := h
  rw [SyntaxNode.isKind, hkind]
  rfl

theorem HasKind.isAnyKind {names : List String} (h : node.HasKind kind) :
    node.isAnyKind names = .ok (names.contains kind) := by
  have hkind : node.kind = .ok (.text kind) := h
  rw [SyntaxNode.isAnyKind, hkind]
  rfl

theorem StartsAtByte.startByte {byte : Nat} (h : node.StartsAtByte byte) :
    node.startByte = .ok (some (byte : Int)) := by
  cases node with
  | missing => cases h
  | node attributes body named others =>
    have hstart : attributes.startByte = some (.int byte) := Except.ok.inj h
    simp [SyntaxNode.startByte, SyntaxNode.attributes, hstart, require, bound, Value.index?, bind,
      Except.bind]

theorem StartsAtByte.unique {byte other : Nat} (h : node.StartsAtByte byte)
    (ho : node.StartsAtByte other) : byte = other := by
  have he := h.startByte.symm.trans ho.startByte
  exact Int.ofNat.inj (Option.some.inj (Except.ok.inj he))

theorem StartsAtPoint.startPoint {row byte : Nat} (h : node.StartsAtPoint row byte) :
    node.startPoint = .ok (.int row, .int byte) := by
  cases node with
  | missing => cases h
  | node attributes body named others =>
    have hpoint : attributes.startPoint = some (.list [.int row, .int byte]) := Except.ok.inj h
    simp [SyntaxNode.startPoint, SyntaxNode.attributes, hpoint, require, bind, Except.bind, pure,
      Except.pure]

theorem IsWhole.hasKind (h : node.IsWhole text) : ∃ kind, node.HasKind kind := by
  cases h with
  | intro hkind => exact ⟨_, hkind⟩

theorem IsWhole.startsAtByte (h : node.IsWhole text) : ∃ byte, node.StartsAtByte byte := by
  cases h with
  | intro _ hstart => exact ⟨_, hstart⟩

theorem IsWhole.isMissing (h : node.IsWhole text) : node.isMissing = false := by
  cases h
  rfl

theorem IsWhole.children (h : node.IsWhole text) : ∀ child ∈ node.children, child.IsWhole text := by
  cases h with
  | intro _ _ _ _ _ hchildren => exact hchildren

theorem IsWhole.at? (h : node.IsWhole text) {path : List Nat} (hp : node.at? path = some inner) :
    inner.IsWhole text := by
  induction path generalizing node with
  | nil =>
    rw [SyntaxNode.at?, h.isMissing] at hp
    cases hp
    exact h
  | cons number path ih =>
    obtain ⟨child, hchild, hinner⟩ := Option.bind_eq_some_iff.mp hp
    exact ih (h.children child (List.mem_of_getElem? hchild)) hinner

theorem IsWhole.hasKind_of_mem_walk (h : node.IsWhole text) :
    ∀ inner ∈ node.walk, ∃ kind, inner.HasKind kind := by
  intro inner hi
  obtain ⟨path, hp⟩ := mem_walk_iff.mp hi
  exact (h.at? hp).hasKind

-- ---------------------------------------------------------------------------
-- Nodes of a kind
-- ---------------------------------------------------------------------------

open Classical in
theorem findKind?_eq_find? (h : ∀ node ∈ nodes, ∃ kind, node.HasKind kind) :
    findKind? name nodes = .ok (nodes.find? fun node => node.HasKind name) := by
  induction nodes with
  | nil => rfl
  | cons node nodes ih =>
    obtain ⟨⟨kind, hkind⟩, hnodes⟩ := List.forall_mem_cons.mp h
    rw [findKind?, hkind.isKind, List.find?_cons]
    by_cases hn : kind = name
    · subst hn
      simp [hkind, bind, Except.bind, pure, Except.pure]
    · have hother : ¬node.HasKind name := fun ho => hn (hkind.unique ho)
      simp [hn, hother, bind, Except.bind, ih hnodes]

theorem findKind?_eq_none_iff (h : ∀ node ∈ nodes, ∃ kind, node.HasKind kind) :
    findKind? name nodes = .ok none ↔ ∀ node ∈ nodes, ¬node.HasKind name := by
  classical
  rw [findKind?_eq_find? h, Except.ok.injEq, List.find?_eq_none]
  simp

theorem findKind?_eq_some_iff (h : ∀ node ∈ nodes, ∃ kind, node.HasKind kind) :
    findKind? name nodes = .ok (some inner) ↔ ∃ before after, nodes = before ++ inner :: after ∧
      inner.HasKind name ∧ ∀ earlier ∈ before, ¬earlier.HasKind name := by
  classical
  rw [findKind?_eq_find? h, Except.ok.injEq, List.find?_eq_some_iff_append]
  simp only [decide_eq_true_eq, Bool.not_eq_true', decide_eq_false_iff_not]
  constructor
  · rintro ⟨hinner, before, after, hsplit, hbefore⟩
    exact ⟨before, after, hsplit, hinner, hbefore⟩
  · rintro ⟨before, after, hsplit, hinner, hbefore⟩
    exact ⟨hinner, before, after, hsplit, hbefore⟩

theorem IsWhole.exists_bodyNode? (h : node.IsWhole text) :
    ∃ found, node.bodyNode? = .ok found ∧
      (∀ body, found = some body ↔ node.HasBody body) ∧ ∀ body ∈ found, body.IsWhole text := by
  cases h with
  | @intro attributes body named others _ _ _ _ _ _ _ _ hbody hchildren =>
    have hkinds : ∀ child ∈ SyntaxNode.children (.node attributes body named others),
        ∃ kind, child.HasKind kind := fun child hc => (hchildren child hc).hasKind
    rw [bodyNode?]
    cases hm : body.isMissing with
    | false =>
      refine ⟨some body, rfl, fun other => ⟨?_, fun ho => ?_⟩, ?_⟩
      · rintro ⟨⟩
        exact .own hm
      · cases ho with
        | own => rfl
        | child => cases hm
      · rintro other ⟨⟩
        exact hbody hm
    | true =>
      cases body with
      | node => cases hm
      | missing =>
        obtain ⟨found, hfound⟩ : ∃ found, findKind? "function_body"
            (SyntaxNode.children (.node attributes .missing named others)) = .ok found :=
          ⟨_, findKind?_eq_find? hkinds⟩
        have hsome (other : SyntaxNode) :
            found = some other ↔ HasBody (.node attributes .missing named others) other := by
          have hiff : findKind? "function_body"
              (SyntaxNode.children (.node attributes .missing named others)) = .ok (some other) ↔
                _ := findKind?_eq_some_iff hkinds
          rw [hfound, Except.ok.injEq] at hiff
          refine hiff.trans ⟨?_, fun ho => ?_⟩
          · rintro ⟨before, after, hsplit, hkind, hbefore⟩
            exact .child hsplit hkind hbefore
          · cases ho with
            | own ho => cases ho
            | child hsplit hkind hbefore => exact ⟨_, _, hsplit, hkind, hbefore⟩
        refine ⟨found, hfound, hsome, fun other ho => ?_⟩
        cases (hsome other).mp ho with
        | own hown => cases hown
        | child hsplit =>
          exact hchildren other (hsplit ▸ List.mem_append_right _ List.mem_cons_self)

end SyntaxNode

end SolidityLint
