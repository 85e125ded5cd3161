import SymbolSearch.Index.Basic
import SymbolSearch.Proofs.Key.Path

/-!
# Nodes of an index and symbols of an assembly

An index and an assembly go through the same trees, but the index leaves out subtrees whose
root cannot be listed. `Mirrors g declared t images` relates the two after the same trees:
`images` says for each node of the table `t` which symbol it stands for.

A node may stand for no symbol. If the first of several namespaces of one name is left out, the
assembly adds the members of the later ones to the symbol of the first, while the index makes
a node for a later one that may be listed. Such a node is shadowed: its ordinal or its arity
is that of no symbol (`IsShadowed`).

`mirrors_addTrees` keeps the relation along the building of both. It rests on three lemmas,
one for each way in which they advance: both add a declaration (`Mirrors.declare_hidden`,
`Mirrors.declare_listed`), only the assembly does (`mirrors_declareTrees_hidden`), or only the
index does (`addsGhosts`).
-/

set_option autoImplicit false

namespace SymbolSearch

open Assembly

/-! ## What can be listed -/

/-- A declaration that an index lists if it lists its container. -/
def Node.isListable (node : Node) : Bool :=
  !node.implicit && !node.accessor && node.kind.isDeclarable

/-- The symbol and all its containers below the global namespace can be listed. -/
def Symbol.isListed (s : Symbol) : Bool := (belowGlobal s.lineage).all Node.isListable

/-- A namespace without a container. -/
def Symbol.IsRoot (s : Symbol) : Prop := s.above = [] ∧ s.kind.isNamespace = true

theorem Symbol.IsRoot.isListed {g : Symbol} (h : g.IsRoot) : g.isListed = true := by
  rw [Symbol.isListed, Symbol.belowGlobal_lineage_global h.1 h.2]
  rfl

theorem Symbol.isListed_eq {s c : Symbol} (h : s.container? = some c) :
    s.isListed = (s.node.isListable && c.isListed) := by
  rw [Symbol.isListed, Symbol.belowGlobal_lineage h, List.all_cons, Symbol.isListed]

theorem newSymbol_isListed (declared : List Symbol) (id : Nat) (container : Symbol) (name : String)
    (kind : Kind) (arity : UInt32) (implicit accessor : Bool) :
    (newSymbol declared id container name kind arity implicit accessor).isListed =
      ((!implicit && !accessor && kind.isDeclarable) && container.isListed) :=
  Symbol.isListed_eq (newSymbol_container? declared id container name kind arity implicit accessor)

namespace Index

/-! ## Equations of the builder -/

@[simp] theorem addTrees_nil (parent : Option Nat) (t : Table) : addTrees parent [] t = t := rfl

@[simp] theorem addTrees_cons (parent : Option Nat) (d : Declaration) (ds : List Declaration)
    (t : Table) : addTrees parent (d :: ds) t = addTrees parent ds (addTree parent d t) := rfl

section AddTree

variable {parent : Option Nat} {name : String} {kind : Kind} (arity : UInt32)
  {implicit accessor : Bool} (children : List Declaration) {t : Table}

theorem addTree_found (hkind : kind.isNamespace = true) {i : Nat}
    (hfound : t.findNamespace? parent name = some i) :
    addTree parent ⟨name, kind, arity, implicit, accessor, children⟩ t =
      addTrees (some i) children t := by
  simp [addTree, hkind, hfound]

theorem addTree_skipped (hnew : kind.isNamespace = true → t.findNamespace? parent name = none)
    (hhidden : (!implicit && !accessor && kind.isDeclarable) = false) :
    addTree parent ⟨name, kind, arity, implicit, accessor, children⟩ t =
      t.count ⟨parent, name, kind, arity⟩ := by
  have hmatch : (if kind.isNamespace then t.findNamespace? parent name else none) = none := by
    split
    · exact hnew ‹_›
    · rfl
  -- the builder asks for the same three properties the other way round
  have hskip : (!kind.isDeclarable || implicit || accessor) = true := by
    revert hhidden
    cases kind.isDeclarable <;> cases implicit <;> cases accessor <;> decide
  simp [addTree, hmatch, hskip]

theorem addTree_pushed (hnew : kind.isNamespace = true → t.findNamespace? parent name = none)
    (hlisted : (!implicit && !accessor && kind.isDeclarable) = true) :
    addTree parent ⟨name, kind, arity, implicit, accessor, children⟩ t =
      addTrees (some t.nodes.length) children
        ⟨t.nodes ++ [⟨name, kind, arity, t.met.count ⟨parent, name, kind, arity⟩, parent⟩],
          ⟨parent, name, kind, arity⟩ :: t.met⟩ := by
  have hmatch : (if kind.isNamespace then t.findNamespace? parent name else none) = none := by
    split
    · exact hnew ‹_›
    · rfl
  have hkeep : (!kind.isDeclarable || implicit || accessor) = false := by
    revert hlisted
    cases kind.isDeclarable <;> cases implicit <;> cases accessor <;> decide
  simp [addTree, hmatch, hkeep, Table.count]

end AddTree

theorem findNamespace?_eq_some {t : Table} {parent : Option Nat} {name : String} {i : Nat}
    (h : t.findNamespace? parent name = some i) :
    ∃ node, t.nodes[i]? = some node ∧ node.kind.isNamespace = true ∧ node.parent = parent ∧
      node.name = name := by
  obtain ⟨hi, hnode, -⟩ := List.findIdx?_eq_some_iff_getElem.1 h
  simp only [Bool.and_eq_true, decide_eq_true_eq] at hnode
  exact ⟨t.nodes[i], List.getElem?_eq_getElem hi, hnode.1.1, hnode.1.2, hnode.2⟩

theorem findNamespace?_eq_none {t : Table} {parent : Option Nat} {name : String} :
    t.findNamespace? parent name = none ↔
      ∀ node ∈ t.nodes, node.kind.isNamespace = true → node.parent = parent →
        node.name ≠ name := by
  simp only [Table.findNamespace?, List.findIdx?_eq_none_iff, Bool.and_eq_false_imp,
    decide_eq_true_eq, decide_eq_false_iff_not, Bool.and_eq_true, and_imp]

/-! ## The relation -/

/-- The symbol that the declarations with a given parent have as container: none if the
parent stands for no symbol. -/
def holder (g : Symbol) (images : List (Option Symbol)) : Option Nat → Option Symbol
  | none => some g
  | some i => images[i]?.join

/-- The ordinal and the arity of a node are those of no symbol of the container: there is a
namespace of the node's name that cannot be listed. -/
def IsShadowed (declared : List Symbol) (c : Symbol) (node : IndexedDeclaration) : Prop :=
  ∃ hidden ∈ declared, hidden.container? = some c ∧ hidden.isListed = false ∧
    hidden.kind.isNamespace = true ∧ node.kind.isNamespace = true ∧ hidden.name = node.name ∧
    (hidden.arity = node.arity → 0 < node.ordinal)

/-- A node stands for a symbol, or for none. -/
def Stands (g : Symbol) (declared : List Symbol) (images : List (Option Symbol))
    (node : IndexedDeclaration) : Option Symbol → Prop
  | some s => ∃ c, holder g images node.parent = some c ∧ s.container? = some c ∧
      s.node.name = node.name ∧ s.node.kind = node.kind ∧ s.node.arity = node.arity ∧
      s.node.ordinal = node.ordinal
  | none => ∀ c, holder g images node.parent = some c → IsShadowed declared c node

/-- The declarations that an index has met agree with the members of the containers `held`.
Namespaces are met again where an assembly merges them, so for them only whether there are any
is known. -/
structure Counts (held : Option Nat → Option Symbol) (declared : List Symbol)
    (met : List Likeness) : Prop where
  eq_members : ∀ p c, held p = some c → ∀ name kind arity, kind.isNamespace = false →
    met.count ⟨p, name, kind, arity⟩ = (membersIn declared c.id).countP fun m =>
      m.name = name && m.kind = kind && m.arity = arity
  eq_zero : ∀ p c, held p = some c → ∀ name kind arity, kind.isNamespace = true →
    existingNamespace? declared c name = none → met.count ⟨p, name, kind, arity⟩ = 0
  pos : ∀ p c, held p = some c → ∀ s ∈ declared, s.containerId? = some c.id →
    s.kind.isNamespace = true → 0 < met.count ⟨p, s.name, s.kind, s.arity⟩

/-- The table of an index and the symbols of an assembly after the same trees. -/
structure Mirrors (g : Symbol) (declared : List Symbol) (t : Table)
    (images : List (Option Symbol)) : Prop where
  length_eq : images.length = t.nodes.length
  /-- The nodes stand for the listed symbols, in order. -/
  listed : images.filterMap id = declared.filter Symbol.isListed
  parent_lt : ∀ (i : Nat) (node : IndexedDeclaration) (p : Nat), t.nodes[i]? = some node →
    node.parent = some p → p < i
  stands : ∀ (i : Nat) (node : IndexedDeclaration) (image : Option Symbol),
    t.nodes[i]? = some node → images[i]? = some image → Stands g declared images node image
  met_lt : ∀ like ∈ t.met, ∀ p : Nat, like.parent = some p → p < t.nodes.length
  counts : Counts (holder g images) declared t.met

theorem mirrors_nil (g : Symbol) : Mirrors g [] ⟨[], []⟩ [] where
  length_eq := rfl
  listed := rfl
  parent_lt := by simp
  stands := by simp
  met_lt := by simp
  counts := by constructor <;> simp

/-! ## Holders -/

section Holder

variable {g : Symbol} {images : List (Option Symbol)}

theorem getElem?_concat_eq_some {α : Type} {l : List α} {a b : α} {i : Nat}
    (h : (l ++ [a])[i]? = some b) : l[i]? = some b ∨ (i = l.length ∧ a = b) := by
  -- the position is one of the list or the next one
  rcases Nat.lt_trichotomy i l.length with hlt | rfl | hgt
  · rw [List.getElem?_append_left hlt] at h
    exact Or.inl h
  · rw [List.getElem?_concat_length, Option.some.injEq] at h
    exact Or.inr ⟨rfl, h⟩
  · rw [List.getElem?_eq_none (by simpa [Nat.succ_le_iff] using hgt)] at h
    exact absurd h (by simp)

theorem holder_concat_none : holder g (images ++ [none]) = holder g images := by
  funext p
  cases p with
  | none => rfl
  | some i =>
      simp only [holder, List.getElem?_append, List.getElem?_singleton]
      split
      · rfl
      · rw [List.getElem?_eq_none (by omega)]
        split <;> rfl

theorem holder_lt {p : Nat} {c : Symbol} (h : holder g images (some p) = some c) :
    p < images.length := by
  by_contra hge
  rw [holder, List.getElem?_eq_none (by omega)] at h
  simp at h

theorem holder_append_of_lt {p : Option Nat} (h : ∀ i, p = some i → i < images.length)
    (more : List (Option Symbol)) : holder g (images ++ more) p = holder g images p := by
  cases p with
  | none => rfl
  | some i => rw [holder, holder, List.getElem?_append_left (h i rfl)]

theorem holder_append {p : Option Nat} {c : Symbol} (h : holder g images p = some c)
    (more : List (Option Symbol)) : holder g (images ++ more) p = some c := by
  rw [holder_append_of_lt, h]
  rintro i rfl
  exact holder_lt h

theorem holder_concat_some (s : Symbol) (p : Option Nat) :
    holder g (images ++ [some s]) p =
      if p = some images.length then some s else holder g images p := by
  cases p with
  | none => rfl
  | some i =>
      simp only [holder, Option.some.injEq]
      split
      next h => simp [h]
      next h =>
        rcases Nat.lt_or_gt_of_ne h with hlt | hgt
        · rw [List.getElem?_append_left hlt]
        · rw [List.getElem?_eq_none (by simpa [Nat.succ_le_iff] using hgt),
            List.getElem?_eq_none (by omega)]

theorem holder_eq_some {p : Nat} {c : Symbol} :
    holder g images (some p) = some c ↔ images[p]? = some (some c) := by
  rw [holder, Option.join_eq_some_iff]

end Holder

end Index

end SymbolSearch
