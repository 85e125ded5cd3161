import SymbolSearch.Proofs.Assembly.Growth

/-!
# One source in several assemblies

Assemblies that are built of the same trees have different symbols for the same declarations. A
symbol and its counterpart differ in the compilation and the assembly that they belong to and by
a shift of all numbers, and in nothing else: building commutes with moving all symbols to another
place (`Assembly.declareTrees_move`, `Assembly.declared_build_move`). Where the place in the
compilation is the same too, only the compilation differs (`Assembly.declared_build_relabel`).
-/

set_option autoImplicit false

namespace SymbolSearch

/-- The same link with its number moved up. -/
def Node.shift (k : Nat) (node : Node) : Node := { node with id := node.id + k }

theorem Node.shift_zero (node : Node) : node.shift 0 = node := rfl

theorem belowGlobal_map_shift (k : Nat) (chain : List Node) :
    belowGlobal (chain.map (Node.shift k)) = (belowGlobal chain).map (Node.shift k) := by
  induction chain with
  | nil => rfl
  | cons node above ih =>
      cases above with
      | nil =>
          have hkind : (node.shift k).kind.isNamespace = node.kind.isNamespace := rfl
          simp only [List.map_cons, List.map_nil, belowGlobal, hkind]
          split
          · rfl
          · rfl
      | cons next above => exact congrArg (node.shift k :: ·) ih

namespace Symbol

/-- The counterpart of a symbol in another compilation. -/
def relabel (id : CompilationId) (s : Symbol) : Symbol := { s with compilation := id }

/-- The counterpart of a symbol in an assembly at another place, where all numbers are larger by
`k`. -/
def move (id : CompilationId) (ordinal k : Nat) (s : Symbol) : Symbol :=
  ⟨id, some ordinal, s.node.shift k, s.above.map (Node.shift k)⟩

section Move

variable (id : CompilationId) (ordinal k : Nat) (s : Symbol)

@[simp] theorem move_id : (s.move id ordinal k).id = s.id + k := rfl

@[simp] theorem move_name : (s.move id ordinal k).name = s.name := rfl

@[simp] theorem move_kind : (s.move id ordinal k).kind = s.kind := rfl

theorem belowGlobal_lineage_move :
    belowGlobal (s.move id ordinal k).lineage = (belowGlobal s.lineage).map (Node.shift k) :=
  belowGlobal_map_shift k s.lineage

/-- What is moved to the same place in another compilation changes its compilation only. -/
theorem move_eq_relabel (h : s.assembly = some ordinal) : s.move id ordinal 0 = s.relabel id := by
  have habove : s.above.map (Node.shift 0) = s.above := List.map_id s.above
  rw [move, relabel, Node.shift_zero, habove, h]

end Move

end Symbol

namespace Assembly

section Move

variable (id : CompilationId) (ordinal k : Nat) (declared : List Symbol) (container : Symbol)

theorem membersIn_move (n : Nat) :
    membersIn (declared.map (Symbol.move id ordinal k)) (n + k) =
      (membersIn declared n).map (Symbol.move id ordinal k) := by
  -- shifting all numbers keeps who is whose container
  have hcontainer : ∀ s : Symbol,
      (s.move id ordinal k).containerId? = some (n + k) ↔ s.containerId? = some n := by
    intro s
    cases habove : s.above with
    | nil => simp [Symbol.containerId?, Symbol.move, habove]
    | cons node above => simp [Symbol.containerId?, Symbol.move, habove, Node.shift]
  rw [membersIn, membersIn, List.filter_map]
  congr 1
  apply List.filter_congr
  intro s _
  simp only [Function.comp_apply, hcontainer]

theorem existingNamespace?_move (name : String) :
    existingNamespace? (declared.map (Symbol.move id ordinal k)) (container.move id ordinal k)
        name =
      (existingNamespace? declared container name).map (Symbol.move id ordinal k) := by
  rw [existingNamespace?, Symbol.move_id, membersIn_move, List.find?_map]
  rfl

theorem newSymbol_move (n : Nat) (name : String) (kind : Kind) (arity : UInt32)
    (implicit accessor : Bool) :
    newSymbol (declared.map (Symbol.move id ordinal k)) (n + k) (container.move id ordinal k) name
        kind arity implicit accessor =
      (newSymbol declared n container name kind arity implicit accessor).move id ordinal k := by
  simp only [newSymbol, Symbol.move_id, membersIn_move, List.countP_map]
  rfl

theorem declare_move (firstId : Nat) (name : String) (kind : Kind) (arity : UInt32)
    (implicit accessor : Bool) :
    declare (firstId + k) (container.move id ordinal k) name kind arity implicit accessor
        (declared.map (Symbol.move id ordinal k)) =
      ((declare firstId container name kind arity implicit accessor declared).1.move id ordinal k,
        (declare firstId container name kind arity implicit accessor declared).2.map
          (Symbol.move id ordinal k)) := by
  rcases declare_cases firstId container name kind arity implicit accessor declared with
    ⟨existing, hkind, hfound, heq⟩ | ⟨hnew, heq⟩
  · -- the namespace is found at the same place
    rw [heq, declare, if_pos hkind, existingNamespace?_move, hfound]
    rfl
  · -- there is no such namespace on either side
    have hnone : (if kind.isNamespace then
        existingNamespace? (declared.map (Symbol.move id ordinal k)) (container.move id ordinal k)
          name else none) = none := by
      cases hkind : kind.isNamespace with
      | false => rfl
      | true => rw [if_pos rfl, existingNamespace?_move, hnew hkind, Option.map_none]
    have hnext : firstId + k + 1 + declared.length = firstId + 1 + declared.length + k := by omega
    rw [heq, declare, hnone, List.map_append, List.map_singleton, List.length_map, hnext,
      newSymbol_move]

theorem declareTrees_move (firstId : Nat) (ds : List Declaration) :
    declareTrees (firstId + k) (container.move id ordinal k) ds
        (declared.map (Symbol.move id ordinal k)) =
      (declareTrees firstId container ds declared).map (Symbol.move id ordinal k) := by
  induction ds using Declaration.forest_induction generalizing container declared with
  | nil => rfl
  | cons name kind arity implicit accessor children rest ihChildren ihRest =>
      rw [declareTrees_cons, declareTrees_cons, declare_move, ihChildren, ihRest]

end Move

/-- **Assemblies that are built of the same trees have the same symbols, up to their place.** -/
theorem declared_build_move (id id' : CompilationId) (ordinal ordinal' : Nat) (name name' : String)
    (origin origin' : Origin) (firstId k : Nat) (roots : List Declaration) :
    (build id' ordinal' name' origin' (firstId + k) roots).declared =
      (build id ordinal name origin firstId roots).declared.map (Symbol.move id' ordinal' k) := by
  rw [declared_build, declared_build]
  exact declareTrees_move id' ordinal' k [] ⟨id, some ordinal, .global firstId, []⟩ firstId roots

/-- Assemblies that are built of the same trees at the same place have the same symbols, up to
the compilation. -/
theorem declared_build_relabel (id id' : CompilationId) (ordinal : Nat) (name name' : String)
    (origin origin' : Origin) (firstId : Nat) (roots : List Declaration) :
    (build id' ordinal name' origin' firstId roots).declared =
      (build id ordinal name origin firstId roots).declared.map (Symbol.relabel id') := by
  rw [← Nat.add_zero firstId, declared_build_move id id' ordinal ordinal name name' origin origin',
    Nat.add_zero]
  apply List.map_congr_left
  intro s hs
  have howner := Grown.owner (grown_build id ordinal name origin firstId roots) s
    (List.mem_cons_of_mem _ hs)
  exact Symbol.move_eq_relabel id' ordinal s howner.2

end Assembly

end SymbolSearch
