import SymbolSearch.Assembly
import SymbolSearch.Proofs.Declaration
import Mathlib.Logic.Basic

/-!
# The tables of an assembly

While trees are declared, tables keep the next number, the members and the namespaces of each
container, and how many like members it has. All of this can be read off the list of declared
symbols: `membersIn` filters it, `existingNamespace?` looks for a namespace, `newSymbol` counts the
like members, and `declareTrees` goes through the trees with nothing but the list.

The table of members is part of an assembly, which holds what it lists by construction. For all
tables, `Tables.Agrees` says that they hold what the list says. Declaring one symbol keeps that
(`Tables.Agrees.declare`), and so does the way through any trees (`Tables.Agrees.addTrees`). What is
built is therefore determined by the list (`declared_build`, `members_build`, `buildFrom_eq`), and
what is known of `declareTrees` is known of the assembly.
-/

set_option autoImplicit false

namespace SymbolSearch

theorem Kind.isNamespace_iff {kind : Kind} :
    kind.isNamespace = true ↔ kind = .nameSpace := by
  cases kind <;> simp [Kind.isNamespace]

namespace Assembly

/-! ## What the declared symbols say -/

@[simp] theorem membersIn_nil (k : Nat) : membersIn [] k = [] := rfl

theorem mem_membersIn {declared : List Symbol} {k : Nat} {s : Symbol} :
    s ∈ membersIn declared k ↔ s ∈ declared ∧ s.containerId? = some k := by
  simp [membersIn]

theorem membersIn_cons (s : Symbol) (declared : List Symbol) (k : Nat) :
    membersIn (s :: declared) k =
      if s.containerId? = some k then s :: membersIn declared k else membersIn declared k := by
  simp only [membersIn, List.filter_cons, decide_eq_true_eq]

theorem membersIn_append (declared more : List Symbol) (k : Nat) :
    membersIn (declared ++ more) k = membersIn declared k ++ membersIn more k := by
  simp [membersIn]

theorem membersIn_append_singleton (declared : List Symbol) (s : Symbol) (k : Nat) :
    membersIn (declared ++ [s]) k =
      if s.containerId? = some k then membersIn declared k ++ [s] else membersIn declared k := by
  rw [membersIn_append]
  by_cases h : s.containerId? = some k
  · simp [membersIn, h]
  · simp [membersIn, h]

/-- The symbol of a new declaration with the number `id`, after the symbols declared so far. -/
def newSymbol (declared : List Symbol) (id : Nat) (container : Symbol) (name : String)
    (kind : Kind) (arity : UInt32) (implicit accessor : Bool) : Symbol :=
  let ordinal := (membersIn declared container.id).countP fun m =>
    m.name = name && m.kind = kind && m.arity = arity
  ⟨container.compilation, container.assembly, ⟨id, name, kind, arity, ordinal, implicit, accessor⟩,
    container.lineage⟩

/-- The namespace with a name that a container already has. -/
def existingNamespace? (declared : List Symbol) (container : Symbol) (name : String) :
    Option Symbol :=
  (membersIn declared container.id).find? fun m => m.kind.isNamespace && m.name = name

/-- The symbol of a declaration, and the symbols declared so far together with it. -/
def declare (firstId : Nat) (container : Symbol) (name : String) (kind : Kind) (arity : UInt32)
    (implicit accessor : Bool) (declared : List Symbol) : Symbol × List Symbol :=
  match (if kind.isNamespace then existingNamespace? declared container name else none) with
  | some existing => (existing, declared)
  | none =>
      let s := newSymbol declared (firstId + 1 + declared.length) container name kind arity implicit
        accessor
      (s, declared ++ [s])

mutual

/-- Declare a tree inside a container, after the symbols declared so far. -/
def declareTree (firstId : Nat) (container : Symbol) :
    Declaration → List Symbol → List Symbol
  | ⟨name, kind, arity, implicit, accessor, children⟩, declared =>
      let (s, declared) := declare firstId container name kind arity implicit accessor declared
      declareTrees firstId s children declared

/-- Declare trees one after the other inside a container. -/
def declareTrees (firstId : Nat) (container : Symbol) :
    List Declaration → List Symbol → List Symbol
  | [], declared => declared
  | d :: ds, declared =>
      declareTrees firstId container ds (declareTree firstId container d declared)

end

section NewSymbol

variable (declared : List Symbol) (id : Nat) (container : Symbol) (name : String) (kind : Kind)
  (arity : UInt32) (implicit accessor : Bool)

@[simp] theorem newSymbol_id :
    (newSymbol declared id container name kind arity implicit accessor).id = id := rfl

@[simp] theorem newSymbol_name :
    (newSymbol declared id container name kind arity implicit accessor).name = name := rfl

@[simp] theorem newSymbol_kind :
    (newSymbol declared id container name kind arity implicit accessor).kind = kind := rfl

@[simp] theorem newSymbol_arity :
    (newSymbol declared id container name kind arity implicit accessor).arity = arity := rfl

@[simp] theorem newSymbol_container? :
    (newSymbol declared id container name kind arity implicit accessor).container? =
      some container := rfl

@[simp] theorem newSymbol_containerId? :
    (newSymbol declared id container name kind arity implicit accessor).containerId? =
      some container.id := rfl

@[simp] theorem newSymbol_compilation :
    (newSymbol declared id container name kind arity implicit accessor).compilation =
      container.compilation := rfl

@[simp] theorem newSymbol_assembly :
    (newSymbol declared id container name kind arity implicit accessor).assembly =
      container.assembly := rfl

theorem newSymbol_ordinal :
    (newSymbol declared id container name kind arity implicit accessor).ordinal =
      ((membersIn declared container.id).filter fun m =>
        m.name = name && m.kind = kind && m.arity = arity).length := by
  rw [← List.countP_eq_length_filter]
  rfl

end NewSymbol

/-- Declaring either finds a namespace that is there already or appends a new symbol. -/
theorem declare_cases (firstId : Nat) (container : Symbol) (name : String) (kind : Kind)
    (arity : UInt32) (implicit accessor : Bool) (declared : List Symbol) :
    (∃ existing, kind.isNamespace = true ∧
      existingNamespace? declared container name = some existing ∧
      declare firstId container name kind arity implicit accessor declared =
        (existing, declared)) ∨
    ((kind.isNamespace = true → existingNamespace? declared container name = none) ∧
      declare firstId container name kind arity implicit accessor declared =
        (newSymbol declared (firstId + 1 + declared.length) container name kind arity implicit
            accessor,
          declared ++ [newSymbol declared (firstId + 1 + declared.length) container name kind
            arity implicit accessor])) := by
  cases hkind : kind.isNamespace with
  | false =>
      refine Or.inr ⟨fun h => absurd h (by simp), ?_⟩
      simp [declare, hkind]
  | true =>
      cases hfound : existingNamespace? declared container name with
      | some existing =>
          exact Or.inl ⟨existing, rfl, rfl, by simp [declare, hkind, hfound]⟩
      | none =>
          refine Or.inr ⟨fun _ => rfl, ?_⟩
          simp [declare, hkind, hfound]

theorem existingNamespace?_eq_some {declared : List Symbol} {container e : Symbol}
    {name : String} (h : existingNamespace? declared container name = some e) :
    e ∈ declared ∧ e.containerId? = some container.id ∧ e.kind.isNamespace = true ∧
      e.name = name := by
  have hmem := List.mem_of_find?_eq_some h
  have hprop := List.find?_some h
  rw [mem_membersIn] at hmem
  simp only [Bool.and_eq_true, decide_eq_true_eq] at hprop
  exact ⟨hmem.1, hmem.2, hprop.1, hprop.2⟩

theorem existingNamespace?_eq_none {declared : List Symbol} {container : Symbol}
    {name : String} :
    existingNamespace? declared container name = none ↔
      ∀ s ∈ declared, s.containerId? = some container.id → s.kind.isNamespace = true →
        s.name ≠ name := by
  simp only [existingNamespace?, List.find?_eq_none, mem_membersIn, Bool.and_eq_true,
    decide_eq_true_eq, not_and, and_imp]

/-- A symbol more is found as a namespace if it is one. -/
theorem existingNamespace?_append_singleton (declared : List Symbol) (s container : Symbol)
    (name : String) :
    existingNamespace? (declared ++ [s]) container name =
      (existingNamespace? declared container name).or
        (if s.containerId? = some container.id ∧ s.kind.isNamespace = true ∧ s.name = name then
          some s else none) := by
  rw [existingNamespace?, existingNamespace?, membersIn_append_singleton]
  by_cases hcont : s.containerId? = some container.id
  · simp [hcont, List.find?_append, List.find?_singleton]
  · simp [hcont]

/-- The symbol of a declaration is among the symbols declared together with it, with the name and
the kind of the declaration. -/
theorem declare_mem (firstId : Nat) (container : Symbol) (name : String) (kind : Kind)
    (arity : UInt32) (implicit accessor : Bool) (declared : List Symbol) :
    (declare firstId container name kind arity implicit accessor declared).1 ∈
        (declare firstId container name kind arity implicit accessor declared).2 ∧
      (declare firstId container name kind arity implicit accessor declared).1.name = name ∧
      (declare firstId container name kind arity implicit accessor declared).1.kind = kind := by
  rcases declare_cases firstId container name kind arity implicit accessor declared with
    ⟨existing, hkind, hfound, heq⟩ | ⟨-, heq⟩
  · -- an existing namespace has the name, and there is one kind of namespaces
    obtain ⟨hmem, -, hexisting, hname⟩ := existingNamespace?_eq_some hfound
    rw [heq, Kind.isNamespace_iff.1 hkind, Kind.isNamespace_iff.1 hexisting]
    exact ⟨hmem, hname, rfl⟩
  · rw [heq]
    exact ⟨List.mem_append_right _ List.mem_cons_self, rfl, rfl⟩

@[simp] theorem declareTrees_nil (firstId : Nat) (container : Symbol) (declared : List Symbol) :
    declareTrees firstId container [] declared = declared := rfl

theorem declareTrees_cons (firstId : Nat) (container : Symbol) (name : String) (kind : Kind)
    (arity : UInt32) (implicit accessor : Bool) (children ds : List Declaration)
    (declared : List Symbol) :
    declareTrees firstId container (⟨name, kind, arity, implicit, accessor, children⟩ :: ds)
        declared =
      declareTrees firstId container ds
        (declareTrees firstId
          (declare firstId container name kind arity implicit accessor declared).1 children
          (declare firstId container name kind arity implicit accessor declared).2) := rfl

/-! ## Tables -/

/-- The table of members after one more symbol. -/
def addMember (table : List (Nat × List Symbol)) (s : Symbol) : List (Nat × List Symbol) :=
  match s.containerId? with
  | none => table
  | some container => alterAt container (fun held => held.getD [] ++ [s]) table

/-- The table of members when the given symbols have been declared in turn. -/
def memberTable (declared : List Symbol) : List (Nat × List Symbol) := declared.foldl addMember []

/-! ## Agreement -/

namespace Tables

/-- The tables hold what the symbols say that are declared below the global namespace `g`. -/
structure Agrees (g : Symbol) (t : Tables) : Prop where
  compilation : t.arena.compilation = g.compilation
  nextId : t.arena.nextId = g.id + 1 + t.declared.length
  assembly : some t.ordinal = g.assembly
  owner : ∀ s ∈ t.declared, s.compilation = g.compilation ∧ s.assembly = g.assembly
  members : t.members = memberTable t.declared
  namespaces : ∀ (container : Symbol) (name : String),
    t.namespaces.lookup (container.id, name) = existingNamespace? t.declared container name
  siblings : ∀ (container : Nat) (name : String) (kind : Kind) (arity : UInt32),
    (t.siblings.lookup (container, name, kind, arity)).getD 0 =
      (membersIn t.declared container).countP fun m =>
        m.name = name && m.kind = kind && m.arity = arity

section Step

variable {g container : Symbol} {t : Tables}

/-- A new namespace goes to the namespaces of its container. -/
theorem Agrees.namespaces_alterAt (h : t.Agrees g) {s : Symbol}
    (hcont : s.containerId? = some container.id) (hkind : s.kind.isNamespace = true)
    (hnone : existingNamespace? t.declared container s.name = none) (other : Symbol)
    (name : String) :
    (alterAt (container.id, s.name) (fun _ => s) t.namespaces).lookup (other.id, name) =
      existingNamespace? (t.declared ++ [s]) other name := by
  rw [existingNamespace?_append_singleton, hcont]
  by_cases hkey : (other.id, name) = (container.id, s.name)
  · -- there was none of this name, so the new one is found
    rw [hkey, lookup_alterAt_self]
    obtain ⟨hid, rfl⟩ := Prod.mk.inj hkey
    have hother : existingNamespace? t.declared other s.name = none := by
      rw [existingNamespace?, hid]
      exact hnone
    rw [hother, Option.none_or, if_pos ⟨congrArg some hid.symm, hkind, rfl⟩]
  · rw [lookup_alterAt_of_ne _ _ _ hkey, h.namespaces, if_neg, Option.or_none]
    rintro ⟨hid, -, rfl⟩
    exact hkey (by rw [Option.some.inj hid])

/-- A new symbol is counted among the like members of its container. -/
theorem Agrees.siblings_alterAt (h : t.Agrees g) {s : Symbol} {k : Nat}
    (hcont : s.containerId? = some k) (other : Nat) (name : String) (kind : Kind)
    (arity : UInt32) :
    ((alterAt (k, s.name, s.kind, s.arity) (fun count => count.getD 0 + 1) t.siblings).lookup
        (other, name, kind, arity)).getD 0 =
      (membersIn (t.declared ++ [s]) other).countP fun m =>
        m.name = name && m.kind = kind && m.arity = arity := by
  rw [membersIn_append_singleton, hcont]
  by_cases hlike : (other, name, kind, arity) = (k, s.name, s.kind, s.arity)
  · simp only [Prod.mk.injEq] at hlike
    obtain ⟨rfl, rfl, rfl, rfl⟩ := hlike
    simp [h.siblings]
  · rw [lookup_alterAt_of_ne _ _ _ hlike, h.siblings]
    by_cases hk : k = other
    · -- a member of the same container that is not alike
      have hunlike : ¬(s.name = name ∧ s.kind = kind ∧ s.arity = arity) := by
        rintro ⟨rfl, rfl, rfl⟩
        exact hlike (by rw [hk])
      simpa [hk, List.countP_append] using hunlike
    · rw [if_neg (by simpa using hk)]

variable (container) (name : String) (kind : Kind) (arity : UInt32) (implicit accessor : Bool)

/-- The new symbol is the one that the list of declared symbols asks for. -/
theorem Agrees.newSymbol_eq (h : t.Agrees g)
    (hc : container.compilation = g.compilation ∧ container.assembly = g.assembly) :
    (t.newSymbol container name kind arity implicit accessor).1 =
      Assembly.newSymbol t.declared (g.id + 1 + t.declared.length) container name kind arity
        implicit accessor := by
  simp only [newSymbol, Arena.alloc, Assembly.newSymbol, h.compilation, h.nextId, h.assembly,
    h.siblings, hc.1, hc.2, Option.map_some, Option.getD_some]

/-- The tables still agree when they have taken in a new symbol, if the namespaces do. -/
theorem Agrees.newSymbol (h : t.Agrees g) (namespaces : List ((Nat × String) × Symbol))
    (hnamespaces : ∀ (other : Symbol) (name' : String),
      namespaces.lookup (other.id, name') =
        existingNamespace? (t.declared ++
          [(t.newSymbol container name kind arity implicit accessor).1]) other name') :
    Agrees g { (t.newSymbol container name kind arity implicit accessor).2 with
      namespaces := namespaces } where
  compilation := h.compilation
  nextId := by
    simp only [Tables.newSymbol, Arena.alloc, h.nextId, List.length_append, List.length_singleton]
    omega
  assembly := h.assembly
  owner := by
    intro s hs
    rcases List.mem_append.1 hs with hs | hs
    · exact h.owner s hs
    · rw [List.mem_singleton.1 hs]
      exact ⟨h.compilation, h.assembly⟩
  members := by
    change alterAt container.id _ t.members = (t.declared ++ [_]).foldl addMember []
    rw [List.foldl_append, h.members]
    rfl
  namespaces := hnamespaces
  siblings := h.siblings_alterAt (s := (t.newSymbol container name kind arity implicit accessor).1)
    rfl

/-- Declaring keeps the tables in agreement and does to the list what it does to them. -/
theorem Agrees.declare (h : t.Agrees g)
    (hc : container.compilation = g.compilation ∧ container.assembly = g.assembly) :
    (t.declare container name kind arity implicit accessor).2.Agrees g ∧
      ((t.declare container name kind arity implicit accessor).1,
          (t.declare container name kind arity implicit accessor).2.declared) =
        Assembly.declare g.id container name kind arity implicit accessor t.declared := by
  have hsymbol := h.newSymbol_eq container name kind arity implicit accessor hc
  cases hkind : kind.isNamespace with
  | false =>
      -- the new symbol is no namespace, so the table of these stays right
      have hagrees := h.newSymbol container name kind arity implicit accessor
        t.namespaces (by
          intro other name'
          rw [hsymbol, existingNamespace?_append_singleton, newSymbol_kind, hkind, h.namespaces]
          simp)
      rw [Tables.declare, Assembly.declare, hkind]
      exact ⟨hagrees, by rw [← hsymbol]; rfl⟩
  | true =>
      cases hfound : existingNamespace? t.declared container name with
      | some existing =>
          have heq : t.declare container name kind arity implicit accessor = (existing, t) := by
            simp [Tables.declare, hkind, h.namespaces, hfound]
          rw [heq]
          exact ⟨h, by simp [Assembly.declare, hkind, hfound]⟩
      | none =>
          have hnew : t.declare container name kind arity implicit accessor =
              ((t.newSymbol container name kind arity implicit accessor).1,
                { (t.newSymbol container name kind arity implicit accessor).2 with
                  namespaces := alterAt (container.id, name)
                    (fun _ => (t.newSymbol container name kind arity implicit accessor).1)
                    t.namespaces }) := by
            simp only [Tables.declare, hkind, if_true, h.namespaces, hfound]
            rfl
          rw [hnew]
          refine ⟨h.newSymbol container name kind arity implicit accessor _ ?_, ?_⟩
          · exact h.namespaces_alterAt (s := (t.newSymbol container name kind arity implicit
              accessor).1) rfl hkind hfound
          · simp only [Assembly.declare, hkind, if_true, hfound, ← hsymbol]
            rfl

end Step

/-- Going through trees keeps the tables in agreement and does to the list what it does to them. -/
theorem Agrees.addTrees {g : Symbol} (ds : List Declaration) :
    ∀ (container : Symbol) (t : Tables), t.Agrees g →
      container.compilation = g.compilation ∧ container.assembly = g.assembly →
      (Tables.addTrees container ds t).Agrees g ∧
        (Tables.addTrees container ds t).declared =
          declareTrees g.id container ds t.declared := by
  induction ds using Declaration.forest_induction with
  | nil => exact fun _ _ h _ => ⟨h, rfl⟩
  | cons name kind arity implicit accessor children rest ihChildren ihRest =>
      intro container t h hc
      obtain ⟨h₁, hview⟩ := h.declare container name kind arity implicit accessor hc
      have hmem := (declare_mem g.id container name kind arity implicit accessor t.declared).1
      rw [declareTrees_cons]
      rw [← hview] at hmem ⊢
      -- the symbol of the head is declared, so it can hold the members of the head
      obtain ⟨h₂, hchildren⟩ := ihChildren _ _ h₁ (h₁.owner _ hmem)
      obtain ⟨h₃, hrest⟩ := ihRest container _ h₂ hc
      rw [hchildren] at hrest
      exact ⟨h₃, hrest⟩

end Tables

/-! ## Built assemblies -/

/-- The number after those of the assembly's symbols. -/
def nextId (a : Assembly) : Nat := a.firstId + 1 + a.declared.length

section Build

variable (compilation : CompilationId) (ordinal : Nat) (name : String) (origin : Origin)
  (firstId : Nat) (roots : List Declaration)

/-- Before the first tree, the tables are empty and so is the list. -/
theorem agrees_empty :
    Tables.Agrees ⟨compilation, some ordinal, .global firstId, []⟩
      (.empty ⟨compilation, firstId + 1⟩ ordinal) where
  compilation := rfl
  nextId := rfl
  assembly := rfl
  owner := fun _ hs => absurd hs List.not_mem_nil
  members := rfl
  namespaces := fun _ _ => rfl
  siblings := fun _ _ _ _ => rfl

/-- The declared symbols of an assembly are those that the list alone leads to. -/
theorem declared_build :
    (build compilation ordinal name origin firstId roots).declared =
      declareTrees firstId ⟨compilation, some ordinal, .global firstId, []⟩ roots [] :=
  (Tables.Agrees.addTrees roots _ _ (agrees_empty compilation ordinal firstId) ⟨rfl, rfl⟩).2

/-- The members of an assembly are those among its declared symbols. -/
theorem members_build :
    (build compilation ordinal name origin firstId roots).members =
      memberTable (build compilation ordinal name origin firstId roots).declared :=
  (Tables.Agrees.addTrees roots _ _ (agrees_empty compilation ordinal firstId)
    ⟨rfl, rfl⟩).1.members

/-- Building takes the numbers of the assembly's symbols from the arena. -/
theorem buildFrom_eq :
    buildFrom ⟨compilation, firstId⟩ ordinal name origin roots =
      (build compilation ordinal name origin firstId roots,
        ⟨compilation, (build compilation ordinal name origin firstId roots).nextId⟩) := by
  have hagrees := (Tables.Agrees.addTrees roots _ _ (agrees_empty compilation ordinal firstId)
    ⟨rfl, rfl⟩).1
  -- the arena is left with the compilation that it had and the number that the tables agree on
  exact Prod.ext rfl (congrArg₂ Arena.mk hagrees.compilation hagrees.nextId)

end Build

end Assembly

end SymbolSearch
