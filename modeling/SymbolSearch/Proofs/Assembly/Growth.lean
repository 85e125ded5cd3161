import SymbolSearch.Proofs.Assembly.Tables
import Mathlib.Data.List.Nodup

/-!
# Growth of an assembly

An assembly is built by declaring one symbol after the other. `Grown g declared` presents the
lists of symbols that can arise so below a global namespace `g`: each new symbol is put into
the global namespace or into an earlier symbol, and a namespace is new only if its container
has none of the same name.

`grown_declareTrees` says that building trees stays inside this relation. Everything that is
known of a built assembly is read off it by one induction: numbers are consecutive
(`Grown.map_id`), containers come before their members (`Grown.exists_container`), like
members are numbered in order (`Grown.ordinal_eq_of_getElem?`), and a container has each
namespace once (`Grown.namespace_unique`).
-/

set_option autoImplicit false

namespace SymbolSearch

theorem Symbol.lineage_eq (s : Symbol) : s.lineage = s.node :: s.above := rfl

theorem Symbol.containerId?_eq {s c : Symbol} (h : s.container? = some c) :
    s.containerId? = some c.id := by
  cases hs : s.above with
  | nil => simp [Symbol.container?, hs] at h
  | cons node above =>
      simp only [Symbol.container?, hs, Option.some.injEq] at h
      subst h
      simp [Symbol.containerId?, hs, Symbol.id]

theorem Symbol.above_eq {s c : Symbol} (h : s.container? = some c) : s.above = c.lineage := by
  cases hs : s.above with
  | nil => simp [Symbol.container?, hs] at h
  | cons node above =>
      simp only [Symbol.container?, hs, Option.some.injEq] at h
      subst h
      rfl

/-- Below the global namespace, a symbol follows its container. -/
theorem Symbol.belowGlobal_lineage {s c : Symbol} (h : s.container? = some c) :
    belowGlobal s.lineage = s.node :: belowGlobal c.lineage := by
  rw [Symbol.lineage_eq s, Symbol.above_eq h, Symbol.lineage_eq c]
  rfl

/-- A global namespace is not below itself. -/
theorem Symbol.belowGlobal_lineage_global {s : Symbol} (habove : s.above = [])
    (hkind : s.kind.isNamespace = true) : belowGlobal s.lineage = [] := by
  have hnode : s.node.kind.isNamespace = true := hkind
  simp [Symbol.lineage, habove, belowGlobal, hnode]

/-- What stands among `g` and some symbols still does when more are added. -/
theorem mem_cons_append_left {g s : Symbol} {declared : List Symbol} (h : s ∈ g :: declared)
    (more : List Symbol) : s ∈ g :: (declared ++ more) := by
  rw [← List.cons_append]
  exact List.mem_append_left more h

namespace Assembly

/-! ## Building trees -/

/-- Trees in a row are declared one part of the row after the other. -/
theorem declareTrees_append (firstId : Nat) (container : Symbol) (ds es : List Declaration)
    (declared : List Symbol) :
    declareTrees firstId container (ds ++ es) declared =
      declareTrees firstId container es (declareTrees firstId container ds declared) := by
  induction ds generalizing declared with
  | nil => rfl
  | cons d ds ih =>
      rw [List.cons_append, declareTrees, declareTrees]
      exact ih _

/-- A property `P` of the symbols declared so far and a property `Q` of containers hold along
the building of trees if declaring one symbol keeps them and gives the new symbol `Q`. -/
theorem declareTrees_induction {firstId : Nat} {P : List Symbol → Prop}
    {Q : List Symbol → Symbol → Prop}
    (step : ∀ container name kind arity implicit accessor declared, P declared →
      Q declared container →
      P (declare firstId container name kind arity implicit accessor declared).2 ∧
      Q (declare firstId container name kind arity implicit accessor declared).2
        (declare firstId container name kind arity implicit accessor declared).1 ∧
      ∀ other, Q declared other →
        Q (declare firstId container name kind arity implicit accessor declared).2 other)
    (ds : List Declaration) :
    ∀ container declared, P declared → Q declared container →
      P (declareTrees firstId container ds declared) ∧
      ∀ other, Q declared other → Q (declareTrees firstId container ds declared) other := by
  induction ds using Declaration.forest_induction with
  | nil => exact fun _ _ hP _ => ⟨hP, fun _ h => h⟩
  | cons name kind arity implicit accessor children rest ihChildren ihRest =>
      intro container declared hP hQ
      -- the head, its members and the trees after it are declared in this order
      obtain ⟨hP₁, hnew, hQ₁⟩ :=
        step container name kind arity implicit accessor declared hP hQ
      obtain ⟨hP₂, hQ₂⟩ := ihChildren _ _ hP₁ hnew
      obtain ⟨hP₃, hQ₃⟩ := ihRest container _ hP₂ (hQ₂ _ (hQ₁ _ hQ))
      rw [declareTrees_cons]
      exact ⟨hP₃, fun other h => hQ₃ _ (hQ₂ _ (hQ₁ _ h))⟩

/-- Building only adds symbols, behind those declared so far. -/
theorem prefix_declareTrees (firstId : Nat) (container : Symbol) (ds : List Declaration)
    (declared : List Symbol) : declared <+: declareTrees firstId container ds declared := by
  refine (declareTrees_induction (P := fun more => declared <+: more) (Q := fun _ _ => True) ?_
    ds container declared List.prefix_rfl trivial).1
  intro container name kind arity implicit accessor more hmore _
  refine ⟨?_, trivial, fun _ _ => trivial⟩
  rcases declare_cases firstId container name kind arity implicit accessor more with
    ⟨existing, -, -, heq⟩ | ⟨-, heq⟩
  · rw [heq]
    exact hmore
  · rw [heq]
    exact hmore.trans (List.prefix_append _ _)

/-- Every symbol that building adds has the name, kind and arity of a declaration. -/
theorem exists_declaration {firstId : Nat} (ds : List Declaration) :
    ∀ (container : Symbol) (declared : List Symbol),
      ∀ s ∈ declareTrees firstId container ds declared, s ∈ declared ∨
        ∃ d ∈ Declaration.preorderList ds,
          d.name = s.name ∧ d.kind = s.kind ∧ d.arity = s.arity := by
  induction ds using Declaration.forest_induction with
  | nil => exact fun _ _ s hs => Or.inl hs
  | cons name kind arity implicit accessor children rest ihChildren ihRest =>
      intro container declared s hs
      rw [declareTrees_cons] at hs
      rw [Declaration.preorderList_cons]
      -- go back from the trees after the head to its members and to the head itself
      rcases ihRest _ _ s hs with hs | ⟨d, hd, hlike⟩
      · rcases ihChildren _ _ s hs with hs | ⟨d, hd, hlike⟩
        · rcases declare_cases firstId container name kind arity implicit accessor declared with
            ⟨existing, -, -, heq⟩ | ⟨-, heq⟩
          · rw [heq] at hs
            exact Or.inl hs
          · rw [heq, List.mem_append, List.mem_singleton] at hs
            rcases hs with hs | rfl
            · exact Or.inl hs
            · exact Or.inr ⟨_, List.mem_cons_self, rfl, rfl, rfl⟩
        · exact Or.inr ⟨d, List.mem_cons_of_mem _ (List.mem_append_left _ hd), hlike⟩
      · exact Or.inr ⟨d, List.mem_cons_of_mem _ (List.mem_append_right _ hd), hlike⟩

/-- Every declaration has a symbol with its name and kind. A repeated namespace shares it with an
earlier one. -/
theorem exists_symbol {firstId : Nat} (ds : List Declaration) :
    ∀ (container : Symbol) (declared : List Symbol), ∀ d ∈ Declaration.preorderList ds,
      ∃ s ∈ declareTrees firstId container ds declared, s.name = d.name ∧ s.kind = d.kind := by
  induction ds using Declaration.forest_induction with
  | nil => exact fun _ _ d hd => absurd hd List.not_mem_nil
  | cons name kind arity implicit accessor children rest ihChildren ihRest =>
      intro container declared d hd
      rw [declareTrees_cons]
      rw [Declaration.preorderList_cons, List.mem_cons, List.mem_append] at hd
      have hrest := prefix_declareTrees firstId container rest
        (declareTrees firstId
          (declare firstId container name kind arity implicit accessor declared).1 children
          (declare firstId container name kind arity implicit accessor declared).2)
      rcases hd with rfl | hd | hd
      · -- the symbol of the head stays when its members and the rest are declared
        obtain ⟨hmem, hname, hkind⟩ :=
          declare_mem firstId container name kind arity implicit accessor declared
        exact ⟨_, hrest.subset ((prefix_declareTrees _ _ _ _).subset hmem), hname, hkind⟩
      · obtain ⟨s, hs, hlike⟩ := ihChildren _ _ d hd
        exact ⟨s, hrest.subset hs, hlike⟩
      · exact ihRest _ _ d hd

/-- The lists of symbols that arise by declaring symbols below a global namespace `g`. -/
inductive Grown (g : Symbol) : List Symbol → Prop where
  | empty : Grown g []
  | declare {declared : List Symbol} {container : Symbol} (name : String) (kind : Kind)
      (arity : UInt32) (implicit accessor : Bool) :
      Grown g declared → container ∈ g :: declared →
      (kind.isNamespace = true → existingNamespace? declared container name = none) →
      Grown g (declared ++ [newSymbol declared (g.id + 1 + declared.length) container name kind
        arity implicit accessor])

theorem grown_declare {g container : Symbol} {declared : List Symbol} (h : Grown g declared)
    (hc : container ∈ g :: declared) (name : String) (kind : Kind) (arity : UInt32)
    (implicit accessor : Bool) :
    Grown g (Assembly.declare g.id container name kind arity implicit accessor declared).2 ∧
      (Assembly.declare g.id container name kind arity implicit accessor declared).1 ∈
        g :: (Assembly.declare g.id container name kind arity implicit accessor declared).2 ∧
      ∀ other ∈ g :: declared,
        other ∈ g :: (Assembly.declare g.id container name kind arity implicit accessor
          declared).2 := by
  rcases declare_cases g.id container name kind arity implicit accessor declared with
    ⟨existing, -, hfound, heq⟩ | ⟨hnew, heq⟩
  · -- a namespace that is there already adds nothing
    rw [heq]
    exact ⟨h, List.mem_cons_of_mem _ (existingNamespace?_eq_some hfound).1, fun _ h => h⟩
  · rw [heq]
    exact ⟨Grown.declare name kind arity implicit accessor h hc hnew, by simp,
      fun other hother => mem_cons_append_left hother _⟩

/-- Building trees inside a declared container keeps to the relation, and no symbol is lost. -/
theorem grown_declareTrees {g container : Symbol} {declared : List Symbol}
    (h : Grown g declared) (hc : container ∈ g :: declared) (ds : List Declaration) :
    Grown g (declareTrees g.id container ds declared) ∧
      ∀ other ∈ g :: declared, other ∈ g :: declareTrees g.id container ds declared :=
  declareTrees_induction (P := Grown g) (Q := fun declared c => c ∈ g :: declared)
    (fun _ name kind arity implicit accessor _ h hc =>
      grown_declare h hc name kind arity implicit accessor)
    ds container declared h hc

theorem grown_build (compilation : CompilationId) (ordinal : Nat) (name : String)
    (origin : Origin) (firstId : Nat) (roots : List Declaration) :
    Grown (build compilation ordinal name origin firstId roots).globalNamespace
      (build compilation ordinal name origin firstId roots).declared := by
  rw [declared_build]
  exact (grown_declareTrees (g := ⟨compilation, some ordinal, .global firstId, []⟩) Grown.empty
    List.mem_cons_self roots).1

namespace Grown

variable {g : Symbol} {declared : List Symbol}

/-! ## Numbers -/

/-- Symbols are numbered consecutively after the global namespace. -/
theorem map_id (h : Grown g declared) :
    declared.map Symbol.id = List.range' (g.id + 1) declared.length := by
  induction h with
  | empty => rfl
  | declare name kind arity implicit accessor _ _ _ ih =>
      rw [List.map_append, ih, List.length_append, List.length_singleton, List.range'_concat]
      simp

theorem id_bounds (h : Grown g declared) {s : Symbol} (hs : s ∈ declared) :
    g.id < s.id ∧ s.id < g.id + 1 + declared.length := by
  have hmem : s.id ∈ declared.map Symbol.id := List.mem_map_of_mem hs
  rw [h.map_id, List.mem_range'_1] at hmem
  omega

theorem nodup_id (h : Grown g declared) : (declared.map Symbol.id).Nodup := by
  rw [h.map_id]
  exact List.nodup_range'

theorem nodup (h : Grown g declared) : declared.Nodup := List.Nodup.of_map _ h.nodup_id

/-- A number belongs to one symbol, the global namespace included. -/
theorem eq_of_id_eq (h : Grown g declared) {s t : Symbol} (hs : s ∈ g :: declared)
    (ht : t ∈ g :: declared) (hid : s.id = t.id) : s = t := by
  have hnodup : ((g :: declared).map Symbol.id).Nodup := by
    rw [List.map_cons, List.nodup_cons]
    -- all declared symbols have numbers after that of `g`
    refine ⟨fun hg => ?_, h.nodup_id⟩
    obtain ⟨u, hu, hug⟩ := List.mem_map.1 hg
    have := h.id_bounds hu
    omega
  exact List.inj_on_of_nodup_map hnodup hs ht hid

/-! ## Containers -/

/-- Every symbol has a container, the global namespace or a symbol with a lower number. -/
theorem exists_container (h : Grown g declared) :
    ∀ s ∈ declared, ∃ c ∈ g :: declared, s.container? = some c ∧ c.id < s.id := by
  induction h with
  | empty => simp
  | @declare declared container name kind arity implicit accessor hgrown hc _ ih =>
      intro s hs
      rcases List.mem_append.1 hs with hs | hs
      · obtain ⟨c, hcmem, hcont, hlt⟩ := ih s hs
        exact ⟨c, mem_cons_append_left hcmem _, hcont, hlt⟩
      · rw [List.mem_singleton.1 hs]
        refine ⟨container, mem_cons_append_left hc _, rfl, ?_⟩
        -- the new symbol has the next number, so every number before it is lower
        rw [newSymbol_id]
        rcases List.mem_cons.1 hc with rfl | hc
        · omega
        · have := hgrown.id_bounds hc
          omega

/-- The container of a symbol is the symbol with the container's number. -/
theorem container?_of_containerId? (h : Grown g declared) {s c : Symbol} (hs : s ∈ declared)
    (hc : c ∈ g :: declared) (hid : s.containerId? = some c.id) : s.container? = some c := by
  obtain ⟨d, hd, hcont, -⟩ := h.exists_container s hs
  rw [Symbol.containerId?_eq hcont, Option.some.injEq] at hid
  rw [hcont, h.eq_of_id_eq hd hc hid]

theorem containerId?_lt (h : Grown g declared) {s : Symbol} (hs : s ∈ declared) {k : Nat}
    (hk : s.containerId? = some k) : k < s.id := by
  obtain ⟨c, -, hcont, hlt⟩ := h.exists_container s hs
  rw [Symbol.containerId?_eq hcont, Option.some.injEq] at hk
  omega

/-- The number of the next symbol is the number of no container. -/
theorem membersIn_next (h : Grown g declared) :
    membersIn declared (g.id + 1 + declared.length) = [] := by
  rw [membersIn, List.filter_eq_nil_iff]
  intro s hs hk
  have hlt := h.containerId?_lt hs (by simpa using hk)
  have := h.id_bounds hs
  omega

/-- Symbols belong to the compilation and the assembly of the global namespace. -/
theorem owner (h : Grown g declared) :
    ∀ s ∈ g :: declared, s.compilation = g.compilation ∧ s.assembly = g.assembly := by
  induction h with
  | empty => simp
  | declare name kind arity implicit accessor _ hc _ ih =>
      intro s hs
      rw [← List.cons_append] at hs
      rcases List.mem_append.1 hs with hs | hs
      · exact ih s hs
      · rw [List.mem_singleton.1 hs, newSymbol_compilation, newSymbol_assembly]
        exact ih _ hc

/-- Induction along containers: from the global namespace to the declared symbols. -/
theorem container_induction (h : Grown g declared) {P : Symbol → Prop} (global : P g)
    (member : ∀ s ∈ declared, ∀ c ∈ g :: declared, s.container? = some c → P c → P s) :
    ∀ s ∈ g :: declared, P s := by
  intro s
  -- the induction is on numbers, because containers have lower ones
  induction hn : s.id using Nat.strongRecOn generalizing s with
  | _ n ih =>
      intro hs
      rcases List.mem_cons.1 hs with rfl | hs
      · exact global
      · obtain ⟨c, hc, hcont, hlt⟩ := h.exists_container s hs
        exact member s hs c hc hcont (ih c.id (by omega) c rfl hc)

/-! ## Ordinals -/

/-- Like members of a container are numbered in order. -/
theorem ordinal_eq_of_getElem? (h : Grown g declared) {k i : Nat} {name : String} {kind : Kind}
    {arity : UInt32} {s : Symbol}
    (hs : ((membersIn declared k).filter fun m =>
      m.name = name && m.kind = kind && m.arity = arity)[i]? = some s) : s.ordinal = i := by
  induction h generalizing i s with
  | empty => simp at hs
  | @declare declared container name' kind' arity' implicit accessor _ _ _ ih =>
      rw [membersIn_append_singleton] at hs
      split at hs
      next hcont =>
        rw [List.filter_append, List.getElem?_append] at hs
        split at hs
        next hlt => exact ih hs
        -- past the earlier like members there is only the new symbol, whose ordinal counts them
        next hge =>
          have hmem := List.mem_filter.1 (List.mem_of_getElem? hs)
          obtain ⟨hi, -⟩ := List.getElem?_eq_some_iff.1 hs
          have hlength := List.length_filter_le (fun m : Symbol =>
            m.name = name && m.kind = kind && m.arity = arity) [newSymbol declared
              (g.id + 1 + declared.length) container name' kind' arity' implicit accessor]
          rw [List.length_singleton] at hlength
          obtain ⟨hs', hlike⟩ := hmem
          rw [List.mem_singleton] at hs'
          subst hs'
          simp only [Bool.and_eq_true, decide_eq_true_eq] at hlike
          simp only [newSymbol_name, newSymbol_kind, newSymbol_arity] at hlike
          simp only [newSymbol_containerId?, Option.some.injEq] at hcont
          obtain ⟨⟨rfl, rfl⟩, rfl⟩ := hlike
          rw [newSymbol_ordinal, hcont]
          omega
      -- a member of another container changes nothing
      next => exact ih hs

/-- A symbol stands at its ordinal among the like members of its container. -/
theorem getElem?_ordinal (h : Grown g declared) {s : Symbol} (hs : s ∈ declared) {k : Nat}
    (hk : s.containerId? = some k) :
    ((membersIn declared k).filter fun m =>
      m.name = s.name && m.kind = s.kind && m.arity = s.arity)[s.ordinal]? = some s := by
  have hmem : s ∈ (membersIn declared k).filter fun m =>
      m.name = s.name && m.kind = s.kind && m.arity = s.arity := by
    rw [List.mem_filter, mem_membersIn]
    exact ⟨⟨hs, hk⟩, by simp⟩
  obtain ⟨i, hi⟩ := List.getElem?_of_mem hmem
  rw [h.ordinal_eq_of_getElem? hi, hi]

/-! ## Namespaces -/

/-- A container has each namespace once. -/
theorem namespace_unique (h : Grown g declared) {s t : Symbol} (hs : s ∈ declared)
    (ht : t ∈ declared) (hsKind : s.kind.isNamespace = true) (htKind : t.kind.isNamespace = true)
    (hcont : s.containerId? = t.containerId?) (hname : s.name = t.name) : s = t := by
  induction h with
  | empty => simp at hs
  | @declare declared container name kind arity implicit accessor _ _ hnew ih =>
      rw [List.mem_append, List.mem_singleton] at hs ht
      -- two different ones would be an earlier namespace and the new one of the same name
      rcases hs with hs | rfl <;> rcases ht with ht | rfl
      · exact ih hs ht
      · exact absurd hname (existingNamespace?_eq_none.1 (hnew htKind) s hs hcont hsKind)
      · exact absurd hname.symm
          (existingNamespace?_eq_none.1 (hnew hsKind) t ht hcont.symm htKind)
      · rfl

/-- Namespaces have the ordinal zero. -/
theorem ordinal_eq_zero (h : Grown g declared) {s : Symbol} (hs : s ∈ declared)
    (hkind : s.kind.isNamespace = true) : s.ordinal = 0 := by
  obtain ⟨c, -, hcont, -⟩ := h.exists_container s hs
  have hget := h.getElem?_ordinal hs (Symbol.containerId?_eq hcont)
  -- otherwise the container had an earlier like member
  by_contra hne
  have hlt : 0 < s.ordinal := Nat.pos_of_ne_zero hne
  obtain ⟨hbound, -⟩ := List.getElem?_eq_some_iff.1 hget
  -- the first like member is the same namespace, whose ordinal is its position
  have hfirst := List.getElem?_eq_getElem (Nat.lt_trans hlt hbound)
  have hmem := List.getElem_mem (Nat.lt_trans hlt hbound)
  rw [List.mem_filter, mem_membersIn] at hmem
  simp only [Bool.and_eq_true, decide_eq_true_eq] at hmem
  obtain ⟨⟨hdecl, hid⟩, ⟨hname, hk⟩, -⟩ := hmem
  have heq := h.namespace_unique hdecl hs (by rw [hk]; exact hkind) hkind
    (by rw [hid, Symbol.containerId?_eq hcont]) hname
  rw [heq] at hfirst
  exact hne (h.ordinal_eq_of_getElem? hfirst)

end Grown

/-! ## Built assemblies -/

/-- The symbols of the assembly arose by declaring them one after the other. -/
def IsGrown (a : Assembly) : Prop := Grown a.globalNamespace a.declared

variable {a : Assembly}

@[simp] theorem container?_globalNamespace : a.globalNamespace.container? = none := rfl

theorem isGrown_build (compilation : CompilationId) (ordinal : Nat) (name : String)
    (origin : Origin) (firstId : Nat) (roots : List Declaration) :
    (build compilation ordinal name origin firstId roots).IsGrown :=
  grown_build compilation ordinal name origin firstId roots

theorem membersOf_eq_ite (a : Assembly) (c : Symbol) :
    a.membersOf c = if c.compilation = a.compilation then membersIn a.declared c.id else [] := by
  rw [membersOf, a.held c.id]

theorem membersOf_sublist (a : Assembly) (c : Symbol) : (a.membersOf c).Sublist a.declared := by
  rw [membersOf_eq_ite]
  split
  · exact List.filter_sublist
  · exact List.nil_sublist _

theorem membersOf_eq (h : a.IsGrown) {c : Symbol} (hc : c ∈ a.globalNamespace :: a.declared) :
    a.membersOf c = membersIn a.declared c.id :=
  (membersOf_eq_ite a c).trans (if_pos (Grown.owner h c hc).1)

end Assembly

end SymbolSearch
