import SymbolSearch.Collect
import SymbolSearch.Proofs.Key.Inverse
import SymbolSearch.Proofs.Merged.Tree
import SymbolSearch.Proofs.Session

/-!
# Different keys lead to different symbols

Resolving a key in a compilation walks through merged namespaces and then through the members of
one assembly. Everything on these ways forms a tree (`Compilation.IsBuilt.isTree`): a symbol is a
member of one container, at one place, and the merged global namespace of none. In a tree the way
from the root can be read off its end (`Key.IsTree.follow_injective`), so no two keys lead to the
same symbol, whatever names they have, and symbols with different keys stay apart when they are
resolved in another compilation (`Compilation.resolve_injective_build`).
-/

set_option autoImplicit false

namespace SymbolSearch

open Assembly

/-! ## Trees -/

/-- A list without repetitions has a symbol at one place among the like ones. -/
theorem KeyStep.eq_of_getElem? {l : List Symbol} (hl : l.Nodup) {step step' : KeyStep} {s : Symbol}
    (hs : (l.filter step.names)[step.ordinal]? = some s)
    (hs' : (l.filter step'.names)[step'.ordinal]? = some s) : step = step' := by
  have hnames := (List.mem_filter.1 (List.mem_of_getElem? hs)).2
  have hnames' := (List.mem_filter.1 (List.mem_of_getElem? hs')).2
  simp only [KeyStep.names, Bool.and_eq_true, decide_eq_true_eq] at hnames hnames'
  obtain ⟨⟨hname, hkind⟩, harity⟩ := hnames
  obtain ⟨⟨hname', hkind'⟩, harity'⟩ := hnames'
  -- both steps have the name, kind and arity of `s`, so they choose among the same symbols
  have hsame : step'.names = step.names := by
    funext m
    rw [KeyStep.names, KeyStep.names, ← hname, ← hname', ← hkind, ← hkind', ← harity, ← harity']
  rw [hsame] at hs'
  have hordinal : step.ordinal = step'.ordinal := by
    obtain ⟨hlt, -⟩ := List.getElem?_eq_some_iff.1 hs
    exact (List.getElem?_inj hlt (hl.filter _)).1 (hs.trans hs'.symm)
  cases step
  cases step'
  simp only at hname hname' hkind hkind' harity harity' hordinal
  rw [← hname, ← hname', ← hkind, ← hkind', ← harity, ← harity', hordinal]

namespace Key

/-- The symbols with the property `P` form a tree: each is a member of at most one of them, at one
place, and the root of none. -/
structure IsTree (members : Symbol → List Symbol) (P : Symbol → Prop) (root : Symbol) : Prop where
  holds_root : P root
  member : ∀ s, P s → ∀ m ∈ members s, P m
  root_notMem : ∀ s, P s → root ∉ members s
  eq_of_mem : ∀ s t m, P s → P t → m ∈ members s → m ∈ members t → s = t
  nodup : ∀ s, P s → (members s).Nodup

namespace IsTree

variable {members : Symbol → List Symbol} {P : Symbol → Prop} {root : Symbol}

/-- Keys do not lead out of the tree. -/
theorem of_follow (h : IsTree members P root) (steps : List KeyStep) :
    ∀ s, follow members steps root = some s → P s := by
  induction steps using List.reverseRecOn with
  | nil =>
      intro s hs
      rw [follow_nil, Option.some.injEq] at hs
      subst hs
      exact h.holds_root
  | append_singleton steps last ih =>
      intro s hs
      rw [follow_concat, Option.bind_eq_some_iff] at hs
      obtain ⟨c, hc, hs⟩ := hs
      exact h.member c (ih c hc) s (List.mem_filter.1 (List.mem_of_getElem? hs)).1

/-- Nothing leads back to the root. -/
theorem follow_concat_ne_root (h : IsTree members P root) (steps : List KeyStep)
    (last : KeyStep) : follow members (steps ++ [last]) root ≠ some root := by
  intro hroot
  rw [follow_concat, Option.bind_eq_some_iff] at hroot
  obtain ⟨c, hc, hroot⟩ := hroot
  exact h.root_notMem c (h.of_follow steps c hc)
    (List.mem_filter.1 (List.mem_of_getElem? hroot)).1

/-- The way from the root can be read off its end. -/
theorem follow_injective (h : IsTree members P root) (steps : List KeyStep) :
    ∀ (steps' : List KeyStep) (s : Symbol), follow members steps root = some s →
      follow members steps' root = some s → steps = steps' := by
  -- the induction is on the last step, because a symbol tells its container
  induction steps using List.reverseRecOn with
  | nil =>
      intro steps' s hs hs'
      rw [follow_nil, Option.some.injEq] at hs
      subst hs
      cases steps' using List.reverseRecOn with
      | nil => rfl
      | append_singleton steps' last' => exact absurd hs' (h.follow_concat_ne_root steps' last')
  | append_singleton steps last ih =>
      intro steps' s hs hs'
      cases steps' using List.reverseRecOn with
      | nil =>
          rw [follow_nil, Option.some.injEq] at hs'
          subst hs'
          exact absurd hs (h.follow_concat_ne_root steps last)
      | append_singleton steps' last' =>
          rw [follow_concat, Option.bind_eq_some_iff] at hs hs'
          obtain ⟨c, hc, hs⟩ := hs
          obtain ⟨c', hc', hs'⟩ := hs'
          have hmem := (List.mem_filter.1 (List.mem_of_getElem? hs)).1
          have hmem' := (List.mem_filter.1 (List.mem_of_getElem? hs')).1
          -- the containers are the same, so the ways to them are
          have hcontainer : c = c' := h.eq_of_mem c c' s (h.of_follow steps c hc)
            (h.of_follow steps' c' hc') hmem hmem'
          subst hcontainer
          have hlast := KeyStep.eq_of_getElem? (h.nodup c (h.of_follow steps c hc)) hs hs'
          rw [ih steps' c hc hc', hlast]

end IsTree

end Key

namespace Compilation

/-! ## The tree of a compilation -/

/-- The symbols that keys lead to: the merged namespaces and the symbols of the assemblies that are
not replaced by them. -/
def Visible (c : Compilation) (s : Symbol) : Prop :=
  s ∈ c.mergedNamespaces ∨
    ∃ a ∈ c.assemblies, s ∈ a.declared ∧ (s.kind.isNamespace = true → s ∉ a.exposed)

namespace IsBuilt

variable {c : Compilation}

theorem mem_symbols_of_visible {s : Symbol} (hs : c.Visible s) : s ∈ c.symbols := by
  rcases hs with hs | ⟨a, ha, hs, -⟩
  · exact mem_symbols_of_merged hs
  · exact mem_symbols_of_assembly ha (List.mem_cons_of_mem _ hs)

/-- The members of a symbol that is not merged are not placed in merged namespaces. -/
theorem not_exposed_of_membersIn (h : c.IsBuilt) {a : Assembly} (ha : a ∈ c.assemblies)
    {s m : Symbol} (hs : s ∈ a.declared) (hhidden : s.kind.isNamespace = true → s ∉ a.exposed)
    (hm : m ∈ membersIn a.declared s.id) : m ∉ a.exposed := by
  have hgrown : a.IsGrown := h.row.isGrown ha
  intro hexposed
  obtain ⟨d, hd, hns, hcont⟩ := container_of_exposed hgrown hexposed
  have hid := (mem_membersIn.1 hm).2
  rw [Symbol.containerId?_eq hcont, Option.some.injEq] at hid
  -- the container would be an exposed namespace
  have heq : d = s := Grown.eq_of_id_eq hgrown (Assembly.mem_symbols_of_exposed hd)
    (List.mem_cons_of_mem _ hs) hid
  subst heq
  rcases List.mem_cons.1 hd with rfl | hd
  · exact Nat.lt_irrefl _ (Grown.id_bounds hgrown hs).1
  · exact hhidden hns hd

/-- A symbol that is not placed is no member of a merged namespace. -/
theorem notMem_membersOf_merged (h : c.IsBuilt) {a : Assembly} (ha : a ∈ c.assemblies)
    {t m : Symbol} (ht : t ∈ c.mergedNamespaces) (hm : m ∈ a.declared) (hhidden : m ∉ a.exposed) :
    m ∉ c.membersOf t := by
  intro hmember
  rcases h.mem_membersOf_merged ht hmember with ⟨hmerged, -⟩ | ⟨-, hexposed, -⟩
  · exact h.ne_mergedNamespace ha (List.mem_cons_of_mem _ hm) hmerged rfl
  · obtain ⟨b, hb, hexposed⟩ := List.mem_flatMap.1 hexposed
    have hab := h.eq_assembly ha hb (List.mem_cons_of_mem _ hm)
      (List.mem_cons_of_mem _ (mem_declared_of_exposed hexposed))
    rw [hab] at hhidden
    exact hhidden hexposed

/-- What can be reached from the merged global namespace is a tree. -/
theorem isTree (h : c.IsBuilt) : Key.IsTree c.membersOf c.Visible c.globalNamespace where
  holds_root := Or.inl h.globalNamespace_mem_mergedNamespaces
  member := by
    rintro s (hs | ⟨a, ha, hs, hhidden⟩) m hm
    · rcases h.mem_membersOf_merged hs hm with ⟨hmerged, -⟩ | ⟨hns, hexposed, -⟩
      · exact Or.inl hmerged
      · obtain ⟨a, ha, hexposed⟩ := List.mem_flatMap.1 hexposed
        refine Or.inr ⟨a, ha, mem_declared_of_exposed hexposed, fun hkind => ?_⟩
        rw [hns] at hkind
        exact Bool.noConfusion hkind
    · rw [h.membersOf_symbol ha (List.mem_cons_of_mem _ hs)] at hm
      exact Or.inr ⟨a, ha, (mem_membersIn.1 hm).1,
        fun _ => h.not_exposed_of_membersIn ha hs hhidden hm⟩
  root_notMem := by
    rintro s (hs | ⟨a, ha, hs, -⟩) hroot
    · have hns : c.globalNamespace.kind.isNamespace = true := rfl
      exact ((h.mem_membersOf_namespace hs hns).1 hroot).2.1 rfl
    · rw [h.membersOf_symbol ha (List.mem_cons_of_mem _ hs)] at hroot
      exact h.ne_mergedNamespace ha (List.mem_cons_of_mem _ (mem_membersIn.1 hroot).1)
        h.globalNamespace_mem_mergedNamespaces rfl
  eq_of_mem := by
    rintro s t m (hs | ⟨a, ha, hs, hshidden⟩) (ht | ⟨b, hb, ht, hthidden⟩) hms hmt
    · exact h.eq_of_mem_membersOf_merged hs ht hms hmt
    · rw [h.membersOf_symbol hb (List.mem_cons_of_mem _ ht)] at hmt
      exact absurd hms (h.notMem_membersOf_merged hb hs (mem_membersIn.1 hmt).1
        (h.not_exposed_of_membersIn hb ht hthidden hmt))
    · rw [h.membersOf_symbol ha (List.mem_cons_of_mem _ hs)] at hms
      exact absurd hmt (h.notMem_membersOf_merged ha ht (mem_membersIn.1 hms).1
        (h.not_exposed_of_membersIn ha hs hshidden hms))
    · -- both are symbols of the assembly of `m`, and `m` has the number of its container
      rw [h.membersOf_symbol ha (List.mem_cons_of_mem _ hs), mem_membersIn] at hms
      rw [h.membersOf_symbol hb (List.mem_cons_of_mem _ ht), mem_membersIn] at hmt
      have hid := hms.2
      rw [hmt.2, Option.some.injEq] at hid
      exact h.eq_of_id_eq (mem_symbols_of_assembly ha (List.mem_cons_of_mem _ hs))
        (mem_symbols_of_assembly hb (List.mem_cons_of_mem _ ht)) hid.symm
  nodup := by
    rintro s (hs | ⟨a, ha, hs, -⟩)
    · exact h.nodup_membersOf_merged hs
    · rw [h.membersOf_symbol ha (List.mem_cons_of_mem _ hs)]
      exact (Grown.nodup (h.row.isGrown ha)).filter _

/-! ## Keys -/

/-- Keys that lead to the same symbol of a compilation are the same. -/
theorem eq_of_resolve_sameAs (h : c.IsBuilt) {key key' : Key} {s s' : Symbol}
    (hs : key.resolve c = some s) (hs' : key'.resolve c = some s') (hsame : s.sameAs s' = true) :
    key = key' := by
  have hvisible := h.isTree.of_follow key.steps s hs
  have hvisible' := h.isTree.of_follow key'.steps s' hs'
  have heq : s = s' := h.eq_of_id_eq (mem_symbols_of_visible hvisible)
    (mem_symbols_of_visible hvisible') (Symbol.id_eq_of_sameAs hsame)
  subst heq
  exact congrArg Key.mk (h.isTree.follow_injective key.steps key'.steps s hs hs')

/-- Symbols of one assembly stay apart when they are resolved in a compilation. -/
theorem pairwise_filterMap_resolve (h : c.IsBuilt) {a : Assembly} (hgrown : a.IsGrown)
    {symbols : List Symbol} (hsymbols : ∀ s ∈ symbols, s ∈ a.symbols) (hnodup : symbols.Nodup) :
    (symbols.filterMap fun s => (Key.ofSymbol s).resolve c).Pairwise
      fun s t => s.sameAs t = false := by
  rw [List.pairwise_filterMap]
  refine hnodup.imp_of_mem fun {s t} hs ht hne s' hs' t' ht' => ?_
  rw [Bool.eq_false_iff]
  intro hsame
  -- the same result would mean the same key
  have hkey := h.eq_of_resolve_sameAs hs' ht' hsame
  exact hne (ofSymbol_injOn hgrown (hsymbols s hs) (hsymbols t ht) hkey)

end IsBuilt

/-- **No two keys lead to the same symbol of a compilation.** Different source symbols of one
compilation are therefore never resolved to the same symbol of another one: with a live token all
of them are resolved, and what is resolved has no repetitions, whatever becomes of the token. -/
theorem resolve_injective_build {κ : Type} (id : CompilationId) (name : String)
    (documents : List (List Declaration)) (references : List Reference) :
    (∀ (key key' : Key) (s s' : Symbol),
      key.resolve (build id name documents references) = some s →
      key'.resolve (build id name documents references) = some s' →
      s.sameAs s' = true → key = key') ∧
    ∀ (id' : CompilationId) (name' : String) (documents' : List (List Declaration))
      (references' : List Reference) (symbols : List Symbol),
      (∀ s ∈ symbols, s ∈ (build id' name' documents' references').source.symbols) →
      symbols.Nodup →
      (∀ session : Session κ, session.token = .live → ∃ found, Search.Returns
        (resolveEach (build id name documents references) symbols) session found session) ∧
      ∀ (session session' : Session κ) (found : List Symbol), Search.Returns
        (resolveEach (build id name documents references) symbols) session found session' →
        found.Pairwise fun s t => s.sameAs t = false := by
  have h : (build id name documents references).IsBuilt := isBuilt_build
  refine ⟨fun key key' s s' hs hs' hsame => h.eq_of_resolve_sameAs hs hs' hsame, ?_⟩
  intro id' name' documents' references' symbols hsymbols hnodup
  have hgrown : (build id' name' documents' references').source.IsGrown := isGrown_build ..
  constructor
  · intro session hlive
    exact ⟨_, Search.returns_visitAll hlive _ _ _⟩
  · intro session session' found hreturns
    rw [Search.eq_of_returns_visitFrom hreturns]
    exact h.pairwise_filterMap_resolve hgrown hsymbols hnodup

/-- The types that `dottedDocuments` declare, as the first compilation has them. -/
def dottedClients : List Symbol :=
  [⟨⟨0⟩, some 0, ⟨2, "Client", .classType, 0, 0, false, false⟩,
      [⟨1, "Net.Http", .nameSpace, 0, 0, false, false⟩, .global 0]⟩,
    ⟨⟨0⟩, some 0, ⟨5, "Client", .classType, 0, 0, false, false⟩,
      [⟨4, "Http", .nameSpace, 0, 0, false, false⟩,
        ⟨3, "Net", .nameSpace, 0, 0, false, false⟩, .global 0]⟩]

/-- Two namespaces of one qualified name have a type of the same name each. The second type is the
second one in the merged namespace, and only the key that says so leads to it. The types are kept
apart when they are resolved in the compilation of a later request. -/
theorem resolve_injective_build_dottedDocuments :
    (⟨[⟨"Net.Http", .nameSpace, 0, 0⟩, ⟨"Client", .classType, 0, 1⟩]⟩ : Key).resolve
        (build ⟨0⟩ "App" dottedDocuments []) =
      some ⟨⟨0⟩, some 0, ⟨5, "Client", .classType, 0, 0, false, false⟩,
        [⟨4, "Http", .nameSpace, 0, 0, false, false⟩,
          ⟨3, "Net", .nameSpace, 0, 0, false, false⟩, .global 0]⟩ ∧
    (∀ key : Key, key.resolve (build ⟨0⟩ "App" dottedDocuments []) =
        some ⟨⟨0⟩, some 0, ⟨5, "Client", .classType, 0, 0, false, false⟩,
          [⟨4, "Http", .nameSpace, 0, 0, false, false⟩,
            ⟨3, "Net", .nameSpace, 0, 0, false, false⟩, .global 0]⟩ →
      key = ⟨[⟨"Net.Http", .nameSpace, 0, 0⟩, ⟨"Client", .classType, 0, 1⟩]⟩) ∧
    ∃ found, Search.Returns
        (resolveEach (build ⟨1⟩ "App" dottedDocuments []) dottedClients)
        Session.initial found Session.initial ∧
      found.Pairwise fun s t => s.sameAs t = false := by
  have hresolve : (⟨[⟨"Net.Http", .nameSpace, 0, 0⟩, ⟨"Client", .classType, 0, 1⟩]⟩ : Key).resolve
      (build ⟨0⟩ "App" dottedDocuments []) =
    some ⟨⟨0⟩, some 0, ⟨5, "Client", .classType, 0, 0, false, false⟩,
      [⟨4, "Http", .nameSpace, 0, 0, false, false⟩,
        ⟨3, "Net", .nameSpace, 0, 0, false, false⟩, .global 0]⟩ := rfl
  refine ⟨hresolve, fun key hkey => ?_, ?_⟩
  · exact (resolve_injective_build (κ := Unit) ⟨0⟩ "App" dottedDocuments []).1 _ _ _ _ hkey
      hresolve (Symbol.sameAs_self _)
  · obtain ⟨hreturns, happart⟩ := (resolve_injective_build ⟨1⟩ "App" dottedDocuments []).2
      ⟨0⟩ "App" dottedDocuments [] dottedClients (by decide) (by decide)
    obtain ⟨found, hfound⟩ := hreturns Session.initial rfl
    exact ⟨found, hfound, happart _ _ found hfound⟩

end Compilation

end SymbolSearch
