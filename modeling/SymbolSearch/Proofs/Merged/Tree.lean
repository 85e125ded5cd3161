import SymbolSearch.Proofs.Merged.Placement
import SymbolSearch.Proofs.Symbols
import Mathlib.Logic.Relation

/-!
# The tree of merged namespaces

The namespaces of an assembly that are inside of namespaces only are merged
(`Assembly.outerNamespaces`); namespaces inside of types are not. Whatever the names are, the
merged namespaces of a compilation form a tree below the merged global namespace, and each member
of an outer namespace that is no namespace itself hangs in this tree once, in the merged namespace
that stands for the outer one (`Compilation.mergesNamespaces_build`).
-/

set_option autoImplicit false

namespace SymbolSearch

open Assembly

namespace Assembly

variable {a : Assembly}

/-- The namespaces of the assembly that are inside of namespaces only, the global one first. -/
def outerNamespaces (a : Assembly) : List Symbol :=
  a.symbols.filter fun n => n.lineage.all fun node => node.kind.isNamespace

/-- The containers of an exposed symbol are all namespaces. -/
theorem isNamespace_of_mem_above (h : a.IsGrown) : ∀ s ∈ a.globalNamespace :: a.declared,
    s ∈ a.globalNamespace :: a.exposed → ∀ node ∈ s.above, node.kind.isNamespace = true := by
  refine Grown.container_induction h ?_ ?_
  · intro _ node hnode
    exact absurd hnode List.not_mem_nil
  · intro s _ c _ hcont ih hexposed node hnode
    obtain ⟨hc, hns⟩ := isNamespace_of_container h hexposed hcont
    rw [Symbol.above_eq hcont, Symbol.lineage_eq] at hnode
    rcases List.mem_cons.1 hnode with rfl | hnode
    · exact hns
    · exact ih hc node hnode

/-- The outer namespaces are those that are exposed. -/
theorem mem_outerNamespaces (h : a.IsGrown) {n : Symbol} :
    n ∈ a.outerNamespaces ↔
      n ∈ a.globalNamespace :: a.exposed ∧ n.kind.isNamespace = true := by
  rw [outerNamespaces, List.mem_filter, List.all_eq_true, Symbol.lineage_eq]
  constructor
  · rintro ⟨hn, hall⟩
    refine ⟨mem_exposed h n hn fun node hnode => ?_, hall n.node List.mem_cons_self⟩
    exact hall node (List.mem_cons_of_mem _ hnode)
  · rintro ⟨hn, hns⟩
    have hmem := mem_symbols_of_exposed hn
    refine ⟨hmem, fun node hnode => ?_⟩
    rcases List.mem_cons.1 hnode with rfl | hnode
    · exact hns
    · exact isNamespace_of_mem_above h n hmem hn node hnode

end Assembly

namespace Compilation

/-- The symbols that are placed in merged namespaces, in the order of the walks. -/
def exposed (c : Compilation) : List Symbol := c.assemblies.flatMap Assembly.exposed

/-- Of all merged namespaces, `t` alone has `s` for a member, and it has it once. -/
def HoldsOnce (c : Compilation) (t s : Symbol) : Prop :=
  (c.membersOf t).countP s.sameAs = 1 ∧
    ∀ u ∈ c.mergedNamespaces, u.sameAs t = false → (c.membersOf u).countP s.sameAs = 0

namespace IsBuilt

variable {c : Compilation}

theorem places_merged (h : c.IsBuilt) : c.merged.Places c.exposed := by
  have hplaces := Merged.Places.foldl_exposed c.assemblies (fun a ha => h.row.isGrown ha)
    (Merged.places_initial ⟨c.id, nextIdAfter c.assemblies⟩)
  rw [List.nil_append] at hplaces
  rw [h.merged_eq]
  exact hplaces

/-! ## What is placed -/

theorem mem_symbols_of_exposed {s : Symbol} (hs : s ∈ c.exposed) : s ∈ c.symbols := by
  obtain ⟨a, ha, hs⟩ := List.mem_flatMap.1 hs
  exact mem_symbols_of_assembly ha (List.mem_cons_of_mem _ (mem_declared_of_exposed hs))

theorem nodup_exposed (h : c.IsBuilt) : c.exposed.Nodup := by
  have hsymbols := List.nodup_flatMap.1 (List.Nodup.of_map _ h.row.nodup_id)
  refine List.nodup_flatMap.2 ⟨fun a ha => Assembly.nodup_exposed (h.row.isGrown ha), ?_⟩
  -- different assemblies have no symbol in common
  refine hsymbols.2.imp fun {a b} hdisjoint => ?_
  intro s hsa hsb
  exact hdisjoint (List.mem_cons_of_mem _ (mem_declared_of_exposed hsa))
    (List.mem_cons_of_mem _ (mem_declared_of_exposed hsb))

/-- What is placed comes from one assembly after the other. -/
theorem pairwise_assembly_exposed (h : c.IsBuilt) :
    c.exposed.Pairwise fun s t => ∃ i j, s.assembly = some i ∧ t.assembly = some j ∧ i ≤ j := by
  have howner : ∀ {a : Assembly}, a ∈ c.assemblies → ∀ s ∈ a.exposed,
      s.assembly = some a.ordinal := fun ha s hs =>
    (Grown.owner (h.row.isGrown ha) s (List.mem_cons_of_mem _ (mem_declared_of_exposed hs))).2
  rw [exposed, List.pairwise_flatMap]
  constructor
  · intro a ha
    rw [List.pairwise_iff_forall_sublist]
    intro s t hst
    exact ⟨_, _, howner ha s (hst.subset (by simp)), howner ha t (hst.subset (by simp)),
      Nat.le_refl _⟩
  · -- an assembly stands at the position that its ordinal says
    rw [List.pairwise_iff_getElem]
    intro i j hi hj hij s hs t ht
    refine ⟨_, _, howner (List.getElem_mem hi) s hs, howner (List.getElem_mem hj) t ht, ?_⟩
    rw [h.row.ordinal_eq (List.getElem?_eq_getElem hi),
      h.row.ordinal_eq (List.getElem?_eq_getElem hj)]
    omega

/-- An outer namespace has a merged namespace. -/
theorem exists_find?_outer (h : c.IsBuilt) {a : Assembly} (ha : a ∈ c.assemblies) {n : Symbol}
    (hn : n ∈ a.outerNamespaces) : ∃ t, c.merged.find? n.qualifiedName = some t := by
  obtain ⟨hmem, hns⟩ := (mem_outerNamespaces (h.row.isGrown ha)).1 hn
  rcases List.mem_cons.1 hmem with rfl | hmem
  · exact ⟨_, h.find?_merged_empty⟩
  · exact h.places_merged.found n (List.mem_flatMap_of_mem ha hmem) hns

/-- The home of what is placed is the merged namespace of its container. -/
theorem home_mem_mergedNamespaces (h : c.IsBuilt) {s : Symbol} (hs : s ∈ c.exposed) :
    c.merged.home s ∈ c.mergedNamespaces := by
  obtain ⟨d, t, hcont, hfind⟩ := h.places_merged.settled s hs
  rw [Merged.home_of_find? hcont hfind]
  exact mem_mergedNamespaces_of_find? hfind

/-! ## Members of merged namespaces -/

/-- The global merged namespace comes before all others. -/
theorem mergedNamespaces_eq (h : c.IsBuilt) :
    c.mergedNamespaces = c.globalNamespace :: c.merged.byName.tail.map Prod.snd := by
  have hformed := h.isFormed_merged
  obtain ⟨first, rest, hbyName⟩ := List.exists_cons_of_ne_nil hformed.byName_ne_nil
  -- the first one has the number of the global one
  have hid : first.2.id = c.globalNamespace.id := by
    have hmap := hformed.map_id
    rw [hbyName, List.map_cons, List.length_cons, List.range'_succ] at hmap
    exact (List.cons.inj hmap).1
  have hfirst : first.2 ∈ c.mergedNamespaces := by
    rw [mergedNamespaces, hbyName]
    exact List.mem_cons_self
  have heq : first.2 = c.globalNamespace :=
    h.eq_of_id_eq (mem_symbols_of_merged hfirst)
      (mem_symbols_of_merged h.globalNamespace_mem_mergedNamespaces) hid
  rw [mergedNamespaces, hbyName, List.map_cons, List.tail_cons, heq]

theorem nodup_mergedNamespaces (h : c.IsBuilt) : c.mergedNamespaces.Nodup := by
  have hnodup := List.Nodup.of_map _ h.nodup_id_symbols
  rw [symbols, List.nodup_append] at hnodup
  exact hnodup.2.1

theorem mem_tail_byName (h : c.IsBuilt) {t : Symbol} :
    t ∈ c.merged.byName.tail.map Prod.snd ↔ t ∈ c.mergedNamespaces ∧ t ≠ c.globalNamespace := by
  have hnodup := h.nodup_mergedNamespaces
  rw [h.mergedNamespaces_eq, List.nodup_cons] at hnodup
  rw [h.mergedNamespaces_eq, List.mem_cons]
  constructor
  · intro ht
    refine ⟨Or.inr ht, ?_⟩
    rintro rfl
    exact hnodup.1 ht
  · rintro ⟨heq | ht, hne⟩
    · exact absurd heq hne
    · exact ht

/-- Every merged namespace but the global one is inside of an older one. -/
theorem exists_container_merged (h : c.IsBuilt) {t : Symbol} (ht : t ∈ c.mergedNamespaces)
    (hne : t ≠ c.globalNamespace) :
    ∃ d ∈ c.mergedNamespaces, t.container? = some d ∧ d.id < t.id := by
  obtain ⟨entry, hentry, rfl⟩ := List.mem_map.1 (h.mem_tail_byName.2 ⟨ht, hne⟩)
  obtain ⟨outer, houter, hcont, hlt⟩ := h.places_merged.inside entry hentry
  exact ⟨outer.2, List.mem_map_of_mem houter, hcont, hlt⟩

/-- The members that are no namespaces are those whose container the merged namespace stands
for. -/
theorem mem_membersOf_other (h : c.IsBuilt) {t s : Symbol} (ht : t ∈ c.mergedNamespaces)
    (hns : s.kind.isNamespace = false) :
    s ∈ c.membersOf t ↔ s ∈ c.exposed ∧ c.merged.home s = t := by
  have hfilter : s ∈ c.membersOf t ↔ s ∈ c.exposed ∧ (c.merged.home s).id = t.id := by
    have hmembers := congrArg (s ∈ ·) (h.places_merged.filter_members_others t.id)
    simpa [hns, h.membersOf_mergedNamespace ht] using hmembers
  rw [hfilter]
  constructor
  · rintro ⟨hs, hid⟩
    exact ⟨hs, h.eq_of_id_eq (mem_symbols_of_merged (h.home_mem_mergedNamespaces hs))
      (mem_symbols_of_merged ht) hid⟩
  · rintro ⟨hs, rfl⟩
    exact ⟨hs, rfl⟩

/-- The namespaces among the members are the merged ones inside of the merged namespace. -/
theorem mem_membersOf_namespace (h : c.IsBuilt) {t s : Symbol} (ht : t ∈ c.mergedNamespaces)
    (hns : s.kind.isNamespace = true) :
    s ∈ c.membersOf t ↔
      s ∈ c.mergedNamespaces ∧ s ≠ c.globalNamespace ∧ s.container? = some t := by
  have hfilter : s ∈ c.membersOf t ↔
      s ∈ c.merged.byName.tail.map Prod.snd ∧ s.containerId? = some t.id := by
    have hmembers := congrArg (s ∈ ·) (h.places_merged.filter_members_namespaces t.id)
    rw [h.membersOf_mergedNamespace ht]
    simpa only [List.mem_filter, hns, and_true, decide_eq_true_eq, eq_iff_iff] using hmembers
  rw [hfilter, h.mem_tail_byName, and_assoc]
  refine and_congr_right fun hs => and_congr_right fun hne => ?_
  obtain ⟨d, hd, hcont, -⟩ := h.exists_container_merged hs hne
  rw [Symbol.containerId?_eq hcont, hcont, Option.some.injEq, Option.some.injEq]
  constructor
  · exact h.eq_of_id_eq (mem_symbols_of_merged hd) (mem_symbols_of_merged ht)
  · exact congrArg Symbol.id

/-- A merged namespace has placed symbols and merged namespaces for members. -/
theorem mem_membersOf_merged (h : c.IsBuilt) {t s : Symbol} (ht : t ∈ c.mergedNamespaces)
    (hs : s ∈ c.membersOf t) :
    (s ∈ c.mergedNamespaces ∧ s ≠ c.globalNamespace ∧ s.container? = some t) ∨
      (s.kind.isNamespace = false ∧ s ∈ c.exposed ∧ c.merged.home s = t) := by
  cases hns : s.kind.isNamespace with
  | false => exact Or.inr ⟨rfl, (h.mem_membersOf_other ht hns).1 hs⟩
  | true => exact Or.inl ((h.mem_membersOf_namespace ht hns).1 hs)

/-- No two merged namespaces have a member in common. -/
theorem eq_of_mem_membersOf_merged (h : c.IsBuilt) {t u s : Symbol} (ht : t ∈ c.mergedNamespaces)
    (hu : u ∈ c.mergedNamespaces) (hst : s ∈ c.membersOf t) (hsu : s ∈ c.membersOf u) : t = u := by
  cases hns : s.kind.isNamespace with
  | false =>
      obtain ⟨-, rfl⟩ := (h.mem_membersOf_other ht hns).1 hst
      exact ((h.mem_membersOf_other hu hns).1 hsu).2
  | true =>
      obtain ⟨-, -, hcont⟩ := (h.mem_membersOf_namespace ht hns).1 hst
      rw [((h.mem_membersOf_namespace hu hns).1 hsu).2.2, Option.some.injEq] at hcont
      exact hcont.symm

theorem mem_symbols_of_membersOf (h : c.IsBuilt) {t s : Symbol} (ht : t ∈ c.mergedNamespaces)
    (hs : s ∈ c.membersOf t) : s ∈ c.symbols := by
  rcases h.mem_membersOf_merged ht hs with ⟨hmem, -⟩ | ⟨-, hmem, -⟩
  · exact mem_symbols_of_merged hmem
  · exact mem_symbols_of_exposed hmem

/-- A merged namespace has no member twice. -/
theorem nodup_membersOf_merged (h : c.IsBuilt) {t : Symbol} (ht : t ∈ c.mergedNamespaces) :
    (c.membersOf t).Nodup := by
  rw [h.membersOf_mergedNamespace ht]
  -- namespaces and other members are listed without repetition, and nothing is both
  rw [← (List.filter_append_perm (fun s => s.kind.isNamespace) _).nodup_iff, List.nodup_append]
  refine ⟨?_, ?_, ?_⟩
  · have hnodup := h.nodup_mergedNamespaces
    rw [h.mergedNamespaces_eq, List.nodup_cons] at hnodup
    rw [h.places_merged.filter_members_namespaces]
    exact hnodup.2.filter _
  · rw [h.places_merged.filter_members_others]
    exact h.nodup_exposed.filter _
  · intro s hs u hu heq
    have hsns := (List.mem_filter.1 hs).2
    have huns := (List.mem_filter.1 hu).2
    rw [← heq, hsns] at huns
    exact Bool.noConfusion huns

/-- A member of a merged namespace is held once. -/
theorem holdsOnce (h : c.IsBuilt) {t s : Symbol} (ht : t ∈ c.mergedNamespaces)
    (hs : s ∈ c.membersOf t) : c.HoldsOnce t s := by
  have hsymbol := h.mem_symbols_of_membersOf ht hs
  constructor
  · refine Symbol.countP_sameAs_eq_one ((h.nodup_membersOf_merged ht).map_on ?_) hs
    intro m hm n hn hid
    exact h.eq_of_id_eq (h.mem_symbols_of_membersOf ht hm) (h.mem_symbols_of_membersOf ht hn) hid
  · intro u hu hne
    rw [List.countP_eq_zero]
    intro m hm hsame
    have heq := h.eq_of_id_eq hsymbol (h.mem_symbols_of_membersOf hu hm)
      (Symbol.id_eq_of_sameAs hsame)
    rw [← heq] at hm
    rw [h.eq_of_mem_membersOf_merged hu ht hm hs, Symbol.sameAs_self] at hne
    exact Bool.noConfusion hne

/-- Every merged namespace can be reached from the global one. -/
theorem reachable_merged (h : c.IsBuilt) {t : Symbol} (ht : t ∈ c.mergedNamespaces) :
    Relation.ReflTransGen (fun d u => u ∈ c.membersOf d) c.globalNamespace t := by
  -- the induction is on numbers, because containers are older
  induction hn : t.id using Nat.strongRecOn generalizing t with
  | _ n ih =>
      by_cases hne : t = c.globalNamespace
      · rw [hne]
      · obtain ⟨d, hd, hcont, hlt⟩ := h.exists_container_merged ht hne
        have hns : t.kind.isNamespace = true :=
          Kind.isNamespace_iff.2 (h.of_mem_mergedNamespaces ht).2.2
        have hmember := (h.mem_membersOf_namespace hd hns).2 ⟨ht, hne, hcont⟩
        exact (ih d.id (by omega) hd rfl).tail hmember

/-! ## Members of outer namespaces -/

/-- A member of an outer namespace that is no namespace is a member of the merged one. -/
theorem mem_membersOf_of_outer (h : c.IsBuilt) {a : Assembly} (ha : a ∈ c.assemblies)
    {n t s : Symbol} (hn : n ∈ a.outerNamespaces)
    (hfind : c.merged.find? n.qualifiedName = some t) (hs : s ∈ a.membersOf n)
    (hns : s.kind.isNamespace = false) : s ∈ c.membersOf t := by
  have hgrown : a.IsGrown := h.row.isGrown ha
  obtain ⟨hnmem, hnns⟩ := (mem_outerNamespaces hgrown).1 hn
  have hnsymbol := Assembly.mem_symbols_of_exposed hnmem
  rw [membersOf_eq hgrown hnsymbol, mem_membersIn] at hs
  have hcont := Grown.container?_of_containerId? hgrown hs.1 hnsymbol hs.2
  have hexposed := exposed_of_container hgrown hs.1 hnmem hnns hcont
  rw [h.mem_membersOf_other (mem_mergedNamespaces_of_find? hfind) hns]
  exact ⟨List.mem_flatMap_of_mem ha hexposed, Merged.home_of_find? hcont hfind⟩

/-- A member of a merged namespace that is no namespace is a member of an outer namespace. -/
theorem exists_outer_of_mem_membersOf (h : c.IsBuilt) {t s : Symbol}
    (ht : t ∈ c.mergedNamespaces) (hs : s ∈ c.membersOf t) (hns : s.kind.isNamespace = false) :
    ∃ a ∈ c.assemblies, ∃ n ∈ a.outerNamespaces, s ∈ a.membersOf n ∧
      c.merged.find? n.qualifiedName = some t := by
  obtain ⟨hexposed, hhome⟩ := (h.mem_membersOf_other ht hns).1 hs
  obtain ⟨a, ha, hmem⟩ := List.mem_flatMap.1 hexposed
  have hgrown : a.IsGrown := h.row.isGrown ha
  obtain ⟨n, hn, hnns, hcont⟩ := container_of_exposed hgrown hmem
  have houter := (mem_outerNamespaces hgrown).2 ⟨hn, hnns⟩
  obtain ⟨u, hu⟩ := h.exists_find?_outer ha houter
  refine ⟨a, ha, n, houter, ?_, ?_⟩
  · rw [membersOf_eq hgrown (Assembly.mem_symbols_of_exposed hn), mem_membersIn]
    exact ⟨mem_declared_of_exposed hmem, Symbol.containerId?_eq hcont⟩
  · rw [hu, ← hhome, Merged.home_of_find? hcont hu]

/-- An outer namespace has the merged namespace of its qualified name. -/
theorem canonical?_outer (h : c.IsBuilt) {a : Assembly} (ha : a ∈ c.assemblies) {n : Symbol}
    (hn : n ∈ a.outerNamespaces) : c.canonical? n = c.merged.find? n.qualifiedName := by
  obtain ⟨hmem, hns⟩ := (mem_outerNamespaces (h.row.isGrown ha)).1 hn
  exact h.canonical?_eq_find?
    (List.mem_flatMap_of_mem ha (Assembly.mem_symbols_of_exposed hmem)) hns

end IsBuilt

/-! ## The tree -/

/-- The merged namespaces form a tree and have the members of all outer namespaces. -/
structure MergesNamespaces (c : Compilation) : Prop where
  /-- What is no namespace hangs in the merged namespace of its container, once. -/
  held : ∀ a ∈ c.assemblies, ∀ n ∈ a.outerNamespaces, ∃ t ∈ c.mergedNamespaces,
    c.canonical? n = some t ∧
      ∀ s ∈ a.membersOf n, s.kind.isNamespace = false → c.HoldsOnce t s
  /-- Nothing else hangs there but merged namespaces. -/
  origin : ∀ t ∈ c.mergedNamespaces, ∀ s ∈ c.membersOf t, s.kind.isNamespace = false →
    ∃ a ∈ c.assemblies, ∃ n ∈ a.outerNamespaces, s ∈ a.membersOf n ∧ c.canonical? n = some t
  /-- The members of one assembly come before those of the next. -/
  ordered : ∀ t ∈ c.mergedNamespaces,
    ((c.membersOf t).filter fun s => !s.kind.isNamespace).Pairwise fun s u =>
      ∃ i j, s.assembly = some i ∧ u.assembly = some j ∧ i ≤ j
  /-- A merged namespace hangs in its container, once. -/
  nested : ∀ t ∈ c.mergedNamespaces, t ≠ c.globalNamespace →
    ∃ d ∈ c.mergedNamespaces, t.container? = some d ∧ c.HoldsOnce d t
  reachable : ∀ t ∈ c.mergedNamespaces,
    Relation.ReflTransGen (fun d u => u ∈ c.membersOf d) c.globalNamespace t

/-- **The merged namespaces of a compilation form a tree** in which each member of an outer
namespace hangs once, whatever names the namespaces have. -/
theorem mergesNamespaces_build (id : CompilationId) (name : String)
    (documents : List (List Declaration)) (references : List Reference) :
    (build id name documents references).MergesNamespaces := by
  have h : (build id name documents references).IsBuilt := isBuilt_build
  refine ⟨?_, ?_, ?_, ?_, fun t ht => h.reachable_merged ht⟩
  · intro a ha n hn
    obtain ⟨t, hfind⟩ := h.exists_find?_outer ha hn
    have ht := IsBuilt.mem_mergedNamespaces_of_find? hfind
    refine ⟨t, ht, (h.canonical?_outer ha hn).trans hfind, fun s hs hns => ?_⟩
    exact h.holdsOnce ht (h.mem_membersOf_of_outer ha hn hfind hs hns)
  · intro t ht s hs hns
    obtain ⟨a, ha, n, hn, hmember, hfind⟩ := h.exists_outer_of_mem_membersOf ht hs hns
    exact ⟨a, ha, n, hn, hmember, (h.canonical?_outer ha hn).trans hfind⟩
  · intro t ht
    rw [h.membersOf_mergedNamespace ht, h.places_merged.filter_members_others]
    exact h.pairwise_assembly_exposed.filter _
  · intro t ht hne
    obtain ⟨d, hd, hcont, -⟩ := h.exists_container_merged ht hne
    have hns : t.kind.isNamespace = true :=
      Kind.isNamespace_iff.2 (h.of_mem_mergedNamespaces ht).2.2
    exact ⟨d, hd, hcont, h.holdsOnce hd ((h.mem_membersOf_namespace hd hns).2 ⟨ht, hne, hcont⟩)⟩

/-- A namespace whose name has a full stop in it, and a namespace inside of another one with the
same qualified name. Both have a type of the same name. -/
def dottedDocuments : List (List Declaration) :=
  [[⟨"Net.Http", .nameSpace, 0, false, false, [⟨"Client", .classType, 0, false, false, []⟩]⟩,
    ⟨"Net", .nameSpace, 0, false, false, [⟨"Http", .nameSpace, 0, false, false,
      [⟨"Client", .classType, 0, false, false, []⟩]⟩]⟩]]

/-- Both namespaces are merged into one, which has each of the two types once. -/
theorem mergesNamespaces_build_dottedDocuments :
    ∃ t, (build ⟨0⟩ "App" dottedDocuments []).canonical?
        ⟨⟨0⟩, some 0, ⟨1, "Net.Http", .nameSpace, 0, 0, false, false⟩, [.global 0]⟩ = some t ∧
      (build ⟨0⟩ "App" dottedDocuments []).HoldsOnce t
        ⟨⟨0⟩, some 0, ⟨2, "Client", .classType, 0, 0, false, false⟩,
          [⟨1, "Net.Http", .nameSpace, 0, 0, false, false⟩, .global 0]⟩ ∧
      (build ⟨0⟩ "App" dottedDocuments []).HoldsOnce t
        ⟨⟨0⟩, some 0, ⟨5, "Client", .classType, 0, 0, false, false⟩,
          [⟨4, "Http", .nameSpace, 0, 0, false, false⟩,
            ⟨3, "Net", .nameSpace, 0, 0, false, false⟩, .global 0]⟩ := by
  have hmerges := mergesNamespaces_build ⟨0⟩ "App" dottedDocuments []
  obtain ⟨t, -, hdotted, hheld⟩ := hmerges.held _ List.mem_cons_self
    ⟨⟨0⟩, some 0, ⟨1, "Net.Http", .nameSpace, 0, 0, false, false⟩, [.global 0]⟩ (by decide)
  obtain ⟨u, -, hnested, hheld'⟩ := hmerges.held _ List.mem_cons_self
    ⟨⟨0⟩, some 0, ⟨4, "Http", .nameSpace, 0, 0, false, false⟩,
      [⟨3, "Net", .nameSpace, 0, 0, false, false⟩, .global 0]⟩ (by decide)
  have hsame : u = t := Option.some.inj (hnested.symm.trans hdotted)
  subst hsame
  exact ⟨u, hdotted, hheld _ (by decide) rfl, hheld' _ (by decide) rfl⟩

end Compilation

end SymbolSearch
