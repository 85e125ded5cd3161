import SymbolSearch.Proofs.Assembly.Relabel
import SymbolSearch.Proofs.Merged.Exposure
import SymbolSearch.Proofs.Symbols

/-!
# Keys lead from one compilation to another

The key of a source symbol is resolved in merged namespaces, where the members of the source
assembly stand together with those of all references, while ordinals were counted in the source
assembly alone. It still finds the source symbol: the source assembly is merged first, so its
members come first in every merged namespace (`Compilation.IsBuilt.merged_eq_foldl`). Below a
container that is no namespace, or that no merged namespace stands for, the key is resolved in
the source assembly itself (`Compilation.IsBuilt.membersOf_symbol`).

`Compilation.IsBuilt.resolve_ofSymbol` says what the key of a source symbol leads to in its own
compilation, and `Compilation.resolve_ofSymbol_across` in another compilation of the same
documents.
-/

set_option autoImplicit false

namespace SymbolSearch

open Assembly

/-- A key does not say in which compilation a symbol is declared. -/
@[simp] theorem Key.ofSymbol_relabel (id : CompilationId) (s : Symbol) :
    Key.ofSymbol (s.relabel id) = Key.ofSymbol s := rfl

namespace Compilation

namespace IsBuilt

variable {c : Compilation}

/-! ## The source assembly in its compilation -/

theorem isGrown_source (h : c.IsBuilt) : c.source.IsGrown :=
  h.row.isGrown List.mem_cons_self

/-- The source assembly is merged first, and everything else is placed after it. -/
theorem merged_eq_foldl (h : c.IsBuilt) (hnamed : c.source.IsWellNamed) :
    ∃ (first : Merged) (rest : List Symbol), first.Shows c.source.exposed ∧
      c.merged = rest.foldl Merged.place first := by
  refine ⟨c.source.exposed.foldl Merged.place (Merged.initial ⟨c.id, nextIdAfter c.assemblies⟩),
    (c.referenced.map Prod.snd).flatMap exposed,
    Merged.shows_exposed h.isGrown_source hnamed ⟨c.id, nextIdAfter c.assemblies⟩, ?_⟩
  rw [h.merged_eq, Merged.build, ← List.foldl_append]
  rfl

/-! ## Following a key -/

/-- The last step of a key is taken where the key of the container leads. -/
theorem resolve_member {s d t : Symbol} (hcont : s.container? = some d)
    (hd : (Key.ofSymbol d).resolve c = some t) :
    (Key.ofSymbol s).resolve c =
      ((c.membersOf t).filter s.node.step.names)[s.node.step.ordinal]? := by
  rw [Key.resolve] at hd ⊢
  rw [Key.steps_ofSymbol hcont, Key.follow_concat, hd, Option.bind_some]

/-- In a merged namespace a step finds what stands for the source symbol there. -/
theorem resolve_of_namespace (h : c.IsBuilt) (hnamed : c.source.IsWellNamed) {s d t : Symbol}
    (hs : s ∈ c.source.declared) (hd : d ∈ c.source.globalNamespace :: c.source.exposed)
    (hns : d.kind.isNamespace = true) (hcont : s.container? = some d)
    (hfind : c.merged.find? d.qualifiedName = some t)
    (hresolve : (Key.ofSymbol d).resolve c = some t) :
    (s.kind.isNamespace = false → (Key.ofSymbol s).resolve c = some s) ∧
      (s.kind.isNamespace = true → ∃ u, c.merged.find? s.qualifiedName = some u ∧
        (Key.ofSymbol s).resolve c = some u) := by
  have hgrown := h.isGrown_source
  have hexposed := exposed_of_container hgrown hs hd hns hcont
  obtain ⟨first, rest, hshows, hmerged⟩ := h.merged_eq_foldl hnamed
  -- the namespace has been there since the source assembly was merged
  obtain ⟨t', ht'⟩ := hshows.exists_find? hd hns
  have hsame : t' = t := by
    have hlater := Merged.find?_foldl_place rest first ht'
    rw [← hmerged, hfind, Option.some.injEq] at hlater
    exact hlater.symm
  subst hsame
  -- what the step finds there is not changed by what has been placed since
  have hstep := Merged.getElem?_members_foldl_place
    (Merged.getElem?_members hshows hgrown hnamed hd hns ht' hexposed hcont) rest
  rw [← hmerged, ← h.membersOf_mergedNamespace (mem_mergedNamespaces_of_find? hfind),
    ← resolve_member hcont hresolve] at hstep
  constructor
  · intro hkind
    rw [hstep, Merged.image_of_not_namespace hkind]
  · intro hkind
    obtain ⟨u, hu⟩ := hshows.exists_find?_visited hexposed hkind
    refine ⟨u, ?_, ?_⟩
    · rw [hmerged]
      exact Merged.find?_foldl_place rest first hu
    · rw [hstep, Merged.image_of_find? hkind hu]

/-- In any other container a step finds the source symbol itself. -/
theorem resolve_of_other (h : c.IsBuilt) {s d : Symbol} (hs : s ∈ c.source.declared)
    (hd : d ∈ c.source.globalNamespace :: c.source.declared) (hcont : s.container? = some d)
    (hresolve : (Key.ofSymbol d).resolve c = some d) : (Key.ofSymbol s).resolve c = some s := by
  rw [resolve_member hcont hresolve, h.membersOf_symbol List.mem_cons_self hd]
  exact getElem?_filter_names h.isGrown_source hs (Symbol.containerId?_eq hcont)

/-- The key of an exposed namespace leads to the merged namespace, and the key of any other
source symbol leads to the symbol. -/
theorem resolve_ofSymbol (h : c.IsBuilt) (hnamed : c.source.IsWellNamed) :
    ∀ s ∈ c.source.globalNamespace :: c.source.declared,
      (s ∈ c.source.globalNamespace :: c.source.exposed → s.kind.isNamespace = true →
        ∃ t, c.merged.find? s.qualifiedName = some t ∧ (Key.ofSymbol s).resolve c = some t) ∧
      ((s ∈ c.source.globalNamespace :: c.source.exposed → s.kind.isNamespace = false) →
        (Key.ofSymbol s).resolve c = some s) := by
  have hgrown := h.isGrown_source
  refine Grown.container_induction hgrown ?_ ?_
  · -- the empty key leads to the merged global namespace
    have hresolve : (Key.ofSymbol c.source.globalNamespace).resolve c =
        some c.merged.globalNamespace := by
      rw [Key.resolve, Key.steps_ofSymbol_global rfl rfl]
      rfl
    constructor
    · intro _ _
      exact ⟨c.merged.globalNamespace, h.find?_merged_empty, hresolve⟩
    · intro hnone
      exact Bool.noConfusion (hnone List.mem_cons_self)
  · intro s hs d hd hcont ih
    -- whether the walk continues among merged namespaces depends on the container only
    by_cases hplaced : d ∈ c.source.globalNamespace :: c.source.exposed ∧ d.kind.isNamespace = true
    · obtain ⟨hexposed, hns⟩ := hplaced
      obtain ⟨t, hfind, hresolve⟩ := ih.1 hexposed hns
      have hmember := exposed_of_container hgrown hs hexposed hns hcont
      obtain ⟨hplain, hmerged⟩ :=
        h.resolve_of_namespace hnamed hs hexposed hns hcont hfind hresolve
      exact ⟨fun _ hkind => hmerged hkind,
        fun hnone => hplain (hnone (List.mem_cons_of_mem _ hmember))⟩
    · constructor
      · intro hexposed _
        exact absurd (isNamespace_of_container hgrown hexposed hcont) hplaced
      · intro _
        have hself := ih.2 fun hexposed => by
          simpa using fun hns => hplaced ⟨hexposed, hns⟩
        exact h.resolve_of_other hs hd hcont hself

end IsBuilt

/-! ## Two compilations of the same documents -/

/-- **The key of a source symbol leads, in every compilation of the same documents, to the source
symbol at the same position, or to the merged namespace that stands for it.** -/
theorem resolve_ofSymbol_across (id₁ id₂ : CompilationId) (name₁ name₂ : String)
    (documents : List (List Declaration)) (references₁ references₂ : List Reference)
    (hnames : ∀ d ∈ documents.flatMap Declaration.preorderList, d.kind.isNamespace = true →
      IsPlain d.name ∧ d.arity = 0)
    (i : Nat) (s₁ : Symbol)
    (hs₁ : (build id₁ name₁ documents references₁).source.declared[i]? = some s₁) :
    ∃ s₂, (build id₂ name₂ documents references₂).source.declared[i]? = some s₂ ∧
      (s₂.kind.isNamespace = false →
        (Key.ofSymbol s₁).resolve (build id₂ name₂ documents references₂) = some s₂) ∧
      (s₂.kind.isNamespace = true → (∀ node ∈ s₂.above, node.kind.isNamespace = true) →
        ∃ t, (build id₂ name₂ documents references₂).canonical? s₂ = some t ∧
          (Key.ofSymbol s₁).resolve (build id₂ name₂ documents references₂) = some t) := by
  have hbuilt : (build id₂ name₂ documents references₂).IsBuilt := isBuilt_build
  have hnamed : (build id₂ name₂ documents references₂).source.IsWellNamed := by
    apply isWellNamed_build
    rw [Declaration.preorderList_flatten]
    exact hnames
  -- the symbol at the same position has the same key
  have hsame : (build id₂ name₂ documents references₂).source.declared[i]? =
      some (s₁.relabel id₂) := by
    have hrelabel : (build id₂ name₂ documents references₂).source.declared =
        (build id₁ name₁ documents references₁).source.declared.map (Symbol.relabel id₂) := by
      rw [source_build, source_build]
      exact declared_build_relabel id₁ id₂ 0 name₁ name₂ .source .source 0 documents.flatten
    rw [hrelabel, List.getElem?_map, hs₁, Option.map_some]
  have hmem := List.mem_cons_of_mem (build id₂ name₂ documents references₂).source.globalNamespace
    (List.mem_of_getElem? hsame)
  obtain ⟨hmerged, hplain⟩ := hbuilt.resolve_ofSymbol hnamed _ hmem
  rw [Key.ofSymbol_relabel] at hmerged hplain
  refine ⟨s₁.relabel id₂, hsame, ?_, ?_⟩
  · intro hkind
    exact hplain fun _ => hkind
  · intro hkind habove
    obtain ⟨t, hfind, hresolve⟩ :=
      hmerged (mem_exposed hbuilt.isGrown_source _ hmem habove) hkind
    rw [← hbuilt.canonical?_eq_find? (List.mem_append_left _ hmem) hkind] at hfind
    exact ⟨t, hfind, hresolve⟩

/-- A document with a namespace, a type in it, and two overloads of a method. -/
def consoleDocuments : List (List Declaration) :=
  [[⟨"System", .nameSpace, 0, false, false, [⟨"Console", .classType, 0, false, false,
    [⟨"Write", .method, 0, false, false, []⟩, ⟨"Write", .method, 0, false, false, []⟩]⟩]⟩]]

/-- A reference that declares a type of the same name in the same namespace. -/
def consoleReference : Reference := .ofDeclarations ⟨"console.dll"⟩ "Console"
  [⟨"System", .nameSpace, 0, false, false, [⟨"Console", .classType, 0, false, false,
    [⟨"Write", .method, 0, false, false, []⟩]⟩]⟩]

/-- The key of the second overload leads to the second overload of the other compilation, although
a reference of that compilation adds to the namespace. -/
theorem resolve_ofSymbol_across_consoleDocuments :
    (Key.ofSymbol ⟨⟨0⟩, some 0, ⟨4, "Write", .method, 0, 1, false, false⟩,
        [⟨2, "Console", .classType, 0, 0, false, false⟩,
          ⟨1, "System", .nameSpace, 0, 0, false, false⟩, .global 0]⟩).resolve
      (build ⟨1⟩ "App" consoleDocuments [consoleReference]) =
    some ⟨⟨1⟩, some 0, ⟨4, "Write", .method, 0, 1, false, false⟩,
      [⟨2, "Console", .classType, 0, 0, false, false⟩,
        ⟨1, "System", .nameSpace, 0, 0, false, false⟩, .global 0]⟩ := by
  obtain ⟨s, hs, hplain, -⟩ := resolve_ofSymbol_across ⟨0⟩ ⟨1⟩ "App" "App" consoleDocuments []
    [consoleReference] (by decide) 3 _ rfl
  have hsecond : (build ⟨1⟩ "App" consoleDocuments [consoleReference]).source.declared[3]? =
      some ⟨⟨1⟩, some 0, ⟨4, "Write", .method, 0, 1, false, false⟩,
        [⟨2, "Console", .classType, 0, 0, false, false⟩,
          ⟨1, "System", .nameSpace, 0, 0, false, false⟩, .global 0]⟩ := by decide +kernel
  rw [hsecond] at hs
  obtain rfl := Option.some.inj hs
  exact hplain rfl

end Compilation

end SymbolSearch
