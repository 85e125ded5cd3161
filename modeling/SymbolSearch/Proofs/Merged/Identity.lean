import SymbolSearch.Key
import SymbolSearch.Proofs.Image
import SymbolSearch.Proofs.Merged.Names
import SymbolSearch.Proofs.Merged.Tree

/-!
# Which namespaces are merged

A merged namespace is found by a qualified name, so two outer namespaces of a compilation have the
same one just if their qualified names are the same
(`Compilation.IsBuilt.sameAs_iff_qualifiedName_eq`). Namespaces with the same names on their way
are never kept apart. Namespaces with different names on their way are kept apart as long as no
name has a full stop in it (`Compilation.sameAs_canonical?_iff`): `dottedDocuments` has two
namespaces that are merged, though one is inside of another namespace and the other is not.
-/

set_option autoImplicit false

namespace SymbolSearch

open Assembly

theorem Symbol.qualifiedName_eq_intercalate (s : Symbol) :
    s.qualifiedName = String.intercalate "." s.path := rfl

namespace Compilation

variable {c : Compilation}

namespace IsBuilt

/-- Merged namespaces that are found by different names are different symbols. -/
theorem sameAs_iff_name_eq (h : c.IsBuilt) {name name' : String} {t u : Symbol}
    (ht : c.merged.find? name = some t) (hu : c.merged.find? name' = some u) :
    t.sameAs u = true ↔ name = name' := by
  constructor
  · intro hsame
    exact h.isFormed_merged.name_eq_of_id_eq ht hu (Symbol.id_eq_of_sameAs hsame)
  · rintro rfl
    rw [Option.some.inj (ht.symm.trans hu)]
    exact u.sameAs_self

/-- Outer namespaces have the same merged namespace just if they have the same qualified name. -/
theorem sameAs_iff_qualifiedName_eq (h : c.IsBuilt) {a b : Assembly} (ha : a ∈ c.assemblies)
    (hb : b ∈ c.assemblies) {n m : Symbol} (hn : n ∈ a.outerNamespaces)
    (hm : m ∈ b.outerNamespaces) :
    ∃ t u, c.canonical? n = some t ∧ c.canonical? m = some u ∧
      (t.sameAs u = true ↔ n.qualifiedName = m.qualifiedName) := by
  obtain ⟨t, ht⟩ := h.exists_find?_outer ha hn
  obtain ⟨u, hu⟩ := h.exists_find?_outer hb hm
  exact ⟨t, u, (h.canonical?_outer ha hn).trans ht, (h.canonical?_outer hb hm).trans hu,
    h.sameAs_iff_name_eq ht hu⟩

/-- There are names on the way to a declared symbol. -/
theorem path_ne_nil (h : c.IsBuilt) {a : Assembly} (ha : a ∈ c.assemblies) {s : Symbol}
    (hs : s ∈ a.declared) : s.path ≠ [] := by
  obtain ⟨d, -, hcont, -⟩ := Grown.exists_container (h.row.isGrown ha) s hs
  rw [Symbol.path_of_container hcont]
  exact List.append_ne_nil_of_right_ne_nil _ (List.cons_ne_nil _ _)

end IsBuilt

/-- **Namespaces with the same names on their way have the same merged namespace, and without
full stops in these names no others have.** -/
theorem sameAs_canonical?_iff (id : CompilationId) (name : String)
    (documents : List (List Declaration)) (references : List Reference) {a b : Assembly}
    (ha : a ∈ (build id name documents references).assemblies)
    (hb : b ∈ (build id name documents references).assemblies) {n m : Symbol}
    (hn : n ∈ a.declared) (hm : m ∈ b.declared)
    (hnouter : ∀ node ∈ n.lineage, node.kind.isNamespace = true)
    (hmouter : ∀ node ∈ m.lineage, node.kind.isNamespace = true) :
    ∃ t u, (build id name documents references).canonical? n = some t ∧
      (build id name documents references).canonical? m = some u ∧
      (n.path = m.path → t.sameAs u = true) ∧
      ((∀ s ∈ n.path ++ m.path, '.' ∉ s.toList) → t.sameAs u = true → n.path = m.path) := by
  have h : (build id name documents references).IsBuilt := isBuilt_build
  have hnmem : n ∈ a.outerNamespaces :=
    List.mem_filter.2 ⟨List.mem_cons_of_mem _ hn, List.all_eq_true.2 hnouter⟩
  have hmmem : m ∈ b.outerNamespaces :=
    List.mem_filter.2 ⟨List.mem_cons_of_mem _ hm, List.all_eq_true.2 hmouter⟩
  obtain ⟨t, u, ht, hu, hiff⟩ := h.sameAs_iff_qualifiedName_eq ha hb hnmem hmmem
  refine ⟨t, u, ht, hu, fun hpath => ?_, fun hplain hsame => ?_⟩
  · rw [hiff, Symbol.qualifiedName_eq_intercalate, Symbol.qualifiedName_eq_intercalate, hpath]
  · exact intercalate_injective_of_ne_nil
      (fun s hs => hplain s (List.mem_append_left _ hs))
      (fun s hs => hplain s (List.mem_append_right _ hs))
      (h.path_ne_nil ha hn) (h.path_ne_nil hb hm) (hiff.1 hsame)

/-- A namespace inside of another one, and one of the same name at the top. -/
def nestedDocuments : List (List Declaration) :=
  [[⟨"Net", .nameSpace, 0, false, false, [⟨"Http", .nameSpace, 0, false, false, []⟩]⟩,
    ⟨"Http", .nameSpace, 0, false, false, []⟩]]

/-- A reference that declares the inner namespace too. -/
def nestedReference : Reference := .ofDeclarations ⟨"net.dll"⟩ "Net"
  [⟨"Net", .nameSpace, 0, false, false, [⟨"Http", .nameSpace, 0, false, false, []⟩]⟩]

/-- The inner namespace of the documents. -/
def innerHttp : Symbol :=
  ⟨⟨0⟩, some 0, ⟨2, "Http", .nameSpace, 0, 0, false, false⟩,
    [⟨1, "Net", .nameSpace, 0, 0, false, false⟩, .global 0]⟩

/-- The namespace at the top of the documents. -/
def topHttp : Symbol :=
  ⟨⟨0⟩, some 0, ⟨3, "Http", .nameSpace, 0, 0, false, false⟩, [.global 0]⟩

/-- The inner namespace of the reference. -/
def referencedHttp : Symbol :=
  ⟨⟨0⟩, some 1, ⟨6, "Http", .nameSpace, 0, 0, false, false⟩,
    [⟨5, "Net", .nameSpace, 0, 0, false, false⟩, .global 4]⟩

theorem assemblies_build_nestedDocuments :
    (build ⟨0⟩ "App" nestedDocuments [nestedReference]).assemblies =
      [.build ⟨0⟩ 0 "App" .source 0 nestedDocuments.flatten,
        .build ⟨0⟩ 1 "Net" (.metadata nestedReference.checksum) 4
          [⟨"Net", .nameSpace, 0, false, false, [⟨"Http", .nameSpace, 0, false, false, []⟩]⟩]] := by
  have himage : nestedReference.image = .ok (.new "Net"
      [⟨"Net", .nameSpace, 0, false, false, [⟨"Http", .nameSpace, 0, false, false, []⟩]⟩]) :=
    Reference.image_ofDeclarations _ (by decide)
  simp only [assemblies, build, buildReferenced, himage]
  rfl

/-- The inner namespaces of the documents and of the reference are merged, and the one at the top
is another one. -/
theorem sameAs_canonical?_iff_nestedDocuments :
    ∃ t u v, (build ⟨0⟩ "App" nestedDocuments [nestedReference]).canonical? innerHttp = some t ∧
      (build ⟨0⟩ "App" nestedDocuments [nestedReference]).canonical? referencedHttp = some u ∧
      (build ⟨0⟩ "App" nestedDocuments [nestedReference]).canonical? topHttp = some v ∧
      t.sameAs u = true ∧ t.sameAs v = false := by
  have hassemblies := assemblies_build_nestedDocuments
  obtain ⟨t, u, ht, hu, hsame, -⟩ := sameAs_canonical?_iff ⟨0⟩ "App" nestedDocuments
    [nestedReference] (hassemblies ▸ List.mem_cons_self)
    (hassemblies ▸ List.mem_cons_of_mem _ List.mem_cons_self) (n := innerHttp)
    (m := referencedHttp) (by decide) (by decide) (by decide) (by decide)
  obtain ⟨t', v, ht', hv, -, hdifferent⟩ := sameAs_canonical?_iff ⟨0⟩ "App" nestedDocuments
    [nestedReference] (hassemblies ▸ List.mem_cons_self) (hassemblies ▸ List.mem_cons_self)
    (n := innerHttp) (m := topHttp) (by decide) (by decide) (by decide) (by decide)
  obtain rfl := Option.some.inj (ht.symm.trans ht')
  refine ⟨t, u, v, ht, hu, hv, hsame (by decide), ?_⟩
  exact Bool.eq_false_iff.2 fun h => absurd (hdifferent (by decide) h) (by decide)

/-- Namespaces with different names on their way can have the same merged namespace, if a name
has a full stop in it. The merged namespace takes the place of the first of them, so the key of a
type in the second one leads nowhere. -/
theorem canonical?_conflates_dottedDocuments :
    ∃ n ∈ (build ⟨0⟩ "App" dottedDocuments []).source.declared,
      ∃ m ∈ (build ⟨0⟩ "App" dottedDocuments []).source.declared,
        (∀ node ∈ n.lineage ++ m.lineage, node.kind.isNamespace = true) ∧
        (∃ t, (build ⟨0⟩ "App" dottedDocuments []).canonical? n = some t ∧
          (build ⟨0⟩ "App" dottedDocuments []).canonical? m = some t) ∧
        n.path ≠ m.path ∧
        ∃ s ∈ (build ⟨0⟩ "App" dottedDocuments []).source.declared, s.container? = some m ∧
          (Key.ofSymbol s).resolve (build ⟨0⟩ "App" dottedDocuments []) = none := by
  refine ⟨⟨⟨0⟩, some 0, ⟨1, "Net.Http", .nameSpace, 0, 0, false, false⟩, [.global 0]⟩, by decide,
    ⟨⟨0⟩, some 0, ⟨4, "Http", .nameSpace, 0, 0, false, false⟩,
      [⟨3, "Net", .nameSpace, 0, 0, false, false⟩, .global 0]⟩, by decide, by decide, ?_,
    by decide, ?_⟩
  · exact ⟨⟨⟨0⟩, none, ⟨7, "Net.Http", .nameSpace, 0, 0, false, false⟩, [.global 6]⟩, by decide,
      by decide⟩
  · exact ⟨⟨⟨0⟩, some 0, ⟨5, "Client", .classType, 0, 0, false, false⟩,
      [⟨4, "Http", .nameSpace, 0, 0, false, false⟩,
        ⟨3, "Net", .nameSpace, 0, 0, false, false⟩, .global 0]⟩, by decide, by decide, by decide⟩

end Compilation

end SymbolSearch
