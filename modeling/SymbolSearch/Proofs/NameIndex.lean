import SymbolSearch.NameIndex
import SymbolSearch.Proofs.Assembly.Growth

/-!
# What declared names tell

The names of some documents answer yes to a query and a filter exactly if a declaration in the
documents satisfies both, where a kind that is neither namespace nor type counts as a member
(`mightContain_build`). Since every symbol of a source assembly has the name and the kind of a
declaration, the answer no rules out all symbols (`matchesName_eq_false`). Every declaration has a
symbol too, so the answer yes promises one (`mightContain_build_iff_declared`).
-/

set_option autoImplicit false

namespace SymbolSearch

/-- A filter admits a kind if it contains the filter of the kind's category. -/
theorem Filter.contains_filter_ofKind (f : Filter) (kind : Kind) :
    f.contains (Category.ofKind kind).filter = f.admits kind := by
  obtain ⟨namespaces, types, members⟩ := f
  cases kind <;> cases namespaces <;> cases types <;> cases members <;> rfl

namespace NameIndex

/-! ## Contents -/

theorem mem_addNew {x item : Category × String} {items : List (Category × String)} :
    x ∈ addNew item items ↔ x = item ∨ x ∈ items := by
  unfold addNew
  split
  next hmem =>
    rw [List.contains_iff_mem] at hmem
    constructor
    · exact Or.inr
    · rintro (rfl | hx)
      · -- the item is there already
        exact hmem
      · exact hx
  next => exact List.mem_cons

theorem mem_foldl_addNew (item : Declaration → Category × String) (ds : List Declaration)
    (items : List (Category × String)) {x : Category × String} :
    x ∈ ds.foldl (fun items d => addNew (item d) items) items ↔
      x ∈ items ∨ ∃ d ∈ ds, x = item d := by
  induction ds generalizing items with
  | nil => simp
  | cons d ds ih =>
      rw [List.foldl_cons, ih, mem_addNew, List.exists_mem_cons_iff, or_assoc]
      exact or_left_comm

/-- The names and the lower-case names are collected side by side. -/
theorem foldl_insert (ds : List Declaration) (index : NameIndex) :
    ds.foldl insert index =
      ⟨ds.foldl (fun items d => addNew (Category.ofKind d.kind, d.name) items) index.names,
        ds.foldl (fun items d => addNew (Category.ofKind d.kind, Text.lower d.name) items)
          index.folded⟩ := by
  induction ds generalizing index with
  | nil => rfl
  | cons d ds ih =>
      rw [List.foldl_cons, ih]
      rfl

section Build

variable (documents : List (List Declaration))

theorem mem_names_build {x : Category × String} :
    x ∈ (build documents).names ↔
      ∃ d ∈ documents.flatMap Declaration.preorderList, x = (Category.ofKind d.kind, d.name) := by
  rw [build, foldl_insert, mem_foldl_addNew]
  simp [empty]

theorem mem_folded_build {x : Category × String} :
    x ∈ (build documents).folded ↔
      ∃ d ∈ documents.flatMap Declaration.preorderList,
        x = (Category.ofKind d.kind, Text.lower d.name) := by
  rw [build, foldl_insert, mem_foldl_addNew]
  simp [empty]

/-! ## Answers -/

theorem any_names_build (category : Category) (query : Query) :
    ((build documents).names.any fun item =>
        decide (item.1 = category) && query.matchesName item.2) = true ↔
      ∃ d ∈ documents.flatMap Declaration.preorderList,
        Category.ofKind d.kind = category ∧ query.matchesName d.name = true := by
  rw [List.any_eq_true]
  constructor
  · rintro ⟨⟨category', name⟩, hmem, hmatch⟩
    simp only [Bool.and_eq_true, decide_eq_true_eq] at hmatch
    obtain ⟨d, hd, heq⟩ := (mem_names_build documents).1 hmem
    rw [Prod.mk.injEq] at heq
    obtain ⟨rfl, rfl⟩ := heq
    exact ⟨d, hd, hmatch⟩
  · rintro ⟨d, hd, rfl, hmatch⟩
    refine ⟨_, (mem_names_build documents).2 ⟨d, hd, rfl⟩, ?_⟩
    simpa using hmatch

/-- However a query looks into a category, the answer is whether a declaration satisfies it. -/
theorem categoryMightContain_build (category : Category) (query : Query) :
    (build documents).categoryMightContain category query = true ↔
      ∃ d ∈ documents.flatMap Declaration.preorderList,
        Category.ofKind d.kind = category ∧ query.matchesName d.name = true := by
  cases query with
  | exact name ignoreCase =>
      cases ignoreCase with
      | true =>
          simp only [categoryMightContain, List.contains_iff_mem, mem_folded_build, Prod.mk.injEq,
            Query.matchesName, if_true, decide_eq_true_eq]
          simp only [@eq_comm Category]
      | false =>
          simp only [categoryMightContain, List.contains_iff_mem, mem_names_build, Prod.mk.injEq,
            Query.matchesName, decide_eq_true_eq, Bool.false_eq_true, if_false]
          simp only [@eq_comm Category]
  -- all other queries go through the names of the category
  | substring text ignoreCase => exact any_names_build documents category _
  | pattern text p => exact any_names_build documents category _
  | fuzzy name distance => exact any_names_build documents category _
  | custom accepts => exact any_names_build documents category _

/-- The answer is yes exactly if a declaration satisfies the query and is admitted by the
filter. -/
theorem mightContain_build (query : Query) (filter : Filter) :
    (build documents).mightContain query filter = true ↔
      ∃ d ∈ documents.flatMap Declaration.preorderList,
        filter.admits d.kind = true ∧ query.matchesName d.name = true := by
  simp only [mightContain, List.any_eq_true, Bool.and_eq_true, categoryMightContain_build]
  constructor
  · rintro ⟨category, -, hfilter, d, hd, rfl, hmatch⟩
    rw [Filter.contains_filter_ofKind] at hfilter
    exact ⟨d, hd, hfilter, hmatch⟩
  · -- the declaration is found in its own category
    rintro ⟨d, hd, hfilter, hmatch⟩
    refine ⟨Category.ofKind d.kind, ?_, ?_, d, hd, rfl, hmatch⟩
    · cases Category.ofKind d.kind <;> decide
    · rw [Filter.contains_filter_ofKind]
      exact hfilter

end Build

/-- The answer no rules out all symbols of an assembly of the documents, or of some of them. -/
theorem matchesName_eq_false {documents built : List (List Declaration)} {query : Query}
    {filter : Filter} (hno : (build documents).mightContain query filter = false)
    (hbuilt : built <+: documents) (compilation : CompilationId) (ordinal : Nat) (name : String)
    (origin : Origin) (firstId : Nat) :
    ∀ s ∈ (Assembly.build compilation ordinal name origin firstId built.flatten).declared,
      filter.admits s.kind = true → query.matchesName s.name = false := by
  intro s hs hadmits
  rw [Assembly.declared_build] at hs
  rcases Assembly.exists_declaration _ _ _ s hs with hs | ⟨d, hd, hname, hkind, -⟩
  · exact absurd hs List.not_mem_nil
  · -- the declaration of a matching symbol would make the answer yes
    cases hmatch : query.matchesName s.name with
    | false => rfl
    | true =>
        have hyes := (mightContain_build documents query filter).2 ⟨d, ?_, ?_, ?_⟩
        · rw [hno] at hyes
          exact Bool.noConfusion hyes
        · obtain ⟨more, rfl⟩ := hbuilt
          rw [List.flatMap_append, List.mem_append]
          rw [Declaration.preorderList_flatten] at hd
          exact Or.inl hd
        · rw [hkind]
          exact hadmits
        · rw [hname]
          exact hmatch

/-- The answer is yes exactly if an assembly of the documents has a symbol that satisfies the query
and is admitted by the filter. -/
theorem mightContain_build_iff_declared (documents : List (List Declaration)) (query : Query)
    (filter : Filter) (compilation : CompilationId) (ordinal : Nat) (name : String)
    (origin : Origin) (firstId : Nat) :
    (build documents).mightContain query filter = true ↔
      ∃ s ∈ (Assembly.build compilation ordinal name origin firstId documents.flatten).declared,
        filter.admits s.kind = true ∧ query.matchesName s.name = true := by
  constructor
  · intro hyes
    obtain ⟨d, hd, hadmits, hmatch⟩ := (mightContain_build documents query filter).1 hyes
    rw [← Declaration.preorderList_flatten] at hd
    obtain ⟨s, hs, hname, hkind⟩ := Assembly.exists_symbol documents.flatten _ [] d hd
    rw [← hname] at hmatch
    rw [← hkind] at hadmits
    rw [Assembly.declared_build]
    exact ⟨s, hs, hadmits, hmatch⟩
  · rintro ⟨s, hs, hadmits, hmatch⟩
    by_contra hno
    rw [Bool.not_eq_true] at hno
    have hnone := matchesName_eq_false hno List.prefix_rfl compilation ordinal name origin firstId
      s hs hadmits
    rw [hmatch] at hnone
    exact Bool.noConfusion hnone

end NameIndex

end SymbolSearch
