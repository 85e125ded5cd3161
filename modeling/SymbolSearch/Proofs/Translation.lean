import SymbolSearch.Proofs.Target

/-!
# Collecting for another compilation of the same source

For a target that is another compilation of the same documents, the source collector resolves each
matching declared symbol there and then judges what it was resolved to. Outside of merged namespaces
this is the counterpart of the symbol and judged like the symbol. A namespace inside of namespaces
only is resolved to a merged namespace, which is marked neither as added by a compiler nor as an
accessor, whatever its declaration says. So these namespaces are collected with their marks
forgotten, and the results for the target are the results without a target, resolved there, exactly
if no matching one of them is marked (`collectSource_translated`). In general they are not
(`collectSource_translated_generated`).
-/

set_option autoImplicit false

namespace SymbolSearch

open Search Assembly

variable {κ : Type}

/-- The symbol is a namespace and all its containers are. -/
def Symbol.isOuterNamespace (s : Symbol) : Bool := s.lineage.all fun node => node.kind.isNamespace

/-- If all items are mapped to something, and `p` says of it what `q` says of the item, it makes no
difference whether items are chosen before or after they are mapped. -/
theorem map_some_filter_filterMap {α β : Type} {f : α → Option β} {p : β → Bool} {q : α → Bool}
    (l : List α) (h : ∀ a ∈ l, ∃ b, f a = some b ∧ p b = q a) :
    ((l.filterMap f).filter p).map some = (l.filter q).map f := by
  induction l with
  | nil => rfl
  | cons a l ih =>
      obtain ⟨b, hb, hp⟩ := h a List.mem_cons_self
      rw [List.filterMap_cons_some hb]
      have hrest := ih fun a' ha' => h a' (List.mem_cons_of_mem a ha')
      cases hq : q a with
      | false =>
          rw [List.filter_cons_of_neg (by rw [hp, hq]; exact Bool.false_ne_true),
            List.filter_cons_of_neg (by rw [hq]; exact Bool.false_ne_true), hrest]
      | true =>
          rw [List.filter_cons_of_pos (by rw [hp, hq]), List.filter_cons_of_pos hq, List.map_cons,
            List.map_cons, hrest, hb]

/-! ## Marks of merged namespaces -/

namespace Merged

/-- No merged namespace is marked as added by a compiler or as an accessor. -/
def IsUnmarked (m : Merged) : Prop :=
  ∀ entry ∈ m.byName, entry.2.isImplicit = false ∧ entry.2.isAccessor = false

theorem isUnmarked_initial (arena : Arena) : (initial arena).IsUnmarked := by
  intro entry hentry
  rw [List.mem_singleton.1 hentry]
  exact ⟨rfl, rfl⟩

theorem IsUnmarked.place {m : Merged} (h : m.IsUnmarked) (s : Symbol) :
    (m.place s).IsUnmarked := by
  rcases place_cases m s with ⟨t, -, -, heq⟩ | ⟨-, -, heq⟩ | ⟨-, heq⟩
  · rw [heq]
    exact h
  · -- a new merged namespace takes over the name of the symbol and nothing else
    rw [heq]
    intro entry hentry
    rcases List.mem_append.1 hentry with hentry | hentry
    · exact h entry hentry
    · rw [List.mem_singleton.1 hentry]
      exact ⟨rfl, rfl⟩
  · rw [heq]
    exact h

theorem IsUnmarked.foldl_place {m : Merged} (h : m.IsUnmarked) (symbols : List Symbol) :
    (symbols.foldl Merged.place m).IsUnmarked := by
  induction symbols generalizing m with
  | nil => exact h
  | cons s symbols ih => exact ih (h.place s)

theorem isUnmarked_build (arena : Arena) (assemblies : List Assembly) :
    (build arena assemblies).IsUnmarked :=
  (isUnmarked_initial arena).foldl_place _

end Merged

namespace Compilation

/-- A merged namespace belongs into results if namespaces are selected. -/
theorem IsBuilt.isIncluded_merged {c : Compilation} (h : c.IsBuilt) {qualifiedName : String}
    {t : Symbol} (hfind : c.merged.find? qualifiedName = some t) (filter : Filter) :
    t.isIncluded filter = filter.namespaces := by
  have hunmarked : c.merged.IsUnmarked := by
    rw [h.merged_eq]
    exact Merged.isUnmarked_build _ _
  obtain ⟨himplicit, haccessor⟩ := hunmarked _ (Merged.IsFormed.mem_byName hfind)
  obtain ⟨-, -, hkind, -⟩ := h.of_find?_merged hfind
  rw [Symbol.isIncluded, himplicit, haccessor, Symbol.meets, hkind]
  simp [Filter.selects, Kind.isNamespace, Kind.isType, Kind.isMember]

end Compilation

/-! ## Judging what symbols are resolved to -/

/-- A declared symbol is reported for another compilation of its source: it belongs into results, or
it is an outer namespace and namespaces are selected. -/
def Symbol.isReported (s : Symbol) (filter : Filter) : Bool :=
  s.isIncluded filter || s.isOuterNamespace && filter.namespaces

/-- The coarse filter loses nothing that is reported. -/
theorem Symbol.admits_of_isReported {s : Symbol} {filter : Filter}
    (h : s.isReported filter = true) : filter.admits s.kind = true := by
  rw [isReported, Bool.or_eq_true, Bool.and_eq_true] at h
  rcases h with h | ⟨houter, hnamespaces⟩
  · exact Symbol.admits_of_isIncluded h
  · have hns : s.kind.isNamespace = true :=
      List.all_eq_true.1 houter s.node List.mem_cons_self
    rw [Filter.admits, if_pos hns, hnamespaces]

namespace Compilation

variable {id id' : CompilationId} {name name' : String} {documents trees : List (List Declaration)}
  {references references' : List Reference}

/-- The declared symbols of the first documents have counterparts in a compilation of all
documents. -/
theorem relabel_mem_declared (hdocuments : documents <+: trees) {m : Symbol}
    (hm : m ∈ (build id name documents references).source.declared) :
    m.relabel id' ∈ (build id' name' trees references').source.declared := by
  obtain ⟨more, rfl⟩ := hdocuments
  have hrelabel : (Assembly.build id' 0 name' .source 0 documents.flatten).declared =
      (build id name documents references).source.declared.map (Symbol.relabel id') := by
    rw [source_build]
    exact declared_build_relabel id id' 0 name name' .source .source 0 documents.flatten
  have hprefix : (Assembly.build id' 0 name' .source 0 documents.flatten).declared <+:
      (build id' name' (documents ++ more) references').source.declared := by
    rw [source_build, declared_build, declared_build, List.flatten_append, declareTrees_append]
    exact prefix_declareTrees _ _ _ _
  apply hprefix.subset
  rw [hrelabel]
  exact List.mem_map_of_mem hm

/-- A declared symbol is resolved in another compilation of its source, and what it is resolved to
belongs into results if the symbol is to be reported. -/
theorem exists_resolve_isIncluded (hdocuments : documents <+: trees)
    (hnames : ∀ d ∈ trees.flatMap Declaration.preorderList, d.kind.isNamespace = true →
      IsPlain d.name ∧ d.arity = 0)
    (filter : Filter) {m : Symbol}
    (hm : m ∈ (build id name documents references).source.declared) :
    ∃ t, (Key.ofSymbol m).resolve (build id' name' trees references') = some t ∧
      t.isIncluded filter = m.isReported filter := by
  have hbuilt : (build id' name' trees references').IsBuilt := isBuilt_build
  have hnamed : (build id' name' trees references').source.IsWellNamed := by
    apply isWellNamed_build
    rw [Declaration.preorderList_flatten]
    exact hnames
  have hcounterpart : m.relabel id' ∈ (build id' name' trees references').source.symbols :=
    List.mem_cons_of_mem _ (relabel_mem_declared hdocuments hm)
  obtain ⟨hmerged, hplain⟩ := hbuilt.resolve_ofSymbol hnamed _ hcounterpart
  rw [Key.ofSymbol_relabel] at hmerged hplain
  have houter_iff : m.isOuterNamespace = true ↔
      m.relabel id' ∈ (build id' name' trees references').source.globalNamespace ::
        (build id' name' trees references').source.exposed ∧
          (m.relabel id').kind.isNamespace = true := by
    rw [← mem_outerNamespaces hbuilt.isGrown_source, outerNamespaces, List.mem_filter,
      and_iff_right hcounterpart]
    rfl
  cases houter : m.isOuterNamespace with
  | true =>
      obtain ⟨hexposed, hns⟩ := houter_iff.1 houter
      obtain ⟨t, hfind, hresolve⟩ := hmerged hexposed hns
      refine ⟨t, hresolve, ?_⟩
      rw [hbuilt.isIncluded_merged hfind, Symbol.isReported, houter, Bool.true_and]
      -- a namespace that belongs into results is selected as a namespace
      cases hincluded : m.isIncluded filter with
      | false => rw [Bool.false_or]
      | true =>
          have hadmits := Symbol.admits_of_isIncluded hincluded
          rw [Filter.admits] at hadmits
          have hkind : m.kind.isNamespace = true := hns
          rw [if_pos hkind] at hadmits
          rw [hadmits, Bool.true_or]
  | false =>
      refine ⟨m.relabel id', hplain fun hexposed => ?_, ?_⟩
      · by_contra hns
        rw [Bool.not_eq_false] at hns
        rw [houter_iff.2 ⟨hexposed, hns⟩] at houter
        exact Bool.noConfusion houter
      · rw [Symbol.isReported, houter, Bool.false_and, Bool.or_false]
        rfl

/-- For another compilation of the source, the matching declared symbols that are to be reported are
resolved there. -/
theorem map_some_matchesFor (hid : id ≠ id') (hdocuments : documents <+: trees)
    (hnames : ∀ d ∈ trees.flatMap Declaration.preorderList, d.kind.isNamespace = true →
      IsPlain d.name ∧ d.arity = 0)
    (query : Query) (filter : Filter) :
    ((build id name documents references).matchesFor query filter
        (some (build id' name' trees references', (build id' name' trees references').source))).map
        some =
      ((build id name documents references).source.declared.filter fun m =>
          query.matchesName m.name && m.isReported filter).map fun m =>
        (Key.ofSymbol m).resolve (build id' name' trees references') := by
  have hother : (build id name documents references).source.sameAs
      (build id' name' trees references').source = false := by
    rw [Assembly.sameAs, Bool.and_eq_false_iff]
    exact Or.inl (decide_eq_false hid)
  have hjudged := map_some_filter_filterMap
    (f := fun m => (Key.ofSymbol m).resolve (build id' name' trees references'))
    (p := fun t => t.isIncluded filter) (q := fun m => m.isReported filter)
    ((build id name documents references).source.declared.filter fun m =>
      filter.admits m.kind && query.matchesName m.name)
    fun m hm => exists_resolve_isIncluded hdocuments hnames filter (List.mem_filter.1 hm).1
  rw [matchesFor, hother, if_neg Bool.false_ne_true, hjudged,
    filter_admitted _ query filter fun _ => Symbol.admits_of_isReported]

/-- Of the symbols that are reported for another compilation, those that belong into results are
selected without a target. -/
theorem sourceMatches_eq_filter (c : Compilation) (query : Query) (filter : Filter) :
    c.sourceMatches query filter =
      (c.source.declared.filter fun m =>
        query.matchesName m.name && m.isReported filter).filter fun m => m.isIncluded filter := by
  rw [sourceMatches, List.filter_filter]
  apply List.filter_congr
  intro m _
  rw [Symbol.isReported]
  cases m.isIncluded filter with
  | false => rw [Bool.and_false, Bool.false_and]
  | true => rw [Bool.true_or, Bool.and_true, Bool.true_and]

end Compilation

/-- An outer namespace that is reported belongs into results unless it is marked. -/
theorem Symbol.isIncluded_of_isOuterNamespace {s : Symbol} {filter : Filter}
    (houter : s.isOuterNamespace = true) (hnamespaces : filter.namespaces = true) :
    s.isIncluded filter = true ↔ s.isImplicit = false ∧ s.isAccessor = false := by
  have hns : s.kind.isNamespace = true := List.all_eq_true.1 houter s.node List.mem_cons_self
  have hmeets : s.meets filter = true := by
    rw [Symbol.meets, Filter.selects, hnamespaces, hns]
    rfl
  rw [Symbol.isIncluded, hmeets, Bool.and_true, Bool.and_eq_true, Bool.not_eq_true',
    Bool.not_eq_true']

/-! ## The two blocks -/

/-- **For another compilation of its source, a project reports what it reports without a target, and
besides the outer namespaces that are marked.** The target is built of the documents of the project,
in which namespaces have plain names and no type parameters. What is appended for it is, in order,
what the matching declared symbols that are reported are resolved to. This is what the block without
a target is resolved to exactly if no matching outer namespace is marked, or namespaces are not
selected. -/
theorem collectSource_translated (p : DocumentProject) (query : Query)
    (hquery : query.kind ≠ .custom) (filter : Filter) {s : Session κ} (hs : s.token = .live)
    (hkept : p.IsKeptIn s)
    (hnames : ∀ d ∈ p.trees.flatMap Declaration.preorderList, d.kind.isNamespace = true →
      IsPlain d.name ∧ d.arity = 0)
    (target : Compilation) {id : CompilationId} {name : String} {references : List Reference}
    (htarget : target = Compilation.build id name p.trees references)
    (hother : (p.compileIn s).1.id ≠ target.id) (earlier : List Symbol) :
    ∃ block block' s₁ s₂,
      Returns (collectSource p.toProject query filter none earlier) s (earlier ++ block) s₁ ∧
      Returns (collectSource p.toProject query filter (some (target, target.source)) earlier) s
        (earlier ++ block') s₂ ∧
      block'.map some =
        ((p.compileIn s).1.source.declared.filter fun m =>
            query.matchesName m.name && m.isReported filter).map
          (fun m => (Key.ofSymbol m).resolve target) ∧
      (block'.map some = block.map (fun m => (Key.ofSymbol m).resolve target) ↔
        ∀ m ∈ (p.compileIn s).1.source.declared, query.matchesName m.name = true →
          m.isOuterNamespace = true → filter.namespaces = true →
          m.isImplicit = false ∧ m.isAccessor = false) := by
  subst htarget
  have hblock : ((p.compileIn s).1.matchesFor query filter
        (some (.build id name p.trees references, (Compilation.build id name p.trees
          references).source))).map some =
      ((p.compileIn s).1.source.declared.filter fun m =>
          query.matchesName m.name && m.isReported filter).map fun m =>
        (Key.ofSymbol m).resolve (.build id name p.trees references) := by
    obtain ⟨id', name', documents', references', hdocuments, -, heq⟩ := hkept.compileIn_eq
    rw [heq] at hother ⊢
    exact Compilation.map_some_matchesFor hother hdocuments hnames query filter
  refine ⟨_, _, _, _, returns_collectSource hquery hs hkept earlier,
    returns_collectSource_for hquery hs hkept _ earlier, hblock, ?_⟩
  rw [hblock, Compilation.sourceMatches_eq_filter]
  constructor
  · intro heq m hm hmatch houter hnamespaces
    -- both blocks have the same length, so everything that is reported belongs into results
    have hlength := congrArg List.length heq
    rw [List.length_map, List.length_map, eq_comm, List.length_filter_eq_length_iff] at hlength
    apply (Symbol.isIncluded_of_isOuterNamespace houter hnamespaces).1
    apply hlength m
    rw [List.mem_filter, hmatch, Symbol.isReported, houter, hnamespaces]
    exact ⟨hm, by simp⟩
  · intro hunmarked
    congr 1
    rw [eq_comm, List.filter_eq_self]
    intro m hm
    obtain ⟨hdeclared, hreported⟩ := List.mem_filter.1 hm
    rw [Bool.and_eq_true, Symbol.isReported, Bool.or_eq_true, Bool.and_eq_true] at hreported
    obtain ⟨hmatch, hincluded | ⟨houter, hnamespaces⟩⟩ := hreported
    · exact hincluded
    · exact (Symbol.isIncluded_of_isOuterNamespace houter hnamespaces).2
        (hunmarked m hdeclared hmatch houter hnamespaces)

/-- A compilation of the document of the console and a reference that adds to its namespace. -/
def extendedConsoleTarget : Compilation :=
  .build ⟨1⟩ "App" Compilation.consoleDocuments [Compilation.consoleReference]

/-- The namespace of the console is reported as the merged namespace of this compilation. -/
theorem collectSource_translated_consoleProject :
    ∃ (block block' : List Symbol) (s₁ s₂ : Session Unit),
      Returns (collectSource consoleProject.toProject (.exact "System" false) .onlyNamespaces none
        []) .initial block s₁ ∧
      Returns (collectSource consoleProject.toProject (.exact "System" false) .onlyNamespaces
        (some (extendedConsoleTarget, extendedConsoleTarget.source)) []) .initial block' s₂ ∧
      block.map Symbol.id = [1] ∧
      block'.map some = block.map fun m => (Key.ofSymbol m).resolve extendedConsoleTarget := by
  obtain ⟨block, block', s₁, s₂, hnone, hsome, -, hsame⟩ := collectSource_translated
    consoleProject (.exact "System" false) (by decide) .onlyNamespaces
    (s := (.initial : Session Unit)) rfl
    (DocumentProject.isKeptIn_of_compiled_eq_nil consoleProject rfl) (by decide)
    extendedConsoleTarget rfl (by decide +kernel) []
  obtain ⟨hblock, -⟩ := hnone.unique (returns_collectSource (by decide) rfl
    (DocumentProject.isKeptIn_of_compiled_eq_nil consoleProject rfl) [])
  refine ⟨block, block', s₁, s₂, hnone, hsome, ?_, hsame.2 (by decide +kernel)⟩
  rw [List.nil_append, List.nil_append] at hblock
  rw [hblock]
  decide +kernel

/-- A project whose only document has a namespace that a compiler has added, with a type in it. -/
def generatedProject : DocumentProject :=
  ⟨⟨0⟩, "App", "App", [⟨⟨"generated.txt"⟩, [⟨"Generated", .nameSpace, 0, true, false,
    [⟨"Widget", .classType, 0, false, false, []⟩]⟩]⟩], []⟩

/-- Another compilation of the same document. -/
def generatedTarget : Compilation := .build ⟨1⟩ "App" generatedProject.trees []

/-- Without a target the namespace is dropped. For the target it is reported. -/
theorem collectSource_translated_generated :
    (∀ d ∈ generatedProject.trees.flatMap Declaration.preorderList, d.kind.isNamespace = true →
      IsPlain d.name ∧ d.arity = 0) ∧
    (generatedProject.compileIn (.initial : Session Unit)).1.id ≠ generatedTarget.id ∧
    ∃ (block block' : List Symbol) (s₁ s₂ : Session Unit),
      Returns (collectSource generatedProject.toProject (.exact "Generated" false) .onlyNamespaces
        none []) .initial block s₁ ∧
      Returns (collectSource generatedProject.toProject (.exact "Generated" false) .onlyNamespaces
        (some (generatedTarget, generatedTarget.source)) []) .initial block' s₂ ∧
      block = [] ∧
      block' = [⟨⟨1⟩, none, ⟨4, "Generated", .nameSpace, 0, 0, false, false⟩, [.global 3]⟩] ∧
      block'.map some ≠ block.map fun m => (Key.ofSymbol m).resolve generatedTarget := by
  have hkept := DocumentProject.isKeptIn_of_compiled_eq_nil generatedProject
    (s := (.initial : Session Unit)) rfl
  refine ⟨by decide, by decide, _, _, _, _, returns_collectSource (by decide) rfl hkept [],
    returns_collectSource_for (by decide) rfl hkept _ [], ?_, ?_, ?_⟩
  · decide +kernel
  · decide +kernel
  · decide +kernel

end SymbolSearch
