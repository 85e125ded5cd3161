import SymbolSearch.Proofs.Agreement
import SymbolSearch.Proofs.Cancellation
import SymbolSearch.Proofs.Index.Access
import SymbolSearch.Proofs.Key.RoundTrip
import SymbolSearch.Proofs.Key.Unique

/-!
# Collecting for a target

The source collector is told in which compilation its results are wanted. What a key leads to in a
compilation belongs to it (`Compilation.IsBuilt.owns_of_resolve`) and has the name, kind and arity
of the symbol that the key was made of (`Assembly.signature_of_resolve`). Symbols that are not
resolved are those of an assembly of the target already. So all results belong to the target, and
they are like a part of the matching declared symbols, in the same order. The results of the
metadata collector belong to the assembly that is searched, whatever index is used
(`collected_belong`).
-/

set_option autoImplicit false

namespace SymbolSearch

open Search Assembly

variable {κ : Type}

/-- What a symbol has in common with its counterparts in other compilations. -/
def Symbol.signature (s : Symbol) : String × Kind × UInt32 := (s.name, s.kind, s.arity)

/-- A partial map that keeps what `g` and `g'` say of the items keeps a part of the list in
order. -/
theorem exists_sublist_filterMap {α β γ : Type} {f : α → Option β} {g : α → γ} {g' : β → γ}
    (l : List α) (h : ∀ a ∈ l, ∀ b, f a = some b → g' b = g a) :
    ∃ kept : List α, kept.Sublist l ∧ (l.filterMap f).map g' = kept.map g := by
  induction l with
  | nil => exact ⟨[], List.nil_sublist _, rfl⟩
  | cons a l ih =>
      obtain ⟨kept, hsub, hmap⟩ := ih fun a' ha' => h a' (List.mem_cons_of_mem a ha')
      cases hfa : f a with
      | none =>
          refine ⟨kept, hsub.cons a, ?_⟩
          rw [List.filterMap_cons_none hfa, hmap]
      | some b =>
          refine ⟨a :: kept, hsub.cons_cons a, ?_⟩
          rw [List.filterMap_cons_some hfa, List.map_cons, List.map_cons, hmap,
            h a List.mem_cons_self b hfa]

/-! ## Resolved symbols -/

/-- The key of a declared symbol leads to a symbol with the same name, kind and arity. -/
theorem Assembly.signature_of_resolve {a : Assembly} (h : a.IsGrown) {m t : Symbol}
    (hm : m ∈ a.declared) {c : Compilation} (ht : (Key.ofSymbol m).resolve c = some t) :
    t.signature = m.signature := by
  obtain ⟨d, -, hcont, -⟩ := Grown.exists_container h m hm
  rw [Key.resolve, Key.steps_ofSymbol hcont, Key.follow_concat, Option.bind_eq_some_iff] at ht
  obtain ⟨container, -, hfound⟩ := ht
  -- the last step is the step to `m`, and it finds a symbol with the same name, kind and arity
  have hnames := (List.mem_filter.1 (List.mem_of_getElem? hfound)).2
  simp only [KeyStep.names, Bool.and_eq_true, decide_eq_true_eq] at hnames
  obtain ⟨⟨hname, hkind⟩, harity⟩ := hnames
  rw [Symbol.signature, hname, hkind, harity]
  rfl

namespace Compilation

variable {c target : Compilation} {a : Assembly} (query : Query) (filter : Filter)

/-- What a key leads to belongs to the compilation. -/
theorem IsBuilt.owns_of_resolve (h : c.IsBuilt) {key : Key} {s : Symbol}
    (hs : key.resolve c = some s) : c.owns s = true := by
  rw [owns, decide_eq_true_iff]
  rcases h.isTree.of_follow key.steps s hs with hs | ⟨a, ha, hs, -⟩
  · exact (h.of_mem_mergedNamespaces hs).1
  · have howner := Grown.owner (h.row.isGrown ha) s (List.mem_cons_of_mem _ hs)
    exact howner.1.trans (h.row.compilation_eq ha)

/-- What is collected for a target belongs to the target. -/
theorem owns_of_mem_matchesFor (hgrown : c.source.IsGrown) (htarget : target.IsBuilt)
    (ha : a ∈ target.assemblies) {x : Symbol}
    (hx : x ∈ c.matchesFor query filter (some (target, a))) : target.owns x = true := by
  rw [matchesFor] at hx
  split at hx
  next hsame =>
    -- the assembly is one of the target, so its symbols are
    rw [Assembly.sameAs, Bool.and_eq_true, decide_eq_true_iff] at hsame
    have hmem := (List.mem_filter.1 hx).1
    have howner := Grown.owner hgrown x (List.mem_cons_of_mem _ hmem)
    rw [owns, decide_eq_true_iff]
    exact howner.1.trans (hsame.1.trans (htarget.row.compilation_eq ha))
  next =>
    obtain ⟨m, -, hresolve⟩ := List.mem_filterMap.1 (List.mem_filter.1 hx).1
    exact htarget.owns_of_resolve hresolve

/-- What is collected for a target is like a part of the matching declared symbols. -/
theorem signatures_matchesFor (hgrown : c.source.IsGrown) :
    ∃ kept : List Symbol,
      kept.Sublist (c.source.declared.filter fun m => query.matchesName m.name) ∧
      (c.matchesFor query filter (some (target, a))).map Symbol.signature =
        kept.map Symbol.signature := by
  rw [matchesFor]
  split
  next =>
    refine ⟨_, ?_, rfl⟩
    simp only [sourceMatches, Bool.and_comm (query.matchesName _)]
    rw [← List.filter_filter]
    exact List.filter_sublist
  next =>
    have hsignature : ∀ m ∈ (c.source.declared.filter fun m =>
        filter.admits m.kind && query.matchesName m.name), ∀ t,
        (((Key.ofSymbol m).resolve target).filter fun t => t.isIncluded filter) = some t →
          t.signature = m.signature := by
      intro m hm t ht
      obtain ⟨hresolve, -⟩ := Option.filter_eq_some_iff.1 ht
      exact signature_of_resolve hgrown (List.mem_filter.1 hm).1 hresolve
    obtain ⟨kept, hsub, hmap⟩ := exists_sublist_filterMap _ hsignature
    refine ⟨kept, hsub.trans ?_, ?_⟩
    · rw [← List.filter_filter]
      exact List.filter_sublist
    · rw [List.filter_filterMap]
      exact hmap

end Compilation

/-! ## Owners of results -/

/-- **Results belong to the compilation and the assembly that they are collected for.** For a
target, the source collector appends symbols of the target whose names, kinds and arities are those
of some of the matching declared symbols, in order. The metadata collector appends declared symbols
of the assembly that it is given. -/
theorem collected_belong (query : Query) (hquery : query.kind ≠ .custom) (filter : Filter)
    (earlier : List Symbol) :
    (∀ (p : DocumentProject) {s : Session κ}, s.token = .live → p.IsKeptIn s →
      ∀ (id : CompilationId) (name : String) (documents : List (List Declaration))
        (references : List Reference),
      ∀ a ∈ (Compilation.build id name documents references).assemblies, ∃ block s',
        Returns (collectSource p.toProject query filter
          (some (Compilation.build id name documents references, a)) earlier) s
          (earlier ++ block) s' ∧
        (∀ x ∈ block, (Compilation.build id name documents references).owns x = true) ∧
        ∃ kept : List Symbol, kept.Sublist ((p.compileIn s).1.source.declared.filter fun m =>
            query.matchesName m.name) ∧
          block.map Symbol.signature = kept.map Symbol.signature) ∧
    ∀ (a : Assembly) (reference : Option Reference) {s : Session κ}, s.token = .live →
      ∃ block s', Returns (collectMetadata a reference query filter earlier) s
        (earlier ++ block) s' ∧ ∀ x ∈ block, x ∈ a.declared := by
  constructor
  · intro p s hs hkept id name documents references a ha
    have hgrown : (p.compileIn s).1.source.IsGrown := by
      obtain ⟨id', name', documents', references', -, -, heq⟩ := hkept.compileIn_eq
      rw [heq]
      exact Compilation.isBuilt_build.row.isGrown List.mem_cons_self
    refine ⟨_, _, returns_collectSource_for hquery hs hkept _ earlier, fun x hx => ?_,
      Compilation.signatures_matchesFor query filter hgrown⟩
    exact Compilation.owns_of_mem_matchesFor query filter hgrown Compilation.isBuilt_build ha hx
  · intro a reference s hs
    obtain ⟨s', hcollect⟩ := completes_collectMetadata hquery a reference filter s earlier
    refine ⟨_, _, hcollect.returns_withToken hs, fun x hx => ?_⟩
    cases hindex : s.indexOf? reference with
    | none =>
        rw [hindex] at hx
        exact absurd hx List.not_mem_nil
    | some index =>
        rw [hindex] at hx
        obtain ⟨i, -, hsymbol⟩ := List.mem_filterMap.1 hx
        exact (Index.symbolAt_eq_some hsymbol).1

/-- A project with the overloads of the console for its only document. -/
def consoleProject : DocumentProject :=
  ⟨⟨0⟩, "App", "App", Compilation.consoleDocuments.map fun trees => ⟨⟨"console.txt"⟩, trees⟩, []⟩

/-- Another compilation of the same document. -/
def consoleTarget : Compilation := .build ⟨1⟩ "App" Compilation.consoleDocuments []

/-- Both overloads are collected as symbols of the target, and what is collected for a reference is
declared by its assembly. -/
theorem collected_belong_consoleProject :
    (∃ (block : List Symbol) (s' : Session Unit),
      Returns (collectSource consoleProject.toProject (.exact "Write" false) .onlyMembers
        (some (consoleTarget, consoleTarget.source)) []) .initial block s' ∧
      block.map Symbol.id = [3, 4] ∧ ∀ x ∈ block, consoleTarget.owns x = true) ∧
    ∃ (block : List Symbol) (s' : Session Unit),
      Returns (collectMetadata storeAssembly (some storeReference) (.exact "Clear" false)
        .onlyMembers []) .initial block s' ∧ ∀ x ∈ block, x ∈ storeAssembly.declared := by
  constructor
  · obtain ⟨block, s', hreturns, howned, -⟩ := (collected_belong (.exact "Write" false)
      (by decide) .onlyMembers []).1 consoleProject (s := .initial) rfl
      (DocumentProject.isKeptIn_of_compiled_eq_nil consoleProject rfl) ⟨1⟩ "App"
      Compilation.consoleDocuments [] consoleTarget.source List.mem_cons_self
    rw [List.nil_append] at hreturns
    obtain ⟨hblock, -⟩ := hreturns.unique (returns_collectSource_for (by decide) rfl
      (DocumentProject.isKeptIn_of_compiled_eq_nil consoleProject rfl) _ [])
    refine ⟨block, s', hreturns, ?_, howned⟩
    rw [hblock]
    decide +kernel
  · exact (collected_belong (.exact "Clear" false) (by decide) .onlyMembers []).2
      storeAssembly (some storeReference) rfl

end SymbolSearch
