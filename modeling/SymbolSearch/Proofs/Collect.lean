import SymbolSearch.Find
import SymbolSearch.Proofs.Collector
import SymbolSearch.Proofs.NameIndex
import SymbolSearch.Proofs.Project
import SymbolSearch.Proofs.Selection

/-!
# Collecting source declarations

There are two ways to the source declarations that a query selects: by way of the declared
names and a coarse filter on kinds (`collectSource`), or by a scan of all declared symbols
(`findMatching`). Both come to `Compilation.sourceMatches`, one directly, the other because the
names answer no only where this list is empty (`matchesFor_eq_nil`). For a target the first way
comes to `Compilation.matchesFor` instead (`returns_collectSource_for`). The names answer yes only
where the coarse filter leaves something (`mightContain_iff_symbolsWithName`).
-/

set_option autoImplicit false

namespace SymbolSearch

open Search

variable {κ : Type}

/-! ## Passes over lists -/

theorem filterMap_ite (keep : Symbol → Bool) (symbols : List Symbol) :
    (symbols.filterMap fun s => if keep s then some s else none) = symbols.filter keep := by
  rw [← List.filterMap_eq_filter]
  apply List.filterMap_congr
  intro s _
  simp only [Option.guard_apply]

/-- The coarse filter loses nothing that belongs into results. -/
theorem Symbol.admits_of_isIncluded {s : Symbol} {filter : Filter}
    (h : s.isIncluded filter = true) : filter.admits s.kind = true := by
  have hmeets : filter.selects s.kind = true := by
    simp only [Symbol.isIncluded, Symbol.meets, Bool.and_eq_true] at h
    exact h.2
  -- both filters look at the kind only, so it is enough to go through the kinds
  obtain ⟨namespaces, types, members⟩ := filter
  revert hmeets
  cases s.kind <;> simp [Filter.selects, Filter.admits, Kind.isNamespace, Kind.isType,
    Kind.isMember]

/-! ## Matching declarations of a compilation -/

namespace Compilation

/-- The declared symbols of the source whose names satisfy the query and that belong into
results. -/
def sourceMatches (c : Compilation) (query : Query) (filter : Filter) : List Symbol :=
  c.source.declared.filter fun s => query.matchesName s.name && s.isIncluded filter

/-- The symbols that the matching declarations come to: they themselves, or what they are resolved
to in a target whose assembly is another one. -/
def matchesFor (c : Compilation) (query : Query) (filter : Filter) :
    Option (Compilation × Assembly) → List Symbol
  | none => c.sourceMatches query filter
  | some (target, a) =>
      if c.source.sameAs a then c.sourceMatches query filter
      else
        ((c.source.declared.filter fun m =>
            filter.admits m.kind && query.matchesName m.name).filterMap fun m =>
          (Key.ofSymbol m).resolve target).filter fun t => t.isIncluded filter

section Runs

variable (c : Compilation) (query : Query) (filter : Filter) (s : Session κ)

theorem completes_symbolsWithName :
    Completes (c.symbolsWithName query filter) s
      (c.source.declared.filter fun m => filter.admits m.kind && query.matchesName m.name) s := by
  have hvisit := completes_visitAll (s := s) scanInterval
    (fun m : Symbol => if filter.admits m.kind && query.matchesName m.name then some m else none)
    c.source.declared
  rw [filterMap_ite fun m => filter.admits m.kind && query.matchesName m.name] at hvisit
  exact hvisit

/-- Behind a filter that selects nothing else, the coarse filter makes no difference. -/
theorem filter_admitted {fine : Symbol → Bool}
    (hfine : ∀ m, fine m = true → filter.admits m.kind = true) :
    (c.source.declared.filter fun m => filter.admits m.kind && query.matchesName m.name).filter
      fine = c.source.declared.filter fun m => query.matchesName m.name && fine m := by
  rw [List.filter_filter]
  apply List.filter_congr
  intro m _
  cases hselected : fine m with
  | false => rw [Bool.false_and, Bool.and_false]
  | true => rw [hfine m hselected, Bool.true_and, Bool.true_and, Bool.and_true]

theorem select_admitted :
    select (c.source.declared.filter fun m => filter.admits m.kind && query.matchesName m.name)
      filter = c.sourceMatches query filter := by
  rw [select_eq, c.filter_admitted query filter fun _ => Symbol.admits_of_isIncluded]
  rfl

theorem completes_matchingIn (target : Option (Compilation × Assembly)) :
    Completes (matchingIn c query filter target) s (c.matchesFor query filter target) s := by
  have hselect : Completes (pure (select (c.source.declared.filter fun m =>
      filter.admits m.kind && query.matchesName m.name) filter)) s
      (c.sourceMatches query filter) s := by
    rw [select_admitted]
    exact completes_pure _
  refine (completes_symbolsWithName c query filter s).bind ?_
  cases target with
  | none => exact (completes_pure _).bind hselect
  | some target =>
      obtain ⟨target, a⟩ := target
      simp only [matchesFor]
      split
      next => exact (completes_pure _).bind hselect
      next =>
        refine (completes_visitAll resolveInterval _ _).bind ?_
        rw [← select_eq]
        exact completes_pure _

end Runs

end Compilation

/-! ## Collecting for a project -/

section Project

variable {p : DocumentProject} {query : Query} {filter : Filter} {s : Session κ}

theorem returns_refuseCustom (hquery : query.kind ≠ .custom) :
    Returns (refuseCustom query) s () s := by
  rw [refuseCustom, if_neg hquery]
  exact returns_pure ()

theorem completes_refuseCustom (hquery : query.kind ≠ .custom) (s : Session κ) :
    Completes (refuseCustom query) s () s :=
  .of_returns rfl fun _ => returns_refuseCustom hquery

/-- The source collector appends what the matching declarations come to. The compilation is built
unless the names rule out a result. -/
theorem appendsOrCancels_appendSource (p : DocumentProject) (hquery : query.kind ≠ .custom)
    (filter : Filter) (target : Option (Compilation × Assembly)) (s : Session κ) :
    (appendSource p.toProject query filter target).AppendsOrCancels s
      (if p.nameIndex.mightContain query filter then
        (p.compileIn s).1.matchesFor query filter target else [])
      (if p.nameIndex.mightContain query filter then (p.compileIn s).2 else s) := by
  obtain ⟨reply, hrequest, hwait⟩ := DocumentProject.completes_request p s
  have hmight : Completes (p.toProject.mightContain query filter) s
      (p.nameIndex.mightContain query filter) s := completes_poll.bind (completes_pure _)
  cases hnames : p.nameIndex.mightContain query filter with
  | false =>
      have hmatching : Completes (requestMatching p.toProject query filter) s none s := by
        refine (completes_refuseCustom hquery s).bind (hmight.bind ?_)
        rw [hnames]
        exact completes_pure _
      rw [if_neg Bool.false_ne_true, if_neg Bool.false_ne_true]
      exact .search_bind hmatching (Collector.appendsOrCancels_pure s)
  | true =>
      have hmatching : Completes (requestMatching p.toProject query filter) s (some reply) s := by
        refine (completes_refuseCustom hquery s).bind (hmight.bind ?_)
        rw [hnames]
        exact hrequest.bind (completes_pure _)
      rw [if_pos rfl, if_pos rfl]
      -- everything in front of the last step only searches
      refine .search_bind hmatching (.search_bind hwait ?_)
      exact .search_bind (Compilation.completes_matchingIn _ query filter _ target)
        (Collector.appendsOrCancels_append _ _)

theorem completes_collectSource (p : DocumentProject) (hquery : query.kind ≠ .custom)
    (filter : Filter) (target : Option (Compilation × Assembly)) (s : Session κ)
    (earlier : List Symbol) :
    Completes (collectSource p.toProject query filter target earlier) s
      (earlier ++ if p.nameIndex.mightContain query filter then
        (p.compileIn s).1.matchesFor query filter target else [])
      (if p.nameIndex.mightContain query filter then (p.compileIn s).2 else s) :=
  (appendsOrCancels_appendSource p hquery filter target s).completes_onto earlier

/-- Where the names of a project answer no, no declared symbol matches, and there is nothing to
collect for any target. -/
theorem matchesFor_eq_nil (hkept : p.IsKeptIn s)
    (hno : p.nameIndex.mightContain query filter = false)
    (target : Option (Compilation × Assembly)) :
    (p.compileIn s).1.matchesFor query filter target = [] := by
  have hadmitted : ((p.compileIn s).1.source.declared.filter fun m =>
      filter.admits m.kind && query.matchesName m.name) = [] := by
    obtain ⟨id, name, documents, references, hdocuments, -, heq⟩ := hkept.compileIn_eq
    rw [heq, List.filter_eq_nil_iff]
    intro m hm hmatches
    rw [Bool.and_eq_true] at hmatches
    -- a matching symbol would be a declaration that the names answer yes to
    have hmatch := NameIndex.matchesName_eq_false hno hdocuments id 0 name .source 0 m hm hmatches.1
    rw [hmatch] at hmatches
    exact Bool.noConfusion hmatches.2
  have hsource : (p.compileIn s).1.sourceMatches query filter = [] := by
    rw [← Compilation.select_admitted, hadmitted]
    rfl
  cases target with
  | none => exact hsource
  | some target =>
      rw [Compilation.matchesFor, hadmitted, hsource]
      exact ite_self _

/-- Collecting appends what the matching declarations come to. The compilation is built unless the
names rule out a result. -/
theorem returns_collectSource_for (hquery : query.kind ≠ .custom) (hs : s.token = .live)
    (hkept : p.IsKeptIn s) (target : Option (Compilation × Assembly)) (earlier : List Symbol) :
    Returns (collectSource p.toProject query filter target earlier) s
      (earlier ++ (p.compileIn s).1.matchesFor query filter target)
      (if p.nameIndex.mightContain query filter then (p.compileIn s).2 else s) := by
  have hcollect := completes_collectSource p hquery filter target s earlier
  have hlive : (p.compileIn s).2.token = .live := by rw [DocumentProject.compileIn_token, hs]
  cases hnames : p.nameIndex.mightContain query filter with
  | false =>
      -- no compilation is built, and none would have given a match
      rw [hnames] at hcollect
      rw [matchesFor_eq_nil hkept hnames target]
      exact hcollect.returns hs hs
  | true =>
      rw [hnames] at hcollect
      exact hcollect.returns hs hlive

/-- Without a target the selected source symbols are appended. -/
theorem returns_collectSource (hquery : query.kind ≠ .custom) (hs : s.token = .live)
    (hkept : p.IsKeptIn s) (earlier : List Symbol) :
    Returns (collectSource p.toProject query filter none earlier) s
      (earlier ++ (p.compileIn s).1.sourceMatches query filter)
      (if p.nameIndex.mightContain query filter then (p.compileIn s).2 else s) :=
  returns_collectSource_for hquery hs hkept none earlier

/-- Scanning all declared symbols finds the selected source symbols. The compilation is always
built. -/
theorem returns_findMatching (hquery : query.kind ≠ .custom) (hs : s.token = .live) :
    Returns (findMatching p.toProject query filter) s
      ((p.compileIn s).1.sourceMatches query filter) (p.compileIn s).2 := by
  have hlive : (p.compileIn s).2.token = .live := by rw [DocumentProject.compileIn_token, hs]
  have hmatches : ∀ m : Symbol, query.matchesSymbol m = query.matchesName m.name := by
    intro m
    cases query with
    | custom accepts => exact absurd rfl hquery
    | _ => rfl
  -- the scan asks each symbol, which for these queries means asking its name
  have hvisit := returns_visitAll hlive scanInterval
    (fun m : Symbol => if query.matchesName m.name then some m else none)
    (p.compileIn s).1.source.declared
  have hselect : select ((p.compileIn s).1.source.declared.filter fun m =>
      query.matchesName m.name) filter = (p.compileIn s).1.sourceMatches query filter := by
    rw [select_eq, List.filter_filter]
    apply List.filter_congr
    intro m _
    exact Bool.and_comm _ _
  rw [filterMap_ite fun m => query.matchesName m.name] at hvisit
  rw [← hselect]
  apply (DocumentProject.returns_compilation hs).bind
  simp only [hmatches]
  exact hvisit.bind (returns_pure _)

/-- **The names and the coarse filter lose nothing.** The block that collecting appends to
earlier results is what the scan of all declared symbols returns, whichever of the two comes
first and whether or not the compilation is kept already. -/
theorem collectSource_eq_findMatching (p : DocumentProject) (query : Query) (filter : Filter)
    (hquery : query.kind ≠ .custom) {s : Session κ} (hs : s.token = .live)
    (hkept : p.IsKeptIn s) (earlier : List Symbol) :
    ∃ (block : List Symbol) (s₁ s₂ : Session κ),
      Returns (collectSource p.toProject query filter none earlier) s (earlier ++ block) s₁ ∧
      Returns (findMatching p.toProject query filter) s block s₂ ∧
      Returns (findMatching p.toProject query filter) s₁ block s₂ ∧
      Returns (collectSource p.toProject query filter none earlier) s₂ (earlier ++ block) s₂ := by
  have hlive : (p.compileIn s).2.token = .live := by rw [DocumentProject.compileIn_token, hs]
  refine ⟨(p.compileIn s).1.sourceMatches query filter, _, _,
    returns_collectSource hquery hs hkept earlier, returns_findMatching hquery hs, ?_, ?_⟩
  · split
    next =>
      have hscan : Returns (findMatching p.toProject query filter) (p.compileIn s).2 _ _ :=
        returns_findMatching hquery hlive
      rw [DocumentProject.compileIn_compileIn] at hscan
      exact hscan
    next => exact returns_findMatching hquery hs
  · -- once the compilation is kept, collecting changes nothing any more
    have hcollect : Returns (collectSource p.toProject query filter none earlier)
        (p.compileIn s).2 _ _ :=
      returns_collectSource hquery hlive (hkept.compileIn p fun _ => rfl) earlier
    rw [DocumentProject.compileIn_compileIn, ite_self] at hcollect
    exact hcollect

/-- A project with a type and an alias of the same name. -/
def aliasProject : DocumentProject :=
  ⟨⟨0⟩, "App", "App", [⟨⟨"reader.txt"⟩, [⟨"Reader", .classType, 0, false, false,
    [⟨"Reader", .alias, 0, false, false, []⟩]⟩]⟩], []⟩

/-- The coarse filter admits the alias as a member, but it is no result of either way. -/
theorem collectSource_eq_findMatching_aliasProject :
    ∃ s, Returns (collectSource aliasProject.toProject (.exact "Reader" false) .typesAndMembers
      none []) Session.initial
      [⟨⟨0⟩, some 0, ⟨1, "Reader", .classType, 0, 0, false, false⟩, [.global 0]⟩] s := by
  obtain ⟨block, s₁, s₂, hcollect, hscan, -, -⟩ := collectSource_eq_findMatching aliasProject
    (.exact "Reader" false) .typesAndMembers (by decide) (s := Session.initial) rfl
    (DocumentProject.isKeptIn_of_compiled_eq_nil aliasProject rfl) []
  have hfound : Returns (findMatching aliasProject.toProject (.exact "Reader" false)
      .typesAndMembers) Session.initial
      [⟨⟨0⟩, some 0, ⟨1, "Reader", .classType, 0, 0, false, false⟩, [.global 0]⟩]
      (aliasProject.compileIn Session.initial).2 := rfl
  rw [(hscan.unique hfound).1] at hcollect
  exact ⟨s₁, hcollect⟩

end Project

/-! ## What the declared names promise -/

/-- **The declared names are exact.** They answer yes to a query and a filter exactly if a
compilation of the documents, asked with a live token, finds a symbol. So the answer no hides no
match, and after the answer yes no compilation is built in vain. -/
theorem mightContain_iff_symbolsWithName (p : DocumentProject) (id : CompilationId) (name : String)
    (references : List Reference) (query : Query) (filter : Filter) {s : Session κ}
    (hs : s.token = .live) :
    ∃ found, Returns ((Compilation.build id name p.trees references).symbolsWithName query filter)
        s found s ∧
      (p.nameIndex.mightContain query filter = true ↔ found ≠ []) := by
  refine ⟨_, (Compilation.completes_symbolsWithName _ query filter s).returns hs hs, ?_⟩
  simp only [Ne, List.filter_eq_nil_iff, not_forall, not_not, exists_prop, Bool.and_eq_true]
  exact NameIndex.mightContain_build_iff_declared p.trees query filter id 0 name .source 0

/-- The alias counts as a member, so the answer for members is yes and the alias is found. There is
no namespace, so the answer for namespaces is no and nothing is found. -/
theorem mightContain_iff_symbolsWithName_aliasProject :
    Session.initial.token = .live ∧
      (∃ found, Returns ((Compilation.build ⟨0⟩ "App" aliasProject.trees []).symbolsWithName
          (.exact "READER" true) .onlyMembers) Session.initial found Session.initial ∧
        found ≠ [] ∧ found.map Symbol.kind = [.alias]) ∧
      ∃ found, Returns ((Compilation.build ⟨0⟩ "App" aliasProject.trees []).symbolsWithName
          (.exact "READER" true) .onlyNamespaces) Session.initial found Session.initial ∧
        found = [] := by
  refine ⟨rfl, ?_, ?_⟩
  · obtain ⟨found, hfound, hiff⟩ := mightContain_iff_symbolsWithName aliasProject ⟨0⟩ "App" []
      (.exact "READER" true) .onlyMembers (s := Session.initial) rfl
    have hrun : Returns ((Compilation.build ⟨0⟩ "App" aliasProject.trees []).symbolsWithName
        (.exact "READER" true) .onlyMembers) Session.initial _ Session.initial := rfl
    refine ⟨found, hfound, hiff.1 (by decide), ?_⟩
    rw [(hfound.unique hrun).1]
    decide
  · obtain ⟨found, hfound, hiff⟩ := mightContain_iff_symbolsWithName aliasProject ⟨0⟩ "App" []
      (.exact "READER" true) .onlyNamespaces (s := Session.initial) rfl
    refine ⟨found, hfound, ?_⟩
    by_contra hne
    exact absurd (hiff.2 hne) (by decide)

end SymbolSearch
