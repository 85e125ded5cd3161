import SymbolSearch.Proofs.Agreement

/-!
# Reopened namespaces

A namespace may be closed after some of its members and opened again for the others. The parts
need not agree in anything but the name: what the later part says about arity and flags is lost.
`Reopens roots roots'` says that one namespace somewhere in `roots`, however deep, is written in two
parts in `roots'`.

Where the later part is declared, the namespace of the earlier part is found
(`Assembly.existingNamespace?_declare`), so the members go where they went before
(`Declaration.Reopens.declareTrees_eq`). Everything that is made of the trees is the same then: the
assembly, a compilation of documents or of references, and what a search finds by way of an index
(`Declaration.Reopens.invisible`). An index is built by other rules, which may leave out one part
and keep the other, and still finds the same symbols.
-/

set_option autoImplicit false

namespace SymbolSearch

open Search

variable {κ κ' : Type}

namespace Declaration

/-- One namespace of a row of trees, or of the members inside it, is written in two parts. -/
inductive Reopens : List Declaration → List Declaration → Prop where
  | here (before after : List Declaration) (name : String) (arity arity' : UInt32)
      (implicit accessor implicit' accessor' : Bool) (members others : List Declaration) :
      Reopens (before ++ ⟨name, .nameSpace, arity, implicit, accessor, members ++ others⟩ :: after)
        (before ++ ⟨name, .nameSpace, arity, implicit, accessor, members⟩ ::
          ⟨name, .nameSpace, arity', implicit', accessor', others⟩ :: after)
  | inside (before after : List Declaration) (name : String) (kind : Kind) (arity : UInt32)
      (implicit accessor : Bool) {children children' : List Declaration} :
      Reopens children children' →
      Reopens (before ++ ⟨name, kind, arity, implicit, accessor, children⟩ :: after)
        (before ++ ⟨name, kind, arity, implicit, accessor, children'⟩ :: after)

/-- Trees before and after make no difference. -/
theorem Reopens.within {roots roots' : List Declaration} (h : Reopens roots roots')
    (earlier later : List Declaration) :
    Reopens (earlier ++ (roots ++ later)) (earlier ++ (roots' ++ later)) := by
  cases h with
  | here before after name arity arity' implicit accessor implicit' accessor' members others =>
      have hhere := Reopens.here (earlier ++ before) (after ++ later) name arity arity' implicit
        accessor implicit' accessor' members others
      simpa only [List.append_assoc, List.cons_append] using hhere
  | inside before after name kind arity implicit accessor hchildren =>
      have hinside := Reopens.inside (earlier ++ before) (after ++ later) name kind arity implicit
        accessor hchildren
      simpa only [List.append_assoc, List.cons_append] using hinside

end Declaration

/-! ## The same symbols -/

namespace Assembly

/-- A namespace that has been found is found again when there are more symbols. -/
theorem existingNamespace?_of_prefix {declared more : List Symbol} (h : declared <+: more)
    {container s : Symbol} {name : String}
    (hfound : existingNamespace? declared container name = some s) :
    existingNamespace? more container name = some s := by
  obtain ⟨added, rfl⟩ := h
  rw [existingNamespace?] at hfound ⊢
  rw [membersIn_append, List.find?_append, hfound, Option.some_or]

/-- What else is said of a namespace that is there already does not count. -/
theorem declare_existing {declared : List Symbol} {container s : Symbol} {name : String}
    (hfound : existingNamespace? declared container name = some s) (firstId : Nat) (arity : UInt32)
    (implicit accessor : Bool) :
    declare firstId container name .nameSpace arity implicit accessor declared = (s, declared) := by
  simp [declare, Kind.isNamespace, hfound]

/-- A namespace is found once it is declared. -/
theorem existingNamespace?_declare (firstId : Nat) (container : Symbol) (name : String)
    (arity : UInt32) (implicit accessor : Bool) (declared : List Symbol) :
    existingNamespace?
        (declare firstId container name .nameSpace arity implicit accessor declared).2 container
        name =
      some (declare firstId container name .nameSpace arity implicit accessor declared).1 := by
  rcases declare_cases firstId container name .nameSpace arity implicit accessor declared with
    ⟨existing, -, hfound, heq⟩ | ⟨hnew, heq⟩
  · rw [heq]
    exact hfound
  · -- none was found before, so the new one is the first of its name
    have hnone := hnew rfl
    rw [existingNamespace?] at hnone
    rw [heq, existingNamespace?, membersIn_append_singleton, if_pos (newSymbol_containerId? ..),
      List.find?_append, hnone, Option.none_or, List.find?_singleton, if_pos (by simp; rfl)]

end Assembly

namespace Declaration.Reopens

variable {roots roots' : List Declaration}

/-- The later part declares its members in the namespace of the earlier part. -/
theorem declareTrees_eq (h : Reopens roots roots') (firstId : Nat) (container : Symbol)
    (declared : List Symbol) :
    Assembly.declareTrees firstId container roots' declared =
      Assembly.declareTrees firstId container roots declared := by
  induction h generalizing container declared with
  | here before after name arity arity' implicit accessor implicit' accessor' members others =>
      rw [Assembly.declareTrees_append, Assembly.declareTrees_append]
      generalize Assembly.declareTrees firstId container before declared = met
      simp only [Assembly.declareTrees_cons, Assembly.declareTrees_append]
      -- the namespace is still found behind the members of the earlier part
      have hfound := Assembly.existingNamespace?_of_prefix
        (Assembly.prefix_declareTrees firstId
          (Assembly.declare firstId container name .nameSpace arity implicit accessor met).1 members
          (Assembly.declare firstId container name .nameSpace arity implicit accessor met).2)
        (Assembly.existingNamespace?_declare firstId container name arity implicit accessor met)
      rw [Assembly.declare_existing hfound]
  | inside before after name kind arity implicit accessor _ ih =>
      rw [Assembly.declareTrees_append, Assembly.declareTrees_append, Assembly.declareTrees_cons,
        Assembly.declareTrees_cons, ih]

theorem build_eq (h : Reopens roots roots') (id : CompilationId) (ordinal : Nat) (name : String)
    (origin : Origin) (firstId : Nat) :
    Assembly.build id ordinal name origin firstId roots' =
      Assembly.build id ordinal name origin firstId roots := by
  have hdeclared : (Assembly.build id ordinal name origin firstId roots').declared =
      (Assembly.build id ordinal name origin firstId roots).declared := by
    rw [Assembly.declared_build, Assembly.declared_build, h.declareTrees_eq]
  have hmembers : (Assembly.build id ordinal name origin firstId roots').members =
      (Assembly.build id ordinal name origin firstId roots).members := by
    rw [Assembly.members_build, Assembly.members_build, hdeclared]
  exact Assembly.ext rfl rfl rfl rfl rfl hdeclared hmembers

theorem build_documents_eq (h : Reopens roots roots') (id : CompilationId) (name : String)
    (before after : List (List Declaration)) (references : List Reference) :
    Compilation.build id name (before ++ roots' :: after) references =
      Compilation.build id name (before ++ roots :: after) references := by
  have hsource := (h.within before.flatten after.flatten).build_eq id 0 name .source 0
  rw [Compilation.build_eq, Compilation.build_eq, List.flatten_append, List.flatten_append,
    List.flatten_cons, List.flatten_cons, hsource]

end Declaration.Reopens

/-! ## Compilations of other images -/

/-- The assembly without the checksum of its image. -/
def Assembly.withoutOrigin (a : Assembly) : Assembly := { a with origin := .source }

namespace Compilation

/-- Both compilations have the same assemblies, whatever images they come from, the same merged
namespaces and the same members of all symbols. -/
structure SameSymbols (c c' : Compilation) : Prop where
  assemblies : c.assemblies.map Assembly.withoutOrigin = c'.assemblies.map Assembly.withoutOrigin
  merged : c.merged = c'.merged
  members : ∀ s, c.membersOf s = c'.membersOf s

/-- Merged namespaces and numbers do not depend on where an assembly comes from. -/
theorem merged_build_withoutOrigin (id : CompilationId) (as : List Assembly) :
    Merged.build ⟨id, nextIdAfter (as.map Assembly.withoutOrigin)⟩
        (as.map Assembly.withoutOrigin) =
      Merged.build ⟨id, nextIdAfter as⟩ as := by
  have hnext : nextIdAfter (as.map Assembly.withoutOrigin) = nextIdAfter as := by
    rw [nextIdAfter, List.getLast?_map, Option.map_map]
    rfl
  rw [hnext, Merged.build, List.flatMap_map]
  rfl

theorem membersOf_eq_ite (c : Compilation) (s : Symbol) :
    c.membersOf s =
      if c.owns s then
        if s.extent? = some .compilation then c.merged.members s.id
        else ((s.assembly.bind c.assembly?).map fun a => a.membersOf s).getD []
      else [] := by
  rw [membersOf]
  split
  · split
    next h => rw [if_pos h]
    next h =>
      rw [if_neg h]
      cases s.assembly.bind c.assembly? with
      | none => rfl
      | some a => rfl
  · rfl

/-- The assemblies decide about the members of a symbol, wherever they come from. -/
theorem membersOf_congr {c c' : Compilation} (hid : c.id = c'.id) (hmerged : c.merged = c'.merged)
    (hassemblies : c.assemblies.map Assembly.withoutOrigin =
      c'.assemblies.map Assembly.withoutOrigin) (s : Symbol) :
    c.membersOf s = c'.membersOf s := by
  have hassembly : (s.assembly.bind c.assembly?).map Assembly.withoutOrigin =
      (s.assembly.bind c'.assembly?).map Assembly.withoutOrigin := by
    cases s.assembly with
    | none => rfl
    | some i =>
        simp only [Option.bind_some, assembly?]
        rw [← List.getElem?_map, ← List.getElem?_map, hassemblies]
  -- the members in an assembly are read off its compilation and its symbols
  have hmembers : ∀ found : Option Assembly, (found.map fun a => a.membersOf s) =
      (found.map Assembly.withoutOrigin).map fun a => a.membersOf s := by
    intro found
    rw [Option.map_map]
    rfl
  rw [membersOf_eq_ite, membersOf_eq_ite, hmembers, hassembly, ← hmembers, owns, owns, hid, hmerged]

section Build

variable {roots roots' : List Declaration} {r r' : Reference} {image image' : Image}

/-- An image with a reopened namespace has the same assembly and leaves the numbers of all later
assemblies as they are. -/
theorem buildReferenced_reopens (h : Declaration.Reopens image.declarations image'.declarations)
    (himage : r.image = .ok image) (himage' : r'.image = .ok image')
    (hname : image'.assemblyName = image.assemblyName) (id : CompilationId)
    (before after : List Reference) (ordinal firstId : Nat) :
    ((buildReferenced ordinal (before ++ r' :: after) ⟨id, firstId⟩).1.map Prod.snd).map
        Assembly.withoutOrigin =
      ((buildReferenced ordinal (before ++ r :: after) ⟨id, firstId⟩).1.map Prod.snd).map
        Assembly.withoutOrigin := by
  induction before generalizing ordinal firstId with
  | nil =>
      rw [List.nil_append, List.nil_append, buildReferenced_of_ok _ _ _ _ himage,
        buildReferenced_of_ok _ _ _ _ himage']
      simp only [h.build_eq, hname, List.map_cons]
      rfl
  | cons first before ih =>
      cases hfirst : first.image with
      | error e =>
          rw [List.cons_append, List.cons_append, buildReferenced_of_error _ _ hfirst,
            buildReferenced_of_error _ _ hfirst]
          exact ih ordinal firstId
      | ok other =>
          rw [List.cons_append, List.cons_append, buildReferenced_of_ok _ _ _ _ hfirst,
            buildReferenced_of_ok _ _ _ _ hfirst]
          exact congrArg (List.cons _) (ih _ _)

theorem sameSymbols_reopens (h : Declaration.Reopens image.declarations image'.declarations)
    (himage : r.image = .ok image) (himage' : r'.image = .ok image')
    (hname : image'.assemblyName = image.assemblyName) (id : CompilationId) (name : String)
    (documents : List (List Declaration)) (before after : List Reference) :
    (build id name documents (before ++ r' :: after)).SameSymbols
      (build id name documents (before ++ r :: after)) := by
  have hassemblies : (build id name documents (before ++ r' :: after)).assemblies.map
        Assembly.withoutOrigin =
      (build id name documents (before ++ r :: after)).assemblies.map Assembly.withoutOrigin := by
    rw [assemblies, assemblies, build_eq, build_eq, List.map_cons, List.map_cons]
    exact congrArg (List.cons _)
      (buildReferenced_reopens h himage himage' hname id before after 1 _)
  have hmerged : (build id name documents (before ++ r' :: after)).merged =
      (build id name documents (before ++ r :: after)).merged := by
    rw [isBuilt_build.merged_eq, isBuilt_build.merged_eq, ← merged_build_withoutOrigin, hassemblies,
      merged_build_withoutOrigin]
    rfl
  exact ⟨hassemblies, hmerged, membersOf_congr rfl hmerged hassemblies⟩

end Build

end Compilation

/-! ## Reopening changes nothing -/

/-- What can be found by way of an index does not depend on the place. -/
theorem Assembly.listedMatches_build_move (id id' : CompilationId) (ordinal ordinal' : Nat)
    (name name' : String) (origin origin' : Origin) (firstId k : Nat) (roots : List Declaration)
    (query : Query) (filter : Filter) :
    (build id' ordinal' name' origin' (firstId + k) roots).listedMatches query filter =
      ((build id ordinal name origin firstId roots).listedMatches query filter).map
        (Symbol.move id' ordinal' k) := by
  rw [listedMatches, listedMatches,
    declared_build_move id id' ordinal ordinal' name name' origin origin', List.filter_map]
  congr 1
  apply List.filter_congr
  intro m _
  simp only [Function.comp_apply, Symbol.move_name, Symbol.move_kind, Symbol.isListed_move]

/-- **A reopened namespace cannot be told from one that is written in one part.** It makes no
difference in an assembly, and none in a compilation, whether it is in a document or in the image
of a reference. A search in an index of the image finds symbols with the same numbers. -/
theorem Declaration.Reopens.invisible {roots roots' : List Declaration} (h : Reopens roots roots') :
    (∀ (id : CompilationId) (ordinal : Nat) (name : String) (origin : Origin) (firstId : Nat),
      Assembly.build id ordinal name origin firstId roots' =
        Assembly.build id ordinal name origin firstId roots) ∧
    (∀ (id : CompilationId) (name : String) (before after : List (List Declaration))
      (references : List Reference),
      Compilation.build id name (before ++ roots' :: after) references =
        Compilation.build id name (before ++ roots :: after) references) ∧
    ∀ {r r' : Reference} {image image' : Image}, r.image = .ok image → r'.image = .ok image' →
      image'.assemblyName = image.assemblyName → image.declarations = roots →
      image'.declarations = roots' →
      (∀ (id : CompilationId) (name : String) (documents : List (List Declaration))
        (before after : List Reference),
        (Compilation.build id name documents (before ++ r' :: after)).SameSymbols
          (Compilation.build id name documents (before ++ r :: after))) ∧
      ∀ (id id' : CompilationId) (ordinal ordinal' firstId : Nat) (builtAt builtAt' : Time.Instant)
        (query : Query) (filter : Filter) {s : Session κ} {s' : Session κ'}, s.token = .live →
        s'.token = .live →
        ∃ found found',
          Returns ((Index.build image r.checksum builtAt).find query
            (.build id ordinal image.assemblyName (.metadata r.checksum) firstId roots) filter)
            s found s ∧
          Returns ((Index.build image' r'.checksum builtAt').find query
            (.build id' ordinal' image'.assemblyName (.metadata r'.checksum) firstId roots') filter)
            s' found' s' ∧
          found'.map Symbol.id = found.map Symbol.id := by
  refine ⟨h.build_eq, h.build_documents_eq, ?_⟩
  rintro r r' image image' himage himage' hname rfl rfl
  refine ⟨Compilation.sameSymbols_reopens h himage himage' hname, ?_⟩
  intro id id' ordinal ordinal' firstId builtAt builtAt' query filter s s' hs hs'
  refine ⟨_, _, Index.returns_find image r.checksum builtAt id ordinal _ _ firstId query filter hs,
    Index.returns_find image' r'.checksum builtAt' id' ordinal' _ _ firstId query filter hs', ?_⟩
  rw [h.build_eq, ← Nat.add_zero firstId, Assembly.listedMatches_build_move id id' ordinal ordinal'
    image.assemblyName _ (.metadata r.checksum), List.map_map, Nat.add_zero]
  rfl

/-- A namespace that a compiler has added, with two types, and a type outside of it. -/
def mailTrees : List Declaration :=
  [⟨"Mail", .nameSpace, 0, true, false,
      [⟨"Client", .classType, 0, false, false, []⟩, ⟨"Server", .classType, 0, false, false, []⟩]⟩,
    ⟨"Server", .classType, 0, false, false, []⟩]

/-- The same trees with the namespace in two parts. The later part looks like one of a program. -/
def reopenedMailTrees : List Declaration :=
  [⟨"Mail", .nameSpace, 0, true, false, [⟨"Client", .classType, 0, false, false, []⟩]⟩,
    ⟨"Mail", .nameSpace, 1, false, false, [⟨"Server", .classType, 0, false, false, []⟩]⟩,
    ⟨"Server", .classType, 0, false, false, []⟩]

theorem reopens_mailTrees : Declaration.Reopens mailTrees reopenedMailTrees :=
  .here [] [⟨"Server", .classType, 0, false, false, []⟩] "Mail" 0 1 true false false false
    [⟨"Client", .classType, 0, false, false, []⟩] [⟨"Server", .classType, 0, false, false, []⟩]

/-- A reference that declares them, with the namespace in one part. -/
def mailReference : Reference := .ofDeclarations ⟨"mail.dll"⟩ "Mail" mailTrees

/-- A reference that declares them, with the namespace in two parts. -/
def reopenedMailReference : Reference := .ofDeclarations ⟨"mail.dll"⟩ "Mail" reopenedMailTrees

/-- The index of the first image lists the type outside only, that of the second image also the
later part of the namespace. The searches agree. -/
theorem Declaration.Reopens.invisible_mailTrees :
    (Compilation.build ⟨1⟩ "App" [] [reopenedMailReference]).SameSymbols
      (Compilation.build ⟨1⟩ "App" [] [mailReference]) ∧
    (Index.build (.new "Mail" mailTrees) mailReference.checksum ⟨0, 0⟩).size = 1 ∧
    (Index.build (.new "Mail" reopenedMailTrees) reopenedMailReference.checksum ⟨0, 0⟩).size = 3 ∧
    ∃ found found',
      Returns ((Index.build (.new "Mail" mailTrees) mailReference.checksum ⟨0, 0⟩).find
        (.exact "Server" false)
        (.build ⟨1⟩ 1 "Mail" (.metadata mailReference.checksum) 1 mailTrees) .onlyTypes)
        Session.initial found Session.initial ∧
      Returns ((Index.build (.new "Mail" reopenedMailTrees) reopenedMailReference.checksum
        ⟨0, 0⟩).find (.exact "Server" false)
        (.build ⟨2⟩ 1 "Mail" (.metadata reopenedMailReference.checksum) 1 reopenedMailTrees)
        .onlyTypes)
        Session.initial found' Session.initial ∧
      found'.map Symbol.id = found.map Symbol.id := by
  have himage : mailReference.image = .ok (.new "Mail" mailTrees) :=
    Reference.image_ofDeclarations _ (by decide)
  have himage' : reopenedMailReference.image = .ok (.new "Mail" reopenedMailTrees) :=
    Reference.image_ofDeclarations _ (by decide)
  obtain ⟨hsame, hfind⟩ := (@Declaration.Reopens.invisible Unit Unit _ _
    reopens_mailTrees).2.2 himage himage' rfl rfl rfl
  exact ⟨hsame ⟨1⟩ "App" [] [] [], by decide, by decide, hfind ⟨1⟩ ⟨2⟩ 1 1 1 ⟨0, 0⟩ ⟨0, 0⟩
    (.exact "Server" false) .onlyTypes rfl rfl⟩

end SymbolSearch
