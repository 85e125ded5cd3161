import SymbolSearch.Index.Search
import SymbolSearch.Proofs.Compilation
import SymbolSearch.Proofs.Index.Mirror
import SymbolSearch.Proofs.Index.Order
import SymbolSearch.Proofs.Session

/-!
# Searching an index

The key of a node leads, in an assembly built from the same image, to the symbol that the node
stands for, and nowhere if it stands for none (`Mirrors.resolveIn_keyAt`). A search in the
index therefore finds what a scan of the declared symbols would find among those that can be
listed (`returns_find`).
-/

set_option autoImplicit false

namespace SymbolSearch

open Assembly

/-- The declared symbols of an assembly that satisfy a query and a filter and that can be listed
together with all their containers below the global namespace, in the order of declaration. -/
def Assembly.listedMatches (a : Assembly) (query : Query) (filter : Filter) : List Symbol :=
  a.declared.filter fun m => query.matchesName m.name && filter.selects m.kind && m.isListed

namespace Index

/-! ## Keys of nodes -/

theorem ancestry_none {nodes : Array IndexedDeclaration} {i : Nat} {node : IndexedDeclaration}
    (hnode : nodes[i]? = some node) (hparent : node.parent = none) :
    ancestry nodes i = [node] := by
  rw [ancestry]
  simp [hnode, hparent]

theorem ancestry_some {nodes : Array IndexedDeclaration} {i p : Nat} {node : IndexedDeclaration}
    (hnode : nodes[i]? = some node) (hparent : node.parent = some p) (hlt : p < i) :
    ancestry nodes i = node :: ancestry nodes p := by
  rw [ancestry]
  simp [hnode, hparent, hlt]

namespace Mirrors

variable {index : Index} {a : Assembly} {t : Table} {images : List (Option Symbol)}

/-- What the last step of a node's key finds in a container that its parent stands for. -/
theorem getElem?_members (hgrown : a.IsGrown)
    (h : Mirrors a.globalNamespace a.declared t images) {i : Nat} {node : IndexedDeclaration}
    {image : Option Symbol} (hnode : t.nodes[i]? = some node) (himage : images[i]? = some image) :
    ((holder a.globalNamespace images node.parent).bind fun c =>
      ((a.membersOf c).filter (stepTo node).names)[(stepTo node).ordinal]?) = image := by
  have hstands := h.stands i node image hnode himage
  have hroot : a.globalNamespace.IsRoot := ⟨rfl, rfl⟩
  -- a symbol is found by its own step; a shadowed node must find nothing
  cases image with
  | some s =>
      obtain ⟨c, hc, hcont, hname, hkind, harity, hordinal⟩ := hstands
      have hs := (h.mem_images.1 (List.mem_of_getElem? himage)).1
      have hstep : stepTo node = s.node.step := by
        simp only [stepTo, Node.step, hname, hkind, harity, hordinal]
      rw [hc, Option.bind_some, membersOf_eq hgrown (h.holder_mem hroot hc).1, hstep]
      exact getElem?_filter_names hgrown hs (Symbol.containerId?_eq hcont)
  | none =>
      cases hc : holder a.globalNamespace images node.parent with
      | none => rfl
      | some c =>
          obtain ⟨hidden, hmem, hcont, -, hhkind, hnkind, hhname, hordinal⟩ := hstands c hc
          rw [Option.bind_some, membersOf_eq hgrown (h.holder_mem hroot hc).1]
          by_contra hne
          obtain ⟨s, hs⟩ := Option.ne_none_iff_exists'.1 hne
          obtain ⟨⟨hsmem, hsid⟩, hstep⟩ := step_eq_of_getElem? hgrown hs
          simp only [stepTo, Node.step, KeyStep.mk.injEq] at hstep
          obtain ⟨hsname, hskind, hsarity, hsordinal⟩ := hstep
          have hsns : s.kind.isNamespace = true := (congrArg Kind.isNamespace hskind).trans hnkind
          -- what it finds is the hidden namespace, and namespaces have the ordinal zero
          have heq : hidden = s := by
            refine hgrown.namespace_unique hmem hsmem hhkind hsns ?_ (hhname.trans hsname.symm)
            rw [hsid, Symbol.containerId?_eq hcont]
          have hzero : s.node.ordinal = 0 := hgrown.ordinal_eq_zero hsmem hsns
          have hpos := hordinal (by rw [heq]; exact hsarity)
          omega

/-- The key of a node leads to the symbol that the node stands for. -/
theorem resolveIn_keyAt (hgrown : a.IsGrown)
    (h : Mirrors a.globalNamespace a.declared t images) (hnodes : index.nodes = t.nodes.toArray)
    (i : Nat) {image : Option Symbol} (himage : images[i]? = some image) :
    (index.keyAt i).resolveIn a = image := by
  -- the induction is on positions, because the parent of a node comes before it
  induction i using Nat.strongRecOn generalizing image with
  | _ i ih =>
      have hi : i < t.nodes.length := by
        rw [← h.length_eq]
        exact (List.getElem?_eq_some_iff.1 himage).1
      have hnode : t.nodes[i]? = some t.nodes[i] := List.getElem?_eq_getElem hi
      have hindexed : index.nodes[i]? = some t.nodes[i] := by
        rw [hnodes, List.getElem?_toArray, hnode]
      rw [← h.getElem?_members hgrown hnode himage]
      cases hparent : t.nodes[i].parent with
      | none =>
          rw [Key.resolveIn, keyAt, ancestry_none hindexed hparent, holder, Option.bind_some]
          rw [List.reverse_singleton, List.map_singleton, Key.follow_cons]
          exact Option.bind_fun_some _
      | some p =>
          have hlt := h.parent_lt i _ p hnode hparent
          have hp : p < images.length := by
            rw [h.length_eq]
            omega
          have hresolved := ih p hlt (List.getElem?_eq_getElem hp)
          rw [Key.resolveIn, keyAt] at hresolved
          rw [Key.resolveIn, keyAt, ancestry_some hindexed hparent hlt, List.reverse_cons,
            List.map_append, List.map_singleton, Key.follow_concat, hresolved, holder,
            List.getElem?_eq_getElem hp, Option.join_some]

/-- The candidates of a query that the filter selects stand for the symbols that satisfy the
query and the filter and can be listed. -/
theorem filterMap_symbolAt (index : Index) (hgrown : a.IsGrown)
    (h : Mirrors a.globalNamespace a.declared t images) (hnodes : index.nodes = t.nodes.toArray)
    (query : Query) (filter : Filter) :
    ((List.range index.nodes.size).filter (index.nameMatches query)).filterMap
        (index.symbolAt a filter) =
      a.listedMatches query filter := by
  have hsize : index.nodes.size = images.length := by rw [hnodes, List.size_toArray, h.length_eq]
  -- position by position, what is found is what the node stands for
  have hvisit : ∀ i ∈ List.range images.length,
      (if index.nameMatches query i then index.symbolAt a filter i else none) =
        images[i]?.join.filter fun s => query.matchesName s.name && filter.selects s.kind := by
    intro i hi
    rw [List.mem_range] at hi
    have himage : images[i]? = some images[i] := List.getElem?_eq_getElem hi
    have hnodeLt : i < t.nodes.length := by rwa [← h.length_eq]
    have hnode : t.nodes[i]? = some t.nodes[i] := List.getElem?_eq_getElem hnodeLt
    have hindexed := hnode
    rw [← List.getElem?_toArray, ← hnodes] at hindexed
    have hstands := h.stands i _ _ hnode himage
    simp only [nameMatches, symbolAt, hindexed]
    rw [h.resolveIn_keyAt hgrown hnodes i himage, himage, Option.join_some]
    cases hsym : images[i] with
    | none => simp
    | some s =>
        rw [hsym] at hstands
        obtain ⟨-, -, -, hname, hkind, -⟩ := hstands
        have hsname : s.name = _ := hname
        have hskind : s.kind = _ := hkind
        simp only [Option.filter_some, hsname, hskind, Bool.and_eq_true]
        split <;> simp_all
  -- all positions in turn give all images
  have himages : images = (List.range images.length).map fun i => images[i]?.join := by
    apply List.ext_getElem (by simp)
    intro i hi _
    simp [hi]
  rw [List.filterMap_filter, hsize, List.filterMap_congr hvisit]
  calc (List.range images.length).filterMap (fun i =>
          images[i]?.join.filter fun s => query.matchesName s.name && filter.selects s.kind)
      = images.filterMap fun image =>
          image.filter fun s => query.matchesName s.name && filter.selects s.kind := by
        conv_rhs => rw [himages, List.filterMap_map]
        rfl
    _ = (images.filterMap id).filter fun s =>
          query.matchesName s.name && filter.selects s.kind := by
        rw [List.filter_filterMap]
        rfl
    _ = a.listedMatches query filter := by
        rw [h.listed, List.filter_filter]
        rfl

end Mirrors

/-! ## Searching -/

section Find

variable {κ : Type}

/-- What a search in the index of an image finds in an assembly of the image: the declared
symbols that satisfy the query and the filter and can be listed. -/
theorem returns_find (image : Image) (checksum : String) (builtAt : Time.Instant)
    (compilation : CompilationId) (ordinal : Nat) (name : String) (origin : Origin) (firstId : Nat)
    (query : Query) (filter : Filter) {s : Session κ} (hs : s.token = .live) :
    Search.Returns
      ((build image checksum builtAt).find query
        (Assembly.build compilation ordinal name origin firstId image.declarations) filter) s
      ((Assembly.build compilation ordinal name origin firstId
        image.declarations).listedMatches query filter) s := by
  obtain ⟨images, h⟩ := mirrors_addTrees
    (g := ⟨compilation, some ordinal, .global firstId, []⟩) ⟨rfl, rfl⟩ image.declarations []
    ⟨[], []⟩ [] none _ Grown.empty (mirrors_nil _) rfl
  change Mirrors _ (declareTrees firstId _ image.declarations []) _ _ at h
  rw [← declared_build compilation ordinal name origin] at h
  have hgrown := isGrown_build compilation ordinal name origin firstId image.declarations
  have hfound := Mirrors.filterMap_symbolAt (build image checksum builtAt) hgrown h rfl query filter
  rw [Index.find, candidates_eq (isOrdered_build image checksum builtAt)
    (isFolded_build image checksum builtAt), ← hfound]
  exact Search.returns_visitAll hs scanInterval _ _

/-- **A search in an index finds what a scan of the assembly finds.** In every compilation that
refers to an image, a search in an index of the image finds, in the order of declaration and
without repetition, the declared symbols that satisfy the query and the filter and that can be
listed together with all their containers. -/
theorem find_eq_scan {id : CompilationId} {name : String} {documents : List (List Declaration)}
    {references : List Reference} {r : Reference} {a : Assembly} {image : Image}
    (hr : (r, a) ∈ (Compilation.build id name documents references).referenced)
    (himage : r.image = .ok image) (checksum : String) (builtAt : Time.Instant) (query : Query)
    (filter : Filter) {s : Session κ} (hs : s.token = .live) :
    Search.Returns ((build image checksum builtAt).find query a filter) s
        (a.listedMatches query filter) s ∧
      (a.listedMatches query filter).Pairwise fun x y => x.sameAs y = false := by
  obtain ⟨image', ordinal, firstId, himage', rfl⟩ := Compilation.mem_referenced hr
  rw [himage, Except.ok.injEq] at himage'
  subst himage'
  refine ⟨returns_find image checksum builtAt id ordinal image.assemblyName _ firstId query filter
    hs, ?_⟩
  -- declared symbols have numbers of their own, so a part of them has no repetitions
  have hnodup := (grown_build id ordinal image.assemblyName (.metadata r.checksum) firstId
    image.declarations).nodup_id
  rw [List.Nodup, List.pairwise_map] at hnodup
  refine (hnodup.filter _).imp fun {x y} hne => ?_
  simp [Symbol.sameAs, hne]

/-- An image with an accessor and an overload of the same name. -/
def overloadImage : Image := .new "Core"
  [⟨"Tools", .classType, 0, false, false,
    [⟨"Run", .method, 0, false, true, []⟩, ⟨"Run", .method, 0, false, false, []⟩]⟩]

/-- A reference to this image. -/
def overloadReference : Reference := .ofDeclarations ⟨"core.dll"⟩ "Core" overloadImage.declarations

/-- The accessor is left out, and the key of the overload counts it. -/
theorem find_eq_scan_overloadImage :
    Search.Returns
      ((build overloadImage "" ⟨0, 0⟩).find (.exact "Run" false)
        (Assembly.build ⟨0⟩ 1 "Core" (.metadata overloadReference.checksum) 1
          overloadImage.declarations) .onlyMembers) Session.initial
      [⟨⟨0⟩, some 1, ⟨4, "Run", .method, 0, 1, false, false⟩,
        [⟨2, "Tools", .classType, 0, 0, false, false⟩, .global 1]⟩] Session.initial := by
  have himage : overloadReference.image = .ok overloadImage := rfl
  have hr : (overloadReference, Assembly.build ⟨0⟩ 1 "Core"
      (.metadata overloadReference.checksum) 1 overloadImage.declarations) ∈
        (Compilation.build ⟨0⟩ "App" [] [overloadReference]).referenced := by
    simp only [Compilation.build, Compilation.buildReferenced, himage]
    exact List.mem_singleton_self _
  exact (find_eq_scan hr himage "" ⟨0, 0⟩ (.exact "Run" false) .onlyMembers rfl).1

end Find

end Index

end SymbolSearch
