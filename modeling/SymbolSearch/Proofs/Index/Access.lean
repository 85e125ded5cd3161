import SymbolSearch.Proofs.Index.Loaded
import SymbolSearch.Proofs.Index.Search

/-!
# Searching loaded indexes

A file may hold any bytes, so what is loaded need not be the index of an image. The check of the
tables is nevertheless enough for a safe search. The look-ups are written once more here so that
they stop without a result where they read a table out of range, or where a walk takes more steps
than it may (`Index.candidates?`, `Index.keyWithin?`); on a loaded index they always have the
result of the look-ups themselves. Whatever a search in such an index finds in an assembly, however
the assembly came about, is declared there and satisfies the query and the filter
(`Index.find_of_load`).
-/

set_option autoImplicit false

namespace SymbolSearch

/-! ## Tests that may have no answer -/

section Tests

variable {α : Type}

/-- The items that pass a test, if it has an answer for each of them. -/
def keepAll? (test : α → Option Bool) : List α → Option (List α)
  | [] => some []
  | a :: as => do
      let passes ← test a
      let rest ← keepAll? test as
      pure (if passes then a :: rest else rest)

/-- The items before the first one that does not pass a test, if it has an answer up to there. -/
def keepWhile? (test : α → Option Bool) : List α → Option (List α)
  | [] => some []
  | a :: as => do
      if ← test a then
        let rest ← keepWhile? test as
        pure (a :: rest)
      else pure []

variable {test : α → Option Bool} {passes : α → Bool} {as : List α}

theorem keepAll?_eq (h : ∀ a ∈ as, test a = some (passes a)) :
    keepAll? test as = some (as.filter passes) := by
  induction as with
  | nil => rfl
  | cons a as ih =>
      obtain ⟨ha, has⟩ := List.forall_mem_cons.1 h
      rw [keepAll?, ha, ih has, List.filter_cons]
      rfl

theorem keepWhile?_eq (h : ∀ a ∈ as, test a = some (passes a)) :
    keepWhile? test as = some (as.takeWhile passes) := by
  induction as with
  | nil => rfl
  | cons a as ih =>
      obtain ⟨ha, has⟩ := List.forall_mem_cons.1 h
      rw [keepWhile?, ha, ih has, List.takeWhile_cons]
      cases passes a with
      | false => rfl
      | true => rfl

end Tests

namespace Index

/-! ## Look-ups that stop where a table is read out of range -/

/-- The binary search, if the test has an answer wherever it is made. -/
def partitionPoint? (below : Nat → Option Bool) (low high : Nat) : Option Nat :=
  if low < high then
    let middle := (low + high) / 2
    match below middle with
    | some true => partitionPoint? below (middle + 1) high
    | some false => partitionPoint? below low middle
    | none => none
  else some low
termination_by high - low
decreasing_by all_goals omega

/-- The lower-case name at a position of the ordering, if both tables are read in range. -/
def foldedAt? (index : Index) (i : Nat) : Option String := do
  let position ← index.sorted[i]?
  index.foldedNames[position]?

/-- The part of the ordering behind `start`, if this is not beyond its end. -/
def sortedFrom? (index : Index) (start : Nat) : Option (List Nat) :=
  if start ≤ index.sorted.size then some (index.sorted.toList.drop start) else none

/-- The name of the node at a position satisfies the query, if there is a node. -/
def nameMatches? (index : Index) (query : Query) (i : Nat) : Option Bool := do
  let node ← index.nodes[i]?
  pure (query.matchesName node.name)

/-- The positions of the nodes with a lower-case name, if all tables are read in range. -/
def positionsOf? (index : Index) (folded : String) : Option (List Nat) := do
  let start ← partitionPoint?
    (fun i => do
      let name ← index.foldedAt? i
      pure (decide (name < folded)))
    0 index.sorted.size
  let behind ← index.sortedFrom? start
  keepWhile?
    (fun i => do
      let name ← index.foldedNames[i]?
      pure (decide (name = folded)))
    behind

/-- The candidates of a query, if all tables are read in range. -/
def candidates? (index : Index) (query : Query) : Option (List Nat) :=
  match query.name? with
  | some name => do
      let positions ← index.positionsOf? (Text.lower name)
      let hits ← keepAll? (index.nameMatches? query) positions
      pure hits.mergeSort
  | none => keepAll? (index.nameMatches? query) (List.range index.nodes.size)

/-- The node at a position and its parents, if there is a node wherever the walk goes and it ends
after at most `steps` nodes. Nothing here keeps a parent from standing after its child. -/
def ancestryWithin? (nodes : Array IndexedDeclaration) :
    (steps : Nat) → Nat → Option (List IndexedDeclaration)
  | 0, _ => none
  | steps + 1, i => do
      let node ← nodes[i]?
      match node.parent with
      | none => pure [node]
      | some parent => do
          let above ← ancestryWithin? nodes steps parent
          pure (node :: above)

/-- The key of the declaration at a position, if the walk to the root stays in range and ends after
at most `steps` nodes. -/
def keyWithin? (index : Index) (steps i : Nat) : Option Key := do
  let nodes ← ancestryWithin? index.nodes steps i
  pure ⟨nodes.reverse.map stepTo⟩

variable {index : Index}

/-! ## They have results -/

theorem partitionPoint_le (below : Nat → Bool) {low high : Nat} (h : low ≤ high) :
    partitionPoint below low high ≤ high := by
  induction low, high using partitionPoint.induct below with
  | case1 low high hlt middle hmiddle ih =>
      rw [partitionPoint, if_pos hlt, if_pos hmiddle]
      exact ih (by omega)
  | case2 low high hlt middle hmiddle ih =>
      rw [partitionPoint, if_pos hlt, if_neg hmiddle]
      exact (ih (by omega)).trans (by omega)
  | case3 low high hlt =>
      rw [partitionPoint, if_neg hlt]
      exact h

theorem partitionPoint?_eq {below? : Nat → Option Bool} {below : Nat → Bool} {n : Nat}
    (h : ∀ i < n, below? i = some (below i)) (low high : Nat) (hn : high ≤ n) :
    partitionPoint? below? low high = some (partitionPoint below low high) := by
  induction low, high using partitionPoint.induct below with
  | case1 low high hlt middle hmiddle ih =>
      have hanswer : below? ((low + high) / 2) = some true := by
        rw [h _ (by omega)]
        exact congrArg some hmiddle
      rw [partitionPoint?, partitionPoint, if_pos hlt, if_pos hlt, if_pos hmiddle]
      simp only [hanswer]
      exact ih hn
  | case2 low high hlt middle hmiddle ih =>
      have hanswer : below? ((low + high) / 2) = some false := by
        rw [h _ (by omega)]
        exact congrArg some (Bool.not_eq_true _ ▸ hmiddle)
      rw [partitionPoint?, partitionPoint, if_pos hlt, if_pos hlt, if_neg hmiddle]
      simp only [hanswer]
      exact ih (by omega)
  | case3 low high hlt =>
      rw [partitionPoint?, partitionPoint, if_neg hlt, if_neg hlt]

theorem nameMatches?_eq (query : Query) {i : Nat} (hi : i < index.nodes.size) :
    index.nameMatches? query i = some (index.nameMatches query i) := by
  rw [nameMatches?, nameMatches, Array.getElem?_eq_getElem hi]
  rfl

theorem ancestry_eq_cons {nodes : Array IndexedDeclaration} {i : Nat} {node : IndexedDeclaration}
    (hnode : nodes[i]? = some node) : ∃ above, ancestry nodes i = node :: above := by
  rw [ancestry, hnode]
  cases hparent : node.parent with
  | none => exact ⟨[], by simp [hparent]⟩
  | some parent =>
      by_cases hlt : parent < i
      · exact ⟨ancestry nodes parent, by simp [hparent, hlt]⟩
      · exact ⟨[], by simp [hparent, hlt]⟩

namespace IsSound

/-- Every entry of the ordering is the position of a node. -/
theorem lt_of_mem_sorted (h : index.IsSound) {i : Nat} (hi : i ∈ index.sorted.toList) :
    i < index.nodes.size :=
  List.mem_range.1 (h.isOrdered.perm.mem_iff.1 hi)

theorem getElem?_foldedNames (h : index.IsSound) {i : Nat} (hi : i < index.nodes.size) :
    index.foldedNames[i]? = some (index.foldedName i) := by
  have hsize : i < index.foldedNames.size := by rwa [h.size_foldedNames]
  simp [foldedName, Array.getD, hsize]

theorem foldedAt?_eq (h : index.IsSound) {i : Nat} (hi : i < index.sorted.size) :
    index.foldedAt? i = some (index.foldedAt i) := by
  have hmem : index.sorted[i] ∈ index.sorted.toList := by simp
  rw [foldedAt?, Array.getElem?_eq_getElem hi, Option.bind_eq_bind, Option.bind_some,
    h.getElem?_foldedNames (h.lt_of_mem_sorted hmem), foldedAt_eq hi]

theorem positionsOf?_eq (h : index.IsSound) (folded : String) :
    index.positionsOf? folded = some (index.positionsOf folded) := by
  have hbelow : ∀ i < index.sorted.size,
      (do let name ← index.foldedAt? i; pure (decide (name < folded))) =
        some (decide (index.foldedAt i < folded)) := by
    intro i hi
    rw [h.foldedAt?_eq hi]
    rfl
  have hpoint := partitionPoint?_eq hbelow 0 index.sorted.size (Nat.le_refl _)
  have hle : partitionPoint (fun i => decide (index.foldedAt i < folded)) 0 index.sorted.size ≤
      index.sorted.size := partitionPoint_le _ (Nat.zero_le _)
  have hrun : ∀ i ∈ index.sorted.toList.drop
      (partitionPoint (fun i => decide (index.foldedAt i < folded)) 0 index.sorted.size),
      (do let name ← index.foldedNames[i]?; pure (decide (name = folded))) =
        some (decide (index.foldedName i = folded)) := by
    intro i hi
    rw [h.getElem?_foldedNames (h.lt_of_mem_sorted (List.mem_of_mem_drop hi))]
    rfl
  rw [positionsOf?, hpoint, Option.bind_eq_bind, Option.bind_some, sortedFrom?, if_pos hle,
    Option.bind_eq_bind, Option.bind_some, keepWhile?_eq hrun]
  rfl

theorem lt_of_mem_positionsOf (h : index.IsSound) {folded : String} {i : Nat}
    (hi : i ∈ index.positionsOf folded) : i < index.nodes.size := by
  rw [positionsOf_eq_filter h.isOrdered] at hi
  exact h.lt_of_mem_sorted (List.mem_filter.1 hi).1

/-- The candidates of a query are found without reading out of range. -/
theorem candidates?_eq (h : index.IsSound) (query : Query) :
    index.candidates? query = some (index.candidates query) := by
  rw [candidates?, candidates]
  cases query.name? with
  | none =>
      exact keepAll?_eq fun i hi => nameMatches?_eq query (List.mem_range.1 hi)
  | some name =>
      have hkept : keepAll? (index.nameMatches? query) (index.positionsOf (Text.lower name)) =
          some ((index.positionsOf (Text.lower name)).filter (index.nameMatches query)) :=
        keepAll?_eq fun i hi => nameMatches?_eq query (h.lt_of_mem_positionsOf hi)
      simp only [h.positionsOf?_eq, Option.bind_eq_bind, Option.bind_some, hkept]
      rfl

theorem lt_of_mem_candidates (h : index.IsSound) {query : Query} {i : Nat}
    (hi : i ∈ index.candidates query) : i < index.nodes.size := by
  rw [candidates] at hi
  cases hname : query.name? with
  | none =>
      rw [hname] at hi
      exact List.mem_range.1 (List.mem_filter.1 hi).1
  | some name =>
      rw [hname] at hi
      exact h.lt_of_mem_positionsOf (List.mem_filter.1 (List.mem_mergeSort.1 hi)).1

/-- The walk from a node to the root stays in range and takes at most one step more than there are
nodes before it. -/
theorem ancestryWithin?_eq (h : index.IsSound) {i : Nat} (hi : i < index.nodes.size) {steps : Nat}
    (hsteps : i < steps) :
    ancestryWithin? index.nodes steps i = some (ancestry index.nodes i) := by
  -- the induction is on positions, because the parent of a node comes before it
  induction i using Nat.strongRecOn generalizing steps with
  | _ i ih =>
      obtain ⟨steps, rfl⟩ := Nat.exists_eq_succ_of_ne_zero (Nat.ne_zero_of_lt hsteps)
      have hnode : index.nodes[i]? = some index.nodes[i] := Array.getElem?_eq_getElem hi
      rw [ancestryWithin?, hnode, Option.bind_eq_bind, Option.bind_some]
      cases hparent : index.nodes[i].parent with
      | none =>
          rw [ancestry_none hnode hparent]
          rfl
      | some parent =>
          have hlt := h.parent_lt i _ parent hnode hparent
          have habove :
              ancestryWithin? index.nodes steps parent = some (ancestry index.nodes parent) :=
            ih parent hlt (by omega) (by omega)
          rw [ancestry_some hnode hparent hlt]
          simp only [habove]
          rfl

theorem keyWithin?_eq (h : index.IsSound) {i : Nat} (hi : i < index.nodes.size) :
    index.keyWithin? (i + 1) i = some (index.keyAt i) := by
  rw [keyWithin?, h.ancestryWithin?_eq hi (Nat.lt_succ_self i)]
  rfl

end IsSound

/-! ## Searching -/

theorem nameMatches_of_mem_candidates {query : Query} {i : Nat}
    (hi : i ∈ index.candidates query) : index.nameMatches query i = true := by
  rw [candidates] at hi
  cases hname : query.name? with
  | none =>
      rw [hname] at hi
      exact (List.mem_filter.1 hi).2
  | some name =>
      rw [hname] at hi
      exact (List.mem_filter.1 (List.mem_mergeSort.1 hi)).2

/-- The symbol for a node is declared by the assembly and has the name and kind of the node, which
the filter selects. -/
theorem symbolAt_eq_some {a : Assembly} {filter : Filter} {i : Nat} {m : Symbol}
    (h : index.symbolAt a filter i = some m) :
    m ∈ a.declared ∧ ∃ node, index.nodes[i]? = some node ∧ m.name = node.name ∧
      m.kind = node.kind ∧ filter.selects node.kind = true := by
  rw [symbolAt] at h
  cases hnode : index.nodes[i]? with
  | none =>
      rw [hnode] at h
      cases h
  | some node =>
      simp only [hnode] at h
      cases hselected : filter.selects node.kind with
      | false => simp [hselected] at h
      | true =>
          rw [hselected, if_pos rfl, Key.resolveIn, keyAt] at h
          obtain ⟨above, habove⟩ := ancestry_eq_cons hnode
          -- the last step of the key is the one to the node itself
          rw [habove, List.reverse_cons, List.map_append, List.map_singleton] at h
          obtain ⟨hmem, hnames⟩ := Assembly.mem_declared_of_follow h
          rw [KeyStep.names, Bool.and_eq_true, Bool.and_eq_true] at hnames
          obtain ⟨⟨hname, hkind⟩, -⟩ := hnames
          exact ⟨hmem, node, rfl, of_decide_eq_true hname, of_decide_eq_true hkind, hselected⟩

/-- **A search in a loaded index is safe.** Whatever bytes the index was loaded from and whatever
the assembly is, all tables are read in range, the walk from a node to the root takes at most one
step more than there are nodes before it, and the search ends; every symbol that it finds is
declared by the assembly, has a name that satisfies the query and a kind that the filter
selects. -/
theorem find_of_load {κ : Type} {files : Files} {path : Path}
    (hload : load files path = .ok index) (query : Query) (a : Assembly) (filter : Filter)
    {s : Session κ} (hs : s.token = .live) :
    index.candidates? query = some (index.candidates query) ∧
      (∀ i ∈ index.candidates query, i < index.nodes.size) ∧
      (∀ i < index.nodes.size, index.keyWithin? (i + 1) i = some (index.keyAt i)) ∧
      ∃ found, Search.Returns (index.find query a filter) s found s ∧
        ∀ m ∈ found, m ∈ a.declared ∧ query.matchesName m.name = true ∧
          filter.selects m.kind = true := by
  have hsound := isSound_of_load hload
  refine ⟨hsound.candidates?_eq query, fun i hi => hsound.lt_of_mem_candidates hi,
    fun i hi => hsound.keyWithin?_eq hi, _, Search.returns_visitAll hs scanInterval _ _, ?_⟩
  intro m hm
  obtain ⟨i, hi, hsymbol⟩ := List.mem_filterMap.1 hm
  obtain ⟨hmem, node, hnode, hname, hkind, hselected⟩ := symbolAt_eq_some hsymbol
  have hmatch := nameMatches_of_mem_candidates hi
  simp only [nameMatches, hnode] at hmatch
  exact ⟨hmem, by rw [hname]; exact hmatch, by rw [hkind]; exact hselected⟩

/-- An index that belongs to no image: its lower-case names are not those of the nodes, and one node
has an ordinal without the ones before it. -/
def forgedIndex : Index :=
  ⟨currentVersion, "", "Net", ⟨0, 0⟩,
    #[⟨"Net", .nameSpace, 0, 0, none⟩, ⟨"Client", .classType, 0, 3, some 0⟩,
      ⟨"Client", .classType, 0, 0, some 0⟩],
    #[2, 1, 0], #["server", "client", "client"]⟩

/-- A file that holds this index, with bytes after it. -/
def forgedFiles : Files := ⟨[(["net.idx"], .file (forgedIndex.encode ++ [7]))]⟩

set_option maxRecDepth 4000 in
theorem load_forgedFiles : load forgedFiles ⟨"net.idx"⟩ = .ok forgedIndex := rfl

/-- An assembly to search in. -/
def clientAssembly : Assembly :=
  .build ⟨0⟩ 0 "App" .source 0
    [⟨"Net", .nameSpace, 0, false, false, [⟨"Client", .classType, 0, false, false, []⟩]⟩]

/-- Both nodes of the name are candidates, and the search ends with symbols of the assembly. -/
theorem find_of_load_forgedFiles :
    forgedIndex.candidates? (.exact "client" true) = some [1, 2] ∧
      forgedIndex.keyWithin? 3 2 =
        some ⟨[⟨"Net", .nameSpace, 0, 0⟩, ⟨"Client", .classType, 0, 0⟩]⟩ ∧
      ∃ found, Search.Returns
        (forgedIndex.find (.exact "client" true) clientAssembly .onlyTypes) Session.initial found
          Session.initial ∧
        ∀ m ∈ found, m ∈ clientAssembly.declared ∧
          (Query.exact "client" true).matchesName m.name = true ∧
          Filter.onlyTypes.selects m.kind = true := by
  have hcandidates : forgedIndex.candidates (.exact "client" true) = [1, 2] := by
    rw [candidates_of_name (isSound_of_load load_forgedFiles).isOrdered rfl]
    decide +kernel
  have hkey : forgedIndex.keyAt 2 =
      ⟨[⟨"Net", .nameSpace, 0, 0⟩, ⟨"Client", .classType, 0, 0⟩]⟩ := by decide +kernel
  have hlive : Session.initial.token = .live := rfl
  obtain ⟨htables, -, hwalk, hfound⟩ := find_of_load load_forgedFiles (.exact "client" true)
    clientAssembly .onlyTypes hlive
  rw [hcandidates] at htables
  refine ⟨htables, ?_, hfound⟩
  rw [← hkey]
  exact hwalk 2 (by decide)

end Index

end SymbolSearch
