import SymbolSearch.Proofs.Index.Saved

/-!
# Loaded indexes

A file is accepted as an index if an index can be read from its bytes, which has the current
version and passes the check of its tables (`Index.decode_iff_isSound`). The check compares the
lower-case names with each other and not with the names of the nodes. So an exact query finds,
among the nodes whose name satisfies it, those that the file lists under the right lower-case
name; it agrees with a scan of the names for every query just if the file lists all of them so
(`Index.candidates_of_load`).
-/

set_option autoImplicit false

namespace SymbolSearch

namespace Index

variable {files : Files} {path : Path} {bytes : List UInt8} {index : Index}

/-! ## What is accepted -/

theorem decode_iff_isSound :
    decode path bytes = .ok index ↔
      ∃ rest, decoder bytes = .ok (index, rest) ∧ index.version = currentVersion ∧
        index.IsSound := by
  rw [decode]
  cases hread : decoder bytes with
  | error fault =>
      constructor
      · intro h
        cases h
      · rintro ⟨_, h, -⟩
        cases h
  | ok result =>
      obtain ⟨found, rest⟩ := result
      constructor
      · intro h
        by_cases hversion : found.version = currentVersion
        · cases hfault : found.fault? with
          | some fault => simp [hversion, hfault] at h
          | none =>
              simp only [hversion, hfault, ne_eq, not_true_eq_false, if_false,
                Except.ok.injEq] at h
              subst h
              exact ⟨rest, rfl, hversion, (fault?_eq_none_iff found).1 hfault⟩
        · simp [hversion] at h
      · rintro ⟨rest', heq, hversion, hsound⟩
        rw [Except.ok.injEq, Prod.mk.injEq] at heq
        obtain ⟨rfl, -⟩ := heq
        simp [hversion, (fault?_eq_none_iff found).2 hsound]

theorem load_eq_ok_iff :
    load files path = .ok index ↔
      ∃ bytes, files.read path = .ok bytes ∧ decode path bytes = .ok index := by
  rw [load]
  cases files.read path with
  | error fault =>
      constructor
      · intro h
        cases h
      · rintro ⟨_, h, -⟩
        cases h
  | ok bytes =>
      constructor
      · intro h
        exact ⟨bytes, rfl, h⟩
      · rintro ⟨bytes', heq, h⟩
        rw [Except.ok.inj heq]
        exact h

/-- The tables of an index that is loaded are in order. -/
theorem isSound_of_load (h : load files path = .ok index) : index.IsSound := by
  obtain ⟨bytes, -, hdecode⟩ := load_eq_ok_iff.1 h
  obtain ⟨-, -, -, hsound⟩ := decode_iff_isSound.1 hdecode
  exact hsound

/-! ## Exact queries -/

/-- If the candidates of all exact queries are the nodes that a scan finds, then the lower-case
names are those of the nodes. -/
theorem isFolded_of_candidates (h : index.IsOrdered)
    (hscan : ∀ name ignoreCase, index.candidates (.exact name ignoreCase) =
      (List.range index.nodes.size).filter (index.nameMatches (.exact name ignoreCase))) :
    index.IsFolded := by
  intro i node hnode
  have hlt : i < index.nodes.size := (Array.getElem?_eq_some_iff.1 hnode).1
  -- a scan for the name of the node finds the node, so the exact query does
  have hmatch : index.nameMatches (.exact node.name false) i = true := by
    simp [nameMatches, hnode, Query.matchesName]
  have hmem : i ∈ index.candidates (.exact node.name false) := by
    rw [hscan]
    exact List.mem_filter.2 ⟨List.mem_range.2 hlt, hmatch⟩
  rw [candidates_of_name h rfl, List.mem_filter, Bool.and_eq_true, decide_eq_true_eq] at hmem
  exact hmem.2.2

/-- **An exact query in a loaded index finds the nodes that are listed under their lower-case
name.** In an index that is loaded, its candidates are, in ascending order, the nodes whose name
satisfies it and which the file lists under the lower-case form of the wanted name. They are all
nodes whose name satisfies the query, for every exact query, just if the file lists every node
under the lower-case form of its own name. -/
theorem candidates_of_load (hload : load files path = .ok index) :
    (∀ name ignoreCase, index.candidates (.exact name ignoreCase) =
      (List.range index.nodes.size).filter fun i =>
        index.nameMatches (.exact name ignoreCase) i &&
          decide (index.foldedName i = Text.lower name)) ∧
    ((∀ name ignoreCase, index.candidates (.exact name ignoreCase) =
        (List.range index.nodes.size).filter (index.nameMatches (.exact name ignoreCase))) ↔
      index.IsFolded) := by
  have hordered := (isSound_of_load hload).isOrdered
  refine ⟨fun name ignoreCase => candidates_of_name hordered rfl, ?_, ?_⟩
  · exact isFolded_of_candidates hordered
  · intro hfolded name ignoreCase
    exact candidates_eq hordered hfolded _

/-- An index whose only declaration is listed under the lower-case form of another name. -/
def strayIndex : Index :=
  ⟨currentVersion, "", "Net", ⟨0, 0⟩, #[⟨"Client", .classType, 0, 0, none⟩], #[0], #["server"]⟩

/-- A file that holds this index. -/
def strayFiles : Files := ⟨[(["net.idx"], .file strayIndex.encode)]⟩

theorem load_strayFiles : load strayFiles ⟨"net.idx"⟩ = .ok strayIndex := rfl

/-- A query for the name under which the declaration is listed does not find it, since this is not
its name. -/
theorem candidates_of_load_strayFiles :
    strayIndex.candidates (.exact "server" true) = [] := by
  rw [(candidates_of_load load_strayFiles).1]
  rfl

/-- The file is accepted, and a query for the name of the declaration misses it, although a scan
of the names finds it. -/
theorem candidates_miss_strayFiles :
    load strayFiles ⟨"net.idx"⟩ = .ok strayIndex ∧
      (List.range strayIndex.nodes.size).filter
        (strayIndex.nameMatches (.exact "Client" false)) = [0] ∧
      strayIndex.candidates (.exact "Client" false) = [] ∧
      strayIndex.candidates (.exact "Client" true) = [] := by
  refine ⟨load_strayFiles, rfl, ?_, ?_⟩
  · decide +kernel
  · decide +kernel

end Index

end SymbolSearch
