import SymbolSearch.Proofs.Merged.Exposure

/-!
# Placing symbols of any names

Names of namespaces may be empty or have full stops in them. Namespaces of different paths then
have one qualified name and share a merged namespace, and a merged namespace may be met again
anywhere in the walk. `Merged.Places` says what holds all the same: a symbol that is no namespace
stands in the merged namespace of its container, and a merged namespace in its own container,
which is older. `Merged.Places.place` carries this through one placement and
`Merged.Places.foldl_walk` through the walk through an assembly.

The members of a merged namespace are read off the invariant: those that are no namespaces
(`Merged.Places.filter_members_others`) and the merged namespaces among them
(`Merged.Places.filter_members_namespaces`).
-/

set_option autoImplicit false

namespace SymbolSearch

open Assembly

section Concat

variable {α : Type} {p : α → Bool} {x : α}

theorem filter_concat_of_neg (hx : ¬ p x = true) (l : List α) :
    (l ++ [x]).filter p = l.filter p := by
  rw [List.filter_append, List.filter_cons_of_neg hx, List.filter_nil, List.append_nil]

theorem filter_concat_of_pos (hx : p x = true) (l : List α) :
    (l ++ [x]).filter p = l.filter p ++ [x] := by
  rw [List.filter_append, List.filter_cons_of_pos hx, List.filter_nil]

end Concat

namespace Merged

/-- The merged namespaces after the symbols `visited` of some assemblies have been placed. -/
structure Places (m : Merged) (visited : List Symbol) : Prop where
  formed : m.IsFormed
  /-- A namespace that has been placed has a merged namespace. -/
  found : ∀ s ∈ visited, s.kind.isNamespace = true → ∃ t, m.find? s.qualifiedName = some t
  /-- The container of a symbol that has been placed has one too. -/
  settled : ∀ s ∈ visited, ∃ c t, s.container? = some c ∧ m.find? c.qualifiedName = some t
  /-- The placements of symbols that are no namespaces, in the order of the walk. -/
  others : (m.placements.filter fun p => !p.2.kind.isNamespace) =
    (visited.filter fun s => !s.kind.isNamespace).map fun s => ((m.home s).id, s)
  /-- The placements of merged namespaces, in the order of their numbers. -/
  namespaces : (m.placements.filter fun p => p.2.kind.isNamespace).map
      (fun p => (some p.1, p.2)) =
    m.byName.tail.map fun entry => (entry.2.containerId?, entry.2)
  /-- A merged namespace that is not the global one is inside of an older one. -/
  inside : ∀ entry ∈ m.byName.tail, ∃ outer ∈ m.byName,
    entry.2.container? = some outer.2 ∧ outer.2.id < entry.2.id

theorem places_initial (arena : Arena) : (initial arena).Places [] where
  formed := isFormed_initial arena
  found := fun _ hs => absurd hs List.not_mem_nil
  settled := fun _ hs => absurd hs List.not_mem_nil
  others := rfl
  namespaces := rfl
  inside := fun _ hentry => absurd hentry List.not_mem_nil

theorem IsFormed.byName_ne_nil {m : Merged} (h : m.IsFormed) : m.byName ≠ [] :=
  List.ne_nil_of_mem (mem_byName h.find?_empty)

theorem IsFormed.id_lt {m : Merged} (h : m.IsFormed) {entry : String × Symbol}
    (hentry : entry ∈ m.byName) : entry.2.id < m.firstId + m.byName.length := by
  have hmem : entry.2.id ∈ m.byName.map fun entry => entry.2.id := List.mem_map_of_mem hentry
  rw [h.map_id, List.mem_range'_1] at hmem
  exact hmem.2

/-- A new merged namespace is inside of the merged namespace where it is placed. -/
theorem container?_newNamespace {m : Merged} (h : m.IsFormed) {s c t : Symbol}
    (hcont : s.container? = some c) (hfind : m.find? c.qualifiedName = some t) :
    (m.newNamespace s).container? = some t := by
  obtain ⟨hcompilation, hassembly⟩ := h.owner _ (IsFormed.mem_byName hfind)
  simp only at hcompilation hassembly
  rw [newNamespace, home_of_find? hcont hfind, ← hcompilation, ← hassembly]
  rfl

namespace Places

variable {m : Merged} {visited : List Symbol} {a : Assembly}

/-! ## One placement -/

/-- Placing a symbol moves no other symbol. -/
theorem home_place (h : m.Places visited) {u : Symbol} (hu : u ∈ visited) (s : Symbol) :
    (m.place s).home u = m.home u := by
  obtain ⟨c, t, hcont, hfind⟩ := h.settled u hu
  rw [home_of_find? hcont hfind, home_of_find? hcont (find?_place hfind s)]

theorem map_home_place (h : m.Places visited) (s : Symbol) :
    ((visited.filter fun u => !u.kind.isNamespace).map fun u => (((m.place s).home u).id, u)) =
      (visited.filter fun u => !u.kind.isNamespace).map fun u => ((m.home u).id, u) := by
  apply List.map_congr_left
  intro u hu
  rw [h.home_place (List.mem_filter.1 hu).1]

/-- Once a symbol has been placed, its container still has a merged namespace. -/
theorem settled_place (h : m.Places visited) {s c t : Symbol} (hcont : s.container? = some c)
    (hfind : m.find? c.qualifiedName = some t) :
    ∀ u ∈ visited ++ [s], ∃ d w, u.container? = some d ∧
      (m.place s).find? d.qualifiedName = some w := by
  intro u hu
  rcases List.mem_append.1 hu with hu | hu
  · obtain ⟨d, w, hd, hw⟩ := h.settled u hu
    exact ⟨d, w, hd, find?_place hw s⟩
  · rw [List.mem_singleton.1 hu]
    exact ⟨c, t, hcont, find?_place hfind s⟩

/-- The namespaces that have been placed still have merged ones, and so has the new one. -/
theorem found_place (h : m.Places visited) {s : Symbol}
    (hs : s.kind.isNamespace = true → ∃ t, (m.place s).find? s.qualifiedName = some t) :
    ∀ u ∈ visited ++ [s], u.kind.isNamespace = true →
      ∃ t, (m.place s).find? u.qualifiedName = some t := by
  intro u hu hns
  rcases List.mem_append.1 hu with hu | hu
  · obtain ⟨t, ht⟩ := h.found u hu hns
    exact ⟨t, find?_place ht s⟩
  · rw [List.mem_singleton.1 hu] at hns ⊢
    exact hs hns

/-- Placing a namespace that has a merged one changes nothing. -/
theorem place_found (h : m.Places visited) {s c t u : Symbol} (hcont : s.container? = some c)
    (hfind : m.find? c.qualifiedName = some t) (hns : s.kind.isNamespace = true)
    (hu : m.find? s.qualifiedName = some u) (heq : m.place s = m) :
    (m.place s).Places (visited ++ [s]) := by
  refine ⟨h.formed.place s, h.found_place fun _ => ⟨u, find?_place hu s⟩,
    h.settled_place hcont hfind, ?_, ?_, ?_⟩
  · rw [filter_concat_of_neg (by simp [hns]), h.map_home_place, heq]
    exact h.others
  · rw [heq]
    exact h.namespaces
  · rw [heq]
    exact h.inside

/-- Placing a namespace that has none adds a merged namespace to that of its container. -/
theorem place_new (h : m.Places visited) {s c t : Symbol} (hcont : s.container? = some c)
    (hfind : m.find? c.qualifiedName = some t) (hns : s.kind.isNamespace = true)
    (hnone : m.find? s.qualifiedName = none)
    (heq : m.place s = m.withNamespace s) :
    (m.place s).Places (visited ++ [s]) := by
  have hkind : (m.newNamespace s).kind.isNamespace = true := rfl
  have hcontainer : (m.newNamespace s).containerId? = some (m.home s).id := rfl
  have hself : (m.place s).find? s.qualifiedName = some (m.newNamespace s) := by
    rw [heq, find?_withNamespace m s hnone]
  refine ⟨h.formed.place s, h.found_place fun _ => ⟨_, hself⟩, h.settled_place hcont hfind,
    ?_, ?_, ?_⟩
  · -- nothing is added to the symbols that are no namespaces
    rw [filter_concat_of_neg (by simp [hns]), h.map_home_place, heq, withNamespace_placements,
      filter_concat_of_neg (by simp [hkind])]
    exact h.others
  · rw [heq, withNamespace_placements, withNamespace_byName,
      filter_concat_of_pos (by simp [hkind]), List.map_append, h.namespaces,
      List.tail_append_of_ne_nil h.formed.byName_ne_nil, List.map_append, List.map_singleton,
      List.map_singleton, hcontainer]
  · intro entry hentry
    rw [heq, withNamespace_byName, List.tail_append_of_ne_nil h.formed.byName_ne_nil] at hentry
    rw [heq]
    rcases List.mem_append.1 hentry with hentry | hentry
    · obtain ⟨outer, houter, hinside⟩ := h.inside entry hentry
      exact ⟨outer, List.mem_append_left _ houter, hinside⟩
    · -- the new merged namespace has the next number
      rw [List.mem_singleton.1 hentry]
      have houter := IsFormed.mem_byName hfind
      refine ⟨_, List.mem_append_left _ houter, container?_newNamespace h.formed hcont hfind, ?_⟩
      rw [newNamespace_id, h.formed.nextId]
      exact h.formed.id_lt houter

/-- Placing a symbol that is no namespace adds it to the merged namespace of its container. -/
theorem place_other (h : m.Places visited) {s c t : Symbol} (hcont : s.container? = some c)
    (hfind : m.find? c.qualifiedName = some t) (hns : s.kind.isNamespace = false)
    (heq : m.place s = { m with placements := m.placements ++ [((m.home s).id, s)] }) :
    (m.place s).Places (visited ++ [s]) := by
  refine ⟨h.formed.place s, h.found_place fun hkind => absurd hkind (by simp [hns]),
    h.settled_place hcont hfind, ?_, ?_, ?_⟩
  · have hhome : (m.place s).home s = m.home s := by
      rw [home_of_find? hcont hfind, home_of_find? hcont (find?_place hfind s)]
    rw [filter_concat_of_pos (by simp [hns]), List.map_append, h.map_home_place,
      List.map_singleton, hhome, heq, filter_concat_of_pos (by simp [hns]), h.others]
  · rw [heq, filter_concat_of_neg (by simp [hns])]
    exact h.namespaces
  · rw [heq]
    exact h.inside

/-- Placing a symbol keeps the invariant if its container has a merged namespace. -/
theorem place (h : m.Places visited) {s c t : Symbol} (hcont : s.container? = some c)
    (hfind : m.find? c.qualifiedName = some t) : (m.place s).Places (visited ++ [s]) := by
  rcases place_cases m s with ⟨u, hns, hu, heq⟩ | ⟨hns, hnone, heq⟩ | ⟨hns, heq⟩
  · exact h.place_found hcont hfind hns hu heq
  · exact h.place_new hcont hfind hns hnone heq
  · exact h.place_other hcont hfind hns heq

/-! ## Walks -/

/-- The walk through an assembly keeps the invariant, whatever has been placed before. -/
theorem foldl_walk {before : List Symbol} (h : m.Places before) (hgrown : a.IsGrown)
    (hwalk : Walk a.globalNamespace visited) (hsub : ∀ u ∈ visited, u ∈ a.declared) :
    (visited.foldl Merged.place m).Places (before ++ visited) := by
  induction hwalk with
  | nil =>
      rw [List.append_nil]
      exact h
  | @snoc visited c s _ hc hns hcont ih =>
      have hvisited : ∀ u ∈ visited, u ∈ a.declared := fun u hu =>
        hsub u (List.mem_append_left _ hu)
      have hbefore := ih hvisited
      have hs : s ∈ a.declared := hsub s (List.mem_append_right _ (List.mem_singleton_self s))
      have hcmem : c ∈ a.globalNamespace :: a.declared := by
        rcases List.mem_cons.1 hc with rfl | hc
        · exact List.mem_cons_self
        · exact List.mem_cons_of_mem _ (hvisited c hc)
      -- the container is the global namespace or has been placed before in this walk
      obtain ⟨t, ht⟩ : ∃ t, (visited.foldl Merged.place m).find? c.qualifiedName = some t := by
        rcases List.mem_cons.1 hc with rfl | hc
        · exact ⟨_, hbefore.formed.find?_empty⟩
        · exact hbefore.found c (List.mem_append_right _ hc) hns
      rw [List.foldl_append, List.foldl_cons, List.foldl_nil, ← List.append_assoc]
      exact hbefore.place (Grown.container?_of_containerId? hgrown hs hcmem hcont) ht

/-- The walks through several assemblies keep the invariant. -/
theorem foldl_exposed (as : List Assembly) (hgrown : ∀ a ∈ as, a.IsGrown) {before : List Symbol}
    (h : m.Places before) :
    ((as.flatMap exposed).foldl Merged.place m).Places (before ++ as.flatMap exposed) := by
  induction as generalizing m before with
  | nil =>
      rw [List.flatMap_nil, List.append_nil]
      exact h
  | cons a as ih =>
      have hfirst := h.foldl_walk (hgrown a List.mem_cons_self) (walk_exposed a)
        fun u hu => mem_declared_of_exposed hu
      have hrest := ih (fun b hb => hgrown b (List.mem_cons_of_mem _ hb)) hfirst
      rw [List.flatMap_cons, List.foldl_append, ← List.append_assoc]
      exact hrest

/-! ## Members -/

/-- The members of a merged namespace that are no namespaces, in the order of the walk. -/
theorem filter_members_others (h : m.Places visited) (id : Nat) :
    (m.members id).filter (fun s => !s.kind.isNamespace) =
      visited.filter fun s => (m.home s).id = id && !s.kind.isNamespace := by
  calc (m.members id).filter (fun s => !s.kind.isNamespace)
      = ((m.placements.filter fun p => !p.2.kind.isNamespace).filter
          fun p => p.1 = id).map Prod.snd := by
        rw [members, List.filter_map, List.filter_comm]
        rfl
    _ = (((visited.filter fun s => !s.kind.isNamespace).filter
          fun s => (m.home s).id = id).map fun s => ((m.home s).id, s)).map Prod.snd := by
        rw [h.others, List.filter_map]
        rfl
    _ = visited.filter fun s => (m.home s).id = id && !s.kind.isNamespace := by
        rw [List.map_map, List.filter_filter]
        exact List.map_id _

/-- The merged namespaces among the members of a merged namespace, in the order of their
numbers. -/
theorem filter_members_namespaces (h : m.Places visited) (id : Nat) :
    (m.members id).filter (fun s => s.kind.isNamespace) =
      (m.byName.tail.map Prod.snd).filter fun t => t.containerId? = some id := by
  calc (m.members id).filter (fun s => s.kind.isNamespace)
      = (((m.placements.filter fun p => p.2.kind.isNamespace).map
          (fun p => (some p.1, p.2))).filter fun p => p.1 = some id).map Prod.snd := by
        rw [members, List.filter_map, List.filter_comm, List.filter_map, List.map_map]
        congr 1
        apply List.filter_congr
        intro p _
        simp
    _ = ((m.byName.tail.map Prod.snd).filter fun t => t.containerId? = some id) := by
        rw [h.namespaces, List.filter_map, List.filter_map, List.map_map]
        rfl

end Places

end Merged

end SymbolSearch
