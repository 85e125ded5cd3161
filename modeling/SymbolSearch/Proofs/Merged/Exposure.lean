import SymbolSearch.Proofs.Merged.Growth
import SymbolSearch.Proofs.Merged.Names
import SymbolSearch.Proofs.Key.Path

/-!
# What merged namespaces show of an assembly

When the symbols of one assembly with plain namespace names are placed, every namespace of the
assembly gets a merged namespace of its own, and the merged namespace has the members of the
namespace, in order, with merged namespaces in the place of others (`Merged.members_exposed`).
`Merged.Shows` is the invariant that carries this from one placement to the next
(`Merged.Shows.place`). What other assemblies add comes later in every list of members, so it
changes nothing that a step of a key finds (`Merged.getElem?_members_foldl_place`).
-/

set_option autoImplicit false

namespace SymbolSearch

open Assembly

namespace Merged

/-- What stands for a symbol of an assembly among the members of merged namespaces. -/
def image (m : Merged) (s : Symbol) : Symbol :=
  if s.kind.isNamespace then (m.find? s.qualifiedName).getD s else s

theorem image_of_not_namespace {m : Merged} {s : Symbol} (h : s.kind.isNamespace = false) :
    m.image s = s := by
  simp [image, h]

theorem image_of_find? {m : Merged} {s t : Symbol} (hns : s.kind.isNamespace = true)
    (h : m.find? s.qualifiedName = some t) : m.image s = t := by
  simp [image, hns, h]

theorem home_of_find? {m : Merged} {s c t : Symbol} (hcont : s.container? = some c)
    (h : m.find? c.qualifiedName = some t) : m.home s = t := by
  simp [home, hcont, h]

theorem find?_eq_none_iff {m : Merged} {name : String} :
    m.find? name = none ↔ name ∉ m.byName.map Prod.fst := by
  rw [find?, List.lookup_eq_none_iff, List.mem_map]
  constructor
  · rintro h ⟨entry, hentry, rfl⟩
    have hne := h entry hentry
    simp at hne
  · intro h entry hentry
    rw [bne_iff_ne]
    rintro rfl
    exact h ⟨entry, hentry, rfl⟩

/-- The merged namespaces after the symbols `visited` of an assembly have been placed. -/
structure Shows (m : Merged) (visited : List Symbol) : Prop where
  formed : m.IsFormed
  /-- There is one merged namespace for each namespace, besides the global one. -/
  names : m.byName.map Prod.fst =
    "" :: (visited.filter fun s => s.kind.isNamespace).map Symbol.qualifiedName
  named : ∀ s ∈ visited, s.kind.isNamespace = true → ∀ t : Symbol,
    m.find? s.qualifiedName = some t → t.name = s.name
  placements : m.placements = visited.map fun s => ((m.home s).id, m.image s)

theorem shows_initial (arena : Arena) : (initial arena).Shows [] where
  formed := isFormed_initial arena
  names := rfl
  named := fun _ hs => absurd hs List.not_mem_nil
  placements := rfl

namespace Shows

variable {m : Merged} {visited : List Symbol} {a : Assembly}

/-- A namespace that has been placed has a merged namespace. -/
theorem exists_find?_visited (h : m.Shows visited) {c : Symbol} (hc : c ∈ visited)
    (hns : c.kind.isNamespace = true) : ∃ t, m.find? c.qualifiedName = some t := by
  rw [← Option.ne_none_iff_exists', Ne, find?_eq_none_iff, not_not, h.names]
  exact List.mem_cons_of_mem _ (List.mem_map_of_mem (List.mem_filter.2 ⟨hc, hns⟩))

/-- The global namespace has one from the start. -/
theorem exists_find? (h : m.Shows visited) {c : Symbol} (hc : c ∈ a.globalNamespace :: visited)
    (hns : c.kind.isNamespace = true) : ∃ t, m.find? c.qualifiedName = some t := by
  rcases List.mem_cons.1 hc with rfl | hc
  · exact ⟨_, h.formed.find?_empty⟩
  · exact h.exists_find?_visited hc hns

/-- A namespace that has not been placed has no merged namespace yet. -/
theorem find?_eq_none (h : m.Shows visited) (hgrown : a.IsGrown) (hnamed : a.IsWellNamed)
    {s : Symbol} (hsub : ∀ u ∈ visited, u ∈ a.exposed) (hs : s ∈ a.exposed) (hnew : s ∉ visited)
    (hns : s.kind.isNamespace = true) : m.find? s.qualifiedName = none := by
  rw [find?_eq_none_iff, h.names, List.mem_cons, List.mem_map]
  rintro (hempty | ⟨u, hu, hname⟩)
  · -- the name of the global namespace would make it the global namespace
    have heq := eq_of_qualifiedName_eq hgrown hnamed (List.mem_cons_of_mem _ hs) hns
      (List.mem_cons_self (a := a.globalNamespace)) rfl hempty
    have hlt := (Grown.id_bounds hgrown (mem_declared_of_exposed hs)).1
    rw [heq] at hlt
    exact Nat.lt_irrefl _ hlt
  · -- the name of a namespace placed before would make it that namespace
    obtain ⟨hu, huns⟩ := List.mem_filter.1 hu
    have heq := eq_of_qualifiedName_eq hgrown hnamed (List.mem_cons_of_mem _ (hsub u hu)) huns
      (List.mem_cons_of_mem _ hs) hns hname
    exact hnew (heq ▸ hu)

/-- What has been placed stays as it is: later placements change neither its place nor what
stands for it. -/
theorem placement_eq (h : m.Shows visited) {u d : Symbol} (hu : u ∈ visited)
    (hd : d ∈ a.globalNamespace :: visited) (hdns : d.kind.isNamespace = true)
    (hcont : u.container? = some d) (s : Symbol) :
    (m.place s).home u = m.home u ∧ (m.place s).image u = m.image u := by
  obtain ⟨t, ht⟩ := h.exists_find? hd hdns
  constructor
  · rw [home_of_find? hcont ht, home_of_find? hcont (find?_place ht s)]
  · cases hns : u.kind.isNamespace with
    | false => rw [image_of_not_namespace hns, image_of_not_namespace hns]
    | true =>
        obtain ⟨t', ht'⟩ := h.exists_find?_visited hu hns
        rw [image_of_find? hns ht', image_of_find? hns (find?_place ht' s)]

/-- The next symbol is placed behind all others, and these keep their places. -/
theorem placements_place_eq (h : m.Shows visited) {s c : Symbol}
    (hwalk : ∀ u ∈ visited, ∃ d ∈ a.globalNamespace :: visited, d.kind.isNamespace = true ∧
      u.container? = some d)
    (hc : c ∈ a.globalNamespace :: visited) (hcns : c.kind.isNamespace = true)
    (hcont : s.container? = some c)
    (hlast : (m.place s).placements =
      m.placements ++ [((m.home s).id, (m.place s).image s)]) :
    (m.place s).placements =
      (visited ++ [s]).map fun u => (((m.place s).home u).id, (m.place s).image u) := by
  have hkept : visited.map (fun u => (((m.place s).home u).id, (m.place s).image u)) =
      visited.map fun u => ((m.home u).id, m.image u) := by
    apply List.map_congr_left
    intro u hu
    obtain ⟨d, hd, hdns, hdcont⟩ := hwalk u hu
    obtain ⟨hhome, himage⟩ := h.placement_eq hu hd hdns hdcont s
    rw [hhome, himage]
  -- the container has its merged namespace already, so the home of `s` is settled too
  obtain ⟨t, ht⟩ := h.exists_find? hc hcns
  have hhome : (m.place s).home s = m.home s := by
    rw [home_of_find? hcont ht, home_of_find? hcont (find?_place ht s)]
  rw [hlast, h.placements, List.map_append, hkept, List.map_singleton, hhome]

/-- Placing the next symbol keeps the invariant if the symbol is no namespace. -/
theorem place_member (h : m.Shows visited) {s : Symbol} (hns : s.kind.isNamespace = false)
    (hplacements : (m.place s).placements =
        m.placements ++ [((m.home s).id, (m.place s).image s)] →
      (m.place s).placements =
        (visited ++ [s]).map fun u => (((m.place s).home u).id, (m.place s).image u)) :
    (m.place s).Shows (visited ++ [s]) := by
  have heq : m.place s = { m with placements := m.placements ++ [((m.home s).id, s)] } := by
    simp [Merged.place, hns]
  refine ⟨h.formed.place s, ?_, ?_, hplacements ?_⟩
  · rw [heq, List.filter_append, List.filter_cons_of_neg (by simp [hns]), List.filter_nil,
      List.append_nil]
    exact h.names
  · intro u hu huns t ht
    rw [heq] at ht
    rcases List.mem_append.1 hu with hu | hu
    · exact h.named u hu huns t ht
    · rw [List.mem_singleton.1 hu, hns] at huns
      exact Bool.noConfusion huns
  · rw [image_of_not_namespace hns, heq]

/-- Placing the next symbol keeps the invariant if the symbol is a namespace with no merged
namespace yet. -/
theorem place_namespace (h : m.Shows visited) {s : Symbol} (hns : s.kind.isNamespace = true)
    (hnone : m.find? s.qualifiedName = none)
    (hplacements : (m.place s).placements =
        m.placements ++ [((m.home s).id, (m.place s).image s)] →
      (m.place s).placements =
        (visited ++ [s]).map fun u => (((m.place s).home u).id, (m.place s).image u)) :
    (m.place s).Shows (visited ++ [s]) := by
  have heq : m.place s = m.withNamespace s := by
    simp only [Merged.place, hns, if_true, hnone]
    rfl
  have hfind : (m.place s).find? s.qualifiedName = some (m.newNamespace s) := by
    rw [heq, find?_withNamespace m s hnone]
  refine ⟨h.formed.place s, ?_, ?_, hplacements ?_⟩
  · rw [heq, withNamespace_byName, List.filter_append, List.filter_cons_of_pos (by simp [hns]),
      List.filter_nil, List.map_append, h.names, List.map_append]
    rfl
  · intro u hu huns t ht
    rcases List.mem_append.1 hu with hu | hu
    · -- an earlier namespace is still found where it was
      obtain ⟨t', ht'⟩ := h.exists_find?_visited hu huns
      rw [find?_place ht' s, Option.some.injEq] at ht
      rw [← ht]
      exact h.named u hu huns t' ht'
    · rw [List.mem_singleton.1 hu, hfind, Option.some.injEq] at ht
      rw [← ht, List.mem_singleton.1 hu]
      exact newNamespace_name m s
  · rw [image_of_find? hns hfind, heq, withNamespace_placements]

/-- Placing the next symbol of a walk keeps the invariant. -/
theorem place (h : m.Shows visited) (hgrown : a.IsGrown) (hnamed : a.IsWellNamed) {s c : Symbol}
    (hsub : ∀ u ∈ visited, u ∈ a.exposed) (hs : s ∈ a.exposed) (hnew : s ∉ visited)
    (hwalk : ∀ u ∈ visited, ∃ d ∈ a.globalNamespace :: visited, d.kind.isNamespace = true ∧
      u.container? = some d)
    (hc : c ∈ a.globalNamespace :: visited) (hcns : c.kind.isNamespace = true)
    (hcont : s.container? = some c) : (m.place s).Shows (visited ++ [s]) := by
  have hplacements := h.placements_place_eq hwalk hc hcns hcont
  cases hns : s.kind.isNamespace with
  | false => exact h.place_member hns hplacements
  | true =>
      apply h.place_namespace hns _ hplacements
      exact h.find?_eq_none hgrown hnamed hsub hs hnew hns

/-- A whole walk through an assembly keeps the invariant. -/
theorem foldl_place (hgrown : a.IsGrown) (hnamed : a.IsWellNamed) {visited : List Symbol}
    (hwalk : Walk a.globalNamespace visited) (hnodup : visited.Nodup)
    (hsub : ∀ u ∈ visited, u ∈ a.exposed) (h : m.Shows []) :
    (visited.foldl Merged.place m).Shows visited := by
  induction hwalk with
  | nil => exact h
  | @snoc visited c s hwalk hc hns hcont ih =>
      have hbefore : ∀ u ∈ visited, u ∈ a.exposed := fun u hu =>
        hsub u (List.mem_append_left _ hu)
      have hs : s ∈ a.exposed := hsub s (List.mem_append_right _ (List.mem_singleton_self s))
      obtain ⟨hvisited, -, hdisjoint⟩ := List.nodup_append.1 hnodup
      have hnew : s ∉ visited := fun hmem =>
        hdisjoint s hmem s (List.mem_singleton_self s) rfl
      -- within the assembly a container's number stands for the container itself
      have hcontainer : ∀ u ∈ a.exposed, ∀ d ∈ a.globalNamespace :: visited,
          u.containerId? = some d.id → u.container? = some d := by
        intro u hu d hd hid
        refine Grown.container?_of_containerId? hgrown (mem_declared_of_exposed hu) ?_ hid
        rcases List.mem_cons.1 hd with rfl | hd
        · exact List.mem_cons_self
        · exact List.mem_cons_of_mem _ (mem_declared_of_exposed (hbefore d hd))
      rw [List.foldl_append, List.foldl_cons, List.foldl_nil]
      apply (ih hvisited hbefore).place hgrown hnamed hbefore hs hnew ?_ hc hns
        (hcontainer s hs c hc hcont)
      intro u hu
      obtain ⟨d, hd, hdns, hdcont⟩ := hwalk.exists_container u hu
      exact ⟨d, hd, hdns, hcontainer u (hbefore u hu) d hd hdcont⟩

end Shows

/-! ## Members -/

/-- The merged namespaces of a single assembly. -/
theorem shows_exposed {a : Assembly} (hgrown : a.IsGrown) (hnamed : a.IsWellNamed)
    (arena : Arena) : (a.exposed.foldl place (initial arena)).Shows a.exposed :=
  Shows.foldl_place hgrown hnamed (walk_exposed a) (nodup_exposed hgrown) (fun _ hu => hu)
    (shows_initial arena)

section Members

variable {m : Merged} {a : Assembly} {c t : Symbol}

/-- A symbol is placed in the merged namespace of its container and in no other one. -/
theorem home_id_eq_iff (h : m.Shows a.exposed) (hgrown : a.IsGrown) (hnamed : a.IsWellNamed)
    (hc : c ∈ a.globalNamespace :: a.exposed) (hns : c.kind.isNamespace = true)
    (hfind : m.find? c.qualifiedName = some t) {s : Symbol} (hs : s ∈ a.exposed) :
    (m.home s).id = t.id ↔ s.containerId? = some c.id := by
  obtain ⟨d, hd, hdns, hcont⟩ := container_of_exposed hgrown hs
  obtain ⟨t', ht'⟩ := h.exists_find? hd hdns
  rw [home_of_find? hcont ht', Symbol.containerId?_eq hcont, Option.some.injEq]
  -- numbers tell merged namespaces, and qualified names tell namespaces
  constructor
  · intro hid
    have hname := h.formed.name_eq_of_id_eq ht' hfind hid
    rw [eq_of_qualifiedName_eq hgrown hnamed hd hdns hc hns hname]
  · intro hid
    have heq := Grown.eq_of_id_eq hgrown (mem_symbols_of_exposed hd) (mem_symbols_of_exposed hc) hid
    rw [heq, hfind, Option.some.injEq] at ht'
    rw [ht']

/-- **A merged namespace has the members of the namespace, in order.** -/
theorem members_exposed (h : m.Shows a.exposed) (hgrown : a.IsGrown) (hnamed : a.IsWellNamed)
    (hc : c ∈ a.globalNamespace :: a.exposed) (hns : c.kind.isNamespace = true)
    (hfind : m.find? c.qualifiedName = some t) :
    m.members t.id = (membersIn a.declared c.id).map m.image := by
  have hfilter : a.exposed.filter (fun s => decide ((m.home s).id = t.id)) =
      membersIn a.exposed c.id := by
    apply List.filter_congr
    intro s hs
    rw [decide_eq_decide]
    exact home_id_eq_iff h hgrown hnamed hc hns hfind hs
  rw [members, h.placements, List.filter_map, List.map_map, ← membersIn_exposed hgrown hc hns,
    ← hfilter]
  rfl

/-- What stands for an exposed symbol has its name, kind and arity. -/
theorem names_image (h : m.Shows a.exposed) (hnamed : a.IsWellNamed) (step : KeyStep)
    {s : Symbol} (hs : s ∈ a.exposed) : step.names (m.image s) = step.names s := by
  cases hns : s.kind.isNamespace with
  | false => rw [image_of_not_namespace hns]
  | true =>
      -- a merged namespace has no type parameters, like every namespace of the assembly
      obtain ⟨t, ht⟩ := h.exists_find?_visited hs hns
      obtain ⟨hkind, harity⟩ := h.formed.kind _ (IsFormed.mem_byName ht)
      rw [image_of_find? hns ht, KeyStep.names, KeyStep.names, h.named s hs hns t ht, hkind,
        harity, Kind.isNamespace_iff.1 hns, (hnamed s (mem_declared_of_exposed hs) hns).2]

/-- The step to a member of an exposed namespace finds, in the merged namespace, what stands for
the member. -/
theorem getElem?_members (h : m.Shows a.exposed) (hgrown : a.IsGrown) (hnamed : a.IsWellNamed)
    (hc : c ∈ a.globalNamespace :: a.exposed) (hns : c.kind.isNamespace = true)
    (hfind : m.find? c.qualifiedName = some t) {s : Symbol} (hs : s ∈ a.exposed)
    (hcont : s.container? = some c) :
    ((m.members t.id).filter s.node.step.names)[s.node.step.ordinal]? = some (m.image s) := by
  -- the step cannot tell a member from what stands for it
  have hfilter : (membersIn a.declared c.id).filter (s.node.step.names ∘ m.image) =
      (membersIn a.declared c.id).filter s.node.step.names := by
    apply List.filter_congr
    intro u hu
    rw [← membersIn_exposed hgrown hc hns, mem_membersIn] at hu
    exact names_image h hnamed s.node.step hu.1
  rw [members_exposed h hgrown hnamed hc hns hfind, List.filter_map, hfilter, List.getElem?_map,
    getElem?_filter_names hgrown (mem_declared_of_exposed hs) (Symbol.containerId?_eq hcont)]
  rfl

/-- Placing more symbols does not change what a step finds. -/
theorem getElem?_members_foldl_place {step : KeyStep} {id : Nat} {s : Symbol}
    (h : ((m.members id).filter step.names)[step.ordinal]? = some s) (symbols : List Symbol) :
    (((symbols.foldl place m).members id).filter step.names)[step.ordinal]? = some s := by
  have hbefore : m.members id <+: (symbols.foldl place m).members id :=
    ((placements_foldl_place symbols m).filter _).map _
  obtain ⟨hlt, heq⟩ := List.getElem?_eq_some_iff.1 h
  rw [← heq]
  exact List.prefix_iff_getElem?.1 (hbefore.filter step.names) step.ordinal hlt

end Members

end Merged

end SymbolSearch
