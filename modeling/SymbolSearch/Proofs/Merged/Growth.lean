import SymbolSearch.Merged
import Mathlib.Data.List.Nodup

/-!
# Growth of merged namespaces

Merging places symbols one after the other. A placement finds a merged namespace, adds one, or
adds a member that is no namespace (`Merged.place_cases`); it never changes what is there
(`Merged.find?_place`, `Merged.placements_place`). Merged namespaces are numbered consecutively
and belong to the compilation as a whole (`Merged.IsFormed`).
-/

set_option autoImplicit false

namespace SymbolSearch

namespace Merged

/-! ## Placing one symbol -/

/-- The merged namespace that is added for a namespace. -/
def newNamespace (m : Merged) (s : Symbol) : Symbol :=
  ⟨m.compilation, none, { Node.global m.arena.nextId with name := s.name }, (m.home s).lineage⟩

/-- The merged namespaces with one more. -/
def withNamespace (m : Merged) (s : Symbol) : Merged :=
  { m with
    arena := ⟨m.compilation, m.arena.nextId + 1⟩
    byName := m.byName ++ [(s.qualifiedName, m.newNamespace s)]
    placements := m.placements ++ [((m.home s).id, m.newNamespace s)] }

section NewNamespace

variable (m : Merged) (s : Symbol)

@[simp] theorem newNamespace_id : (m.newNamespace s).id = m.arena.nextId := rfl

@[simp] theorem newNamespace_name : (m.newNamespace s).name = s.name := rfl

@[simp] theorem withNamespace_byName :
    (m.withNamespace s).byName = m.byName ++ [(s.qualifiedName, m.newNamespace s)] := rfl

@[simp] theorem withNamespace_placements :
    (m.withNamespace s).placements = m.placements ++ [((m.home s).id, m.newNamespace s)] := rfl

/-- An added merged namespace is found by its qualified name. -/
theorem find?_withNamespace (h : m.find? s.qualifiedName = none) :
    (m.withNamespace s).find? s.qualifiedName = some (m.newNamespace s) := by
  have hlookup : m.byName.lookup s.qualifiedName = none := h
  simp [find?, List.lookup_append, hlookup]

end NewNamespace

/-- Placing a symbol finds the merged namespace of its qualified name, adds it, or adds a
member that is no namespace. -/
theorem place_cases (m : Merged) (s : Symbol) :
    (∃ t, s.kind.isNamespace = true ∧ m.find? s.qualifiedName = some t ∧ m.place s = m) ∨
    (s.kind.isNamespace = true ∧ m.find? s.qualifiedName = none ∧ m.place s = m.withNamespace s) ∨
    (s.kind.isNamespace = false ∧
      m.place s = { m with placements := m.placements ++ [((m.home s).id, s)] }) := by
  cases hkind : s.kind.isNamespace with
  | false => exact Or.inr (Or.inr ⟨rfl, by simp [place, hkind]⟩)
  | true =>
      cases hfind : m.find? s.qualifiedName with
      | some t => exact Or.inl ⟨t, rfl, rfl, by simp [place, hkind, hfind]⟩
      | none =>
          refine Or.inr (Or.inl ⟨rfl, rfl, ?_⟩)
          simp only [place, hkind, if_true, hfind]
          rfl

@[simp] theorem place_compilation (m : Merged) (s : Symbol) :
    (m.place s).compilation = m.compilation := by
  rcases place_cases m s with ⟨t, -, -, heq⟩ | ⟨-, -, heq⟩ | ⟨-, heq⟩ <;>
    exact (congrArg compilation heq).trans rfl

@[simp] theorem place_firstId (m : Merged) (s : Symbol) : (m.place s).firstId = m.firstId := by
  rcases place_cases m s with ⟨t, -, -, heq⟩ | ⟨-, -, heq⟩ | ⟨-, heq⟩ <;>
    exact (congrArg firstId heq).trans rfl

theorem find?_append {entries more : List (String × Symbol)} {name : String} {t : Symbol}
    (h : entries.lookup name = some t) : (entries ++ more).lookup name = some t := by
  rw [List.lookup_append, h]
  rfl

/-- A merged namespace stays where it is found. -/
theorem find?_place {m : Merged} {name : String} {t : Symbol} (h : m.find? name = some t)
    (s : Symbol) : (m.place s).find? name = some t := by
  rcases place_cases m s with ⟨u, -, -, heq⟩ | ⟨-, -, heq⟩ | ⟨-, heq⟩
  · rw [heq, h]
  · rw [heq]
    exact find?_append h
  · rw [heq]
    exact h

/-- Members keep their places. -/
theorem placements_place (m : Merged) (s : Symbol) : m.placements <+: (m.place s).placements := by
  have hsplit : ∃ added, (m.place s).placements = m.placements ++ added := by
    -- at most one placement is added, and it comes last
    rcases place_cases m s with ⟨t, -, -, heq⟩ | ⟨-, -, heq⟩ | ⟨-, heq⟩
    · exact ⟨[], by rw [heq, List.append_nil]⟩
    · exact ⟨_, congrArg Merged.placements heq⟩
    · exact ⟨_, congrArg Merged.placements heq⟩
  obtain ⟨added, hadded⟩ := hsplit
  exact ⟨added, hadded.symm⟩

/-! ## Placing symbols in turn -/

section Foldl

variable (symbols : List Symbol) (m : Merged)

@[simp] theorem foldl_place_compilation :
    (symbols.foldl place m).compilation = m.compilation := by
  induction symbols generalizing m with
  | nil => rfl
  | cons s symbols ih => rw [List.foldl_cons, ih, place_compilation]

@[simp] theorem foldl_place_firstId : (symbols.foldl place m).firstId = m.firstId := by
  induction symbols generalizing m with
  | nil => rfl
  | cons s symbols ih => rw [List.foldl_cons, ih, place_firstId]

theorem find?_foldl_place {name : String} {t : Symbol} (h : m.find? name = some t) :
    (symbols.foldl place m).find? name = some t := by
  induction symbols generalizing m with
  | nil => exact h
  | cons s symbols ih => exact ih (m.place s) (find?_place h s)

theorem placements_foldl_place : m.placements <+: (symbols.foldl place m).placements := by
  induction symbols generalizing m with
  | nil => exact List.prefix_rfl
  | cons s symbols ih => exact (placements_place m s).trans (ih (m.place s))

end Foldl

/-! ## Numbers and owners -/

/-- The merged namespaces are numbered consecutively up to the next number of the arena, belong to
the compilation and to no assembly, and the global one comes first. -/
structure IsFormed (m : Merged) : Prop where
  nextId : m.arena.nextId = m.firstId + m.byName.length
  map_id : m.byName.map (fun entry => entry.2.id) = List.range' m.firstId m.byName.length
  owner : ∀ entry ∈ m.byName, entry.2.compilation = m.compilation ∧ entry.2.assembly = none
  kind : ∀ entry ∈ m.byName, entry.2.kind = .nameSpace ∧ entry.2.arity = 0
  find?_empty : m.find? "" = some m.globalNamespace

theorem isFormed_initial (arena : Arena) : (initial arena).IsFormed where
  nextId := rfl
  map_id := rfl
  owner := by
    intro entry hentry
    rw [List.mem_singleton.1 hentry]
    exact ⟨rfl, rfl⟩
  kind := by
    intro entry hentry
    rw [List.mem_singleton.1 hentry]
    exact ⟨rfl, rfl⟩
  find?_empty := rfl

namespace IsFormed

variable {m : Merged}

theorem place (h : m.IsFormed) (s : Symbol) : (m.place s).IsFormed := by
  have hempty : (m.place s).find? "" = some (m.place s).globalNamespace := by
    rw [find?_place h.find?_empty s, globalNamespace, globalNamespace, place_compilation,
      place_firstId]
  rcases place_cases m s with ⟨t, -, -, heq⟩ | ⟨-, -, heq⟩ | ⟨-, heq⟩
  · rw [heq]
    exact h
  · rw [heq] at hempty ⊢
    -- a merged namespace is added with the next number
    refine ⟨?_, ?_, ?_, ?_, hempty⟩
    · simp only [withNamespace, h.nextId, List.length_append, List.length_singleton]
      omega
    · simp only [withNamespace, List.map_append, h.map_id, List.length_append, List.map_singleton,
        newNamespace_id, h.nextId, List.length_singleton, List.range'_concat, Nat.one_mul]
    · intro entry hentry
      rcases List.mem_append.1 hentry with hentry | hentry
      · exact h.owner entry hentry
      · rw [List.mem_singleton.1 hentry]
        exact ⟨rfl, rfl⟩
    · intro entry hentry
      rcases List.mem_append.1 hentry with hentry | hentry
      · exact h.kind entry hentry
      · rw [List.mem_singleton.1 hentry]
        exact ⟨rfl, rfl⟩
  · rw [heq] at hempty ⊢
    exact ⟨h.nextId, h.map_id, h.owner, h.kind, hempty⟩

theorem foldl_place (h : m.IsFormed) (symbols : List Symbol) :
    (symbols.foldl Merged.place m).IsFormed := by
  induction symbols generalizing m with
  | nil => exact h
  | cons s symbols ih => exact ih (h.place s)

theorem mem_byName {name : String} {t : Symbol} (hfind : m.find? name = some t) :
    (name, t) ∈ m.byName := by
  rw [find?, List.lookup_eq_some_iff] at hfind
  obtain ⟨before, after, heq, -⟩ := hfind
  rw [heq]
  simp

theorem firstId_le (h : m.IsFormed) {name : String} {t : Symbol}
    (hfind : m.find? name = some t) : m.firstId ≤ t.id := by
  have hmem := List.mem_map_of_mem (f := fun entry : String × Symbol => entry.2.id)
    (mem_byName hfind)
  rw [h.map_id, List.mem_range'_1] at hmem
  exact hmem.1

/-- A number belongs to one qualified name. -/
theorem name_eq_of_id_eq (h : m.IsFormed) {name name' : String} {t t' : Symbol}
    (hfind : m.find? name = some t) (hfind' : m.find? name' = some t') (hid : t.id = t'.id) :
    name = name' := by
  have hnodup : (m.byName.map fun entry => entry.2.id).Nodup := by
    rw [h.map_id]
    exact List.nodup_range'
  -- numbers tell the entries, and an entry has one name
  have heq := List.inj_on_of_nodup_map hnodup (mem_byName hfind) (mem_byName hfind') hid
  exact (Prod.mk.inj heq).1

end IsFormed

section Build

variable (arena : Arena) (assemblies : List Assembly)

theorem isFormed_build : (build arena assemblies).IsFormed :=
  (isFormed_initial arena).foldl_place _

@[simp] theorem build_compilation : (build arena assemblies).compilation = arena.compilation :=
  foldl_place_compilation _ _

@[simp] theorem build_firstId : (build arena assemblies).firstId = arena.nextId :=
  foldl_place_firstId _ _

end Build

end Merged

end SymbolSearch
