import SymbolSearch.Proofs.Selection
import SymbolSearch.Proofs.Symbols

/-!
# Merged namespaces in the place of others

Normalizing a list looks at each symbol by itself: a symbol gives way to its merged namespace if
it has one and is not that one already (`Compilation.normalized_of_canonical`), and stays
otherwise. What is put in is a merged namespace of the compilation, which stands for itself, so a
second pass finds nothing to do (`Compilation.IsBuilt.normalized_normalized`). A shared list comes
to the same and is given back just if nothing changes (`Compilation.over_normalizeShared`,
`Compilation.isSame_normalizeShared_iff`).
-/

set_option autoImplicit false

namespace SymbolSearch

namespace Compilation

/-! ## One symbol -/

section Symbols

variable {c : Compilation} {s t : Symbol}

theorem canonical?_of_other (h : s.kind.isNamespace = false) : c.canonical? s = none := by
  rw [canonical?, h, if_neg Bool.false_ne_true]

theorem replacement?_eq_some_iff :
    c.replacement? s = some t ↔ c.canonical? s = some t ∧ t.sameAs s = false := by
  rw [replacement?]
  cases hcanonical : c.canonical? s with
  | none => simp
  | some n =>
      cases hsame : n.sameAs s with
      | true =>
          refine iff_of_false (by simp [hsame]) ?_
          rintro ⟨heq, hother⟩
          rw [← Option.some.inj heq, hsame] at hother
          exact Bool.noConfusion hother
      | false =>
          simp only [hsame, Bool.false_eq_true, if_false, Option.some.injEq]
          refine ⟨fun heq => ⟨heq, heq ▸ hsame⟩, And.left⟩

/-- A symbol stays unless it has a merged namespace that is another symbol. -/
theorem replacement?_eq_none_iff :
    c.replacement? s = none ↔ ∀ t, c.canonical? s = some t → t.sameAs s = true := by
  simp only [Option.eq_none_iff_forall_ne_some, ne_eq, replacement?_eq_some_iff, not_and,
    Bool.not_eq_false]

theorem normalized_of_none (h : c.canonical? s = none) : c.normalized s = s := by
  rw [normalized, replacement?, h]
  rfl

theorem normalized_of_canonical (h : c.canonical? s = some t) :
    c.normalized s = if t.sameAs s then s else t := by
  rw [normalized, replacement?, h]
  cases hsame : t.sameAs s with
  | true => simp [hsame]
  | false => simp [hsame]

theorem normalized_of_replacement? (h : c.replacement? s = some t) : c.normalized s = t := by
  rw [normalized, h, Option.getD_some]

/-- A symbol stays exactly if there is nothing to put in its place. -/
theorem normalized_eq_self_iff : c.normalized s = s ↔ c.replacement? s = none := by
  cases hreplacement : c.replacement? s with
  | none => simp [normalized, hreplacement]
  | some t =>
      -- a replacement is another symbol
      refine iff_of_false (fun heq => ?_) (Option.some_ne_none t)
      rw [normalized_of_replacement? hreplacement] at heq
      have hother := (replacement?_eq_some_iff.1 hreplacement).2
      rw [heq, Symbol.sameAs_self] at hother
      exact Bool.noConfusion hother

theorem replacement?_of_normalized_ne (h : c.normalized s ≠ s) :
    c.replacement? s = some (c.normalized s) := by
  obtain ⟨t, ht⟩ := Option.ne_none_iff_exists'.1 (mt normalized_eq_self_iff.2 h)
  rw [ht, normalized_of_replacement? ht]

end Symbols

namespace IsBuilt

variable {c : Compilation} {s t : Symbol}

/-- The merged namespace for a symbol is the symbol itself or found by its qualified name. -/
theorem canonical?_cases (h : c.canonical? s = some t) :
    t = s ∨ c.merged.find? s.qualifiedName = some t := by
  rw [canonical?] at h
  split at h
  · split at h
    · exact Or.inl (Option.some.inj h).symm
    · exact Or.inr h
  · cases h

/-- The merged namespace for a symbol has itself for its merged namespace, whatever its name. -/
theorem canonical?_canonical (h : c.IsBuilt) (hst : c.canonical? s = some t) :
    c.canonical? t = some t := by
  rcases canonical?_cases hst with rfl | hfind
  · exact hst
  · exact h.canonical?_merged hfind

/-- A replacement is a merged namespace of the compilation. -/
theorem mem_mergedNamespaces_of_replacement? (hst : c.replacement? s = some t) :
    t ∈ c.mergedNamespaces := by
  obtain ⟨hcanonical, hother⟩ := replacement?_eq_some_iff.1 hst
  rcases canonical?_cases hcanonical with rfl | hfind
  · rw [Symbol.sameAs_self] at hother
    exact Bool.noConfusion hother
  · exact mem_mergedNamespaces_of_find? hfind

theorem normalized_normalized (h : c.IsBuilt) (s : Symbol) :
    c.normalized (c.normalized s) = c.normalized s := by
  by_cases heq : c.normalized s = s
  · rw [heq, heq]
  · -- the replacement stands for itself
    have hcanonical := (replacement?_eq_some_iff.1 (replacement?_of_normalized_ne heq)).1
    rw [normalized_of_canonical (h.canonical?_canonical hcanonical), ite_self]

end IsBuilt

/-! ## Lists -/

section Lists

variable (c : Compilation) (symbols : List Symbol)

theorem normalize_eq_self_iff :
    c.normalize symbols = symbols ↔ ∀ s ∈ symbols, c.replacement? s = none := by
  calc c.normalize symbols = symbols
      ↔ symbols.map c.normalized = symbols.map fun s => s := by rw [List.map_id', normalize]
    _ ↔ ∀ s ∈ symbols, c.normalized s = s := List.map_inj_left
    _ ↔ ∀ s ∈ symbols, c.replacement? s = none := by simp only [normalized_eq_self_iff]

/-- Before the first symbol to replace all stay, so only those from it on are looked at again. -/
theorem over_normalizeShared :
    (c.normalizeShared symbols).over symbols = c.normalize symbols := by
  rw [normalizeShared]
  split
  next hnone =>
    rw [eq_comm, Reuse.over, normalize_eq_self_iff]
    intro s hs
    simpa using List.findIdx?_eq_none_iff.1 hnone s hs
  next i hsome =>
    obtain ⟨-, -, -, hbefore⟩ := split_of_findIdx? hsome
    have hkept : c.normalize (symbols.take i) = symbols.take i :=
      (c.normalize_eq_self_iff _).2 fun s hs => by simpa using hbefore s hs
    calc symbols.take i ++ c.normalize (symbols.drop i)
        = c.normalize (symbols.take i ++ symbols.drop i) := by
          rw [normalize, normalize, List.map_append, ← normalize, ← normalize, hkept]
      _ = c.normalize symbols := by rw [List.take_append_drop]

theorem isSame_normalizeShared_iff :
    (c.normalizeShared symbols).isSame = true ↔ c.normalize symbols = symbols := by
  rw [normalize_eq_self_iff, normalizeShared]
  split
  next hnone =>
    refine iff_of_true rfl fun s hs => ?_
    simpa using List.findIdx?_eq_none_iff.1 hnone s hs
  next i hsome =>
    obtain ⟨replaced, hsplit, hreplaced, -⟩ := split_of_findIdx? hsome
    refine iff_of_false Bool.noConfusion fun hall => ?_
    rw [hall replaced (by rw [hsplit]; simp)] at hreplaced
    exact Bool.noConfusion hreplaced

end Lists

/-- What replacing namespaces by merged ones makes of a list, position by position. -/
structure NormalizesTo (c : Compilation) (symbols normal : List Symbol) : Prop where
  length_eq : normal.length = symbols.length
  /-- What is no namespace, and what has no merged namespace, stays. -/
  stays : ∀ (i : Nat) (s : Symbol), symbols[i]? = some s →
    s.kind.isNamespace = false ∨ c.canonical? s = none → normal[i]? = some s
  /-- In the place of any other symbol its merged namespace stands. -/
  replaced : ∀ (i : Nat) (s n : Symbol), symbols[i]? = some s → c.canonical? s = some n →
    ∃ t, normal[i]? = some t ∧ t.sameAs n = true
  /-- What changes becomes another symbol, a merged namespace that the compilation owns. -/
  changed : ∀ (i : Nat) (s t : Symbol), symbols[i]? = some s → normal[i]? = some t → t ≠ s →
    t.sameAs s = false ∧ t ∈ c.mergedNamespaces ∧ c.owns t = true

theorem IsBuilt.normalizesTo {c : Compilation} (h : c.IsBuilt) (symbols : List Symbol) :
    c.NormalizesTo symbols (c.normalize symbols) where
  length_eq := List.length_map _
  stays := by
    intro i s hs hor
    have hnone : c.canonical? s = none := hor.elim canonical?_of_other fun hnone => hnone
    rw [normalize, List.getElem?_map, hs, Option.map_some, normalized_of_none hnone]
  replaced := by
    intro i s n hs hn
    refine ⟨c.normalized s, by rw [normalize, List.getElem?_map, hs, Option.map_some], ?_⟩
    rw [normalized_of_canonical hn]
    split
    next hsame => rw [Symbol.sameAs_comm, hsame]
    next => exact n.sameAs_self
  changed := by
    intro i s t hs ht hne
    rw [normalize, List.getElem?_map, hs, Option.map_some, Option.some.injEq] at ht
    subst ht
    have hreplacement := replacement?_of_normalized_ne hne
    have hmem := IsBuilt.mem_mergedNamespaces_of_replacement? hreplacement
    exact ⟨(replacement?_eq_some_iff.1 hreplacement).2, hmem,
      decide_eq_true (h.of_mem_mergedNamespaces hmem).1⟩

theorem IsBuilt.normalize_normalize {c : Compilation} (h : c.IsBuilt) (symbols : List Symbol) :
    c.normalize (c.normalize symbols) = c.normalize symbols := by
  rw [normalize, normalize, List.map_map]
  exact List.map_congr_left fun s _ => h.normalized_normalized s

/-- **Normalizing.** Both ways of replacing namespaces by merged ones come to the same list, and
doing it again changes nothing. A shared list is given back just if it stays as it is, that is if
every symbol in it that has a merged namespace is that namespace. -/
theorem normalization_laws (id : CompilationId) (name : String)
    (documents : List (List Declaration)) (references : List Reference) (symbols : List Symbol) :
    let c := build id name documents references
    (c.normalizeShared symbols).over symbols = c.normalize symbols ∧
    c.NormalizesTo symbols (c.normalize symbols) ∧
    (c.normalize (c.normalize symbols) = c.normalize symbols ∧
      (c.normalizeShared (c.normalize symbols)).isSame = true) ∧
    ((c.normalizeShared symbols).isSame = true ↔ c.normalize symbols = symbols) ∧
    ((c.normalizeShared symbols).isSame = true ↔
      ∀ s ∈ symbols, ∀ t, c.canonical? s = some t → t.sameAs s = true) := by
  intro c
  have h : c.IsBuilt := isBuilt_build
  have hagain := h.normalize_normalize symbols
  refine ⟨c.over_normalizeShared symbols, h.normalizesTo symbols,
    ⟨hagain, (c.isSame_normalizeShared_iff _).2 hagain⟩, c.isSame_normalizeShared_iff symbols, ?_⟩
  rw [isSame_normalizeShared_iff, normalize_eq_self_iff]
  simp only [replacement?_eq_none_iff]

-- A namespace of the documents gives way to the merged one; the merged one itself stays, and so
-- does a namespace of another compilation whose name is unknown here.
example :
    let c := build ⟨0⟩ "App" [[⟨"Net", .nameSpace, 0, false, false, []⟩]] []
    let inner : Symbol := ⟨⟨0⟩, some 0, ⟨1, "Net", .nameSpace, 0, 0, false, false⟩, [.global 0]⟩
    let merged : Symbol := ⟨⟨0⟩, none, ⟨3, "Net", .nameSpace, 0, 0, false, false⟩, [.global 2]⟩
    let foreign : Symbol := ⟨⟨1⟩, none, ⟨3, "Web", .nameSpace, 0, 0, false, false⟩, [.global 2]⟩
    c.normalize [inner, merged, foreign] = [merged, merged, foreign] := by decide

end Compilation

end SymbolSearch
