import SymbolSearch.Selection
import Mathlib.Data.List.Basic

/-!
# Selecting symbols

Selecting for results keeps, in their order, the symbols that are neither implicit nor accessors
and whose kind the filter selects, whether the list is shared or used up, and a shared list is
given back just if nothing is dropped (`over_selectShared`, `select_eq`, `isSame_selectShared_iff`).
Since a kind belongs to one category at most, selecting for two filters in turn is selecting for
what both select (`Filter.selects_inter`, `select_select`), and a filter that selects more keeps
more (`select_sublist_select_union`).
-/

set_option autoImplicit false

namespace SymbolSearch

/-! ## Filters -/

namespace Filter

variable (f g : Filter)

/-- The bits of what either filter selects are those of either filter. -/
theorem bits_union : (f.union g).bits = f.bits ||| g.bits := by
  obtain ⟨namespaces, types, members⟩ := f
  obtain ⟨namespaces', types', members'⟩ := g
  revert namespaces types members namespaces' types' members'
  decide

/-- The bits of what both filters select are the common ones. -/
theorem bits_inter : (f.inter g).bits = f.bits &&& g.bits := by
  obtain ⟨namespaces, types, members⟩ := f
  obtain ⟨namespaces', types', members'⟩ := g
  revert namespaces types members namespaces' types' members'
  decide

theorem selects_union (kind : Kind) :
    (f.union g).selects kind = (f.selects kind || g.selects kind) := by
  cases kind <;> simp [selects, union, Kind.isNamespace, Kind.isType, Kind.isMember]

/-- No kind is in two categories, so what both filters select they select for the same reason. -/
theorem selects_inter (kind : Kind) :
    (f.inter g).selects kind = (f.selects kind && g.selects kind) := by
  cases kind <;> simp [selects, inter, Kind.isNamespace, Kind.isType, Kind.isMember]

end Filter

namespace Symbol

variable (s : Symbol) (f g : Filter)

theorem isIncluded_inter : s.isIncluded (f.inter g) = (s.isIncluded f && s.isIncluded g) := by
  rw [isIncluded, isIncluded, isIncluded, meets, meets, meets, Filter.selects_inter]
  cases !s.isImplicit && !s.isAccessor <;> rfl

theorem isIncluded_union_left (h : s.isIncluded f = true) : s.isIncluded (f.union g) = true := by
  rw [isIncluded, meets, Bool.and_eq_true] at h ⊢
  rw [Filter.selects_union, h.2, Bool.true_or]
  exact ⟨h.1, rfl⟩

end Symbol

/-! ## Passes over a shared list -/

/-- A list is cut at the first item that a test finds. -/
theorem split_of_findIdx? {α : Type} {p : α → Bool} {l : List α} {i : Nat}
    (h : l.findIdx? p = some i) :
    ∃ a, l = l.take i ++ a :: l.drop (i + 1) ∧ p a = true ∧ ∀ b ∈ l.take i, p b = false := by
  obtain ⟨hi, hfound, hbefore⟩ := List.findIdx?_eq_some_iff_getElem.1 h
  refine ⟨l[i], ?_, hfound, ?_⟩
  · rw [← List.drop_eq_getElem_cons hi, List.take_append_drop]
  · intro b hb
    obtain ⟨j, hj, rfl⟩ := List.mem_take_iff_getElem.1 hb
    exact Bool.eq_false_iff.2 (hbefore j (by omega))

section Select

variable (symbols : List Symbol) (f g : Filter)

theorem select_eq : select symbols f = symbols.filter fun s => s.isIncluded f := by
  unfold select
  split
  next hall =>
    rw [eq_comm, List.filter_eq_self]
    exact List.all_eq_true.1 hall
  next => rfl

/-- Before the first symbol to drop all are kept, so only those behind it are looked at again. -/
theorem over_selectShared : (selectShared symbols f).over symbols = select symbols f := by
  rw [select_eq, selectShared]
  split
  next hnone =>
    rw [eq_comm, Reuse.over, List.filter_eq_self]
    intro s hs
    simpa using List.findIdx?_eq_none_iff.1 hnone s hs
  next i hsome =>
    obtain ⟨dropped, hsplit, hdropped, hbefore⟩ := split_of_findIdx? hsome
    have hkept : (symbols.take i).filter (fun s => s.isIncluded f) = symbols.take i :=
      List.filter_eq_self.2 fun s hs => by simpa using hbefore s hs
    have hnot : dropped.isIncluded f = false := by simpa using hdropped
    calc symbols.take i ++ (symbols.drop (i + 1)).filter (fun s => s.isIncluded f)
        = (symbols.take i ++ dropped :: symbols.drop (i + 1)).filter fun s => s.isIncluded f := by
          rw [List.filter_append, hkept, List.filter_cons, hnot, if_neg Bool.false_ne_true]
      _ = symbols.filter fun s => s.isIncluded f := by rw [← hsplit]

theorem isSame_selectShared_iff :
    (selectShared symbols f).isSame = true ↔ select symbols f = symbols := by
  rw [select_eq, List.filter_eq_self, selectShared]
  split
  next hnone =>
    refine iff_of_true rfl fun s hs => ?_
    simpa using List.findIdx?_eq_none_iff.1 hnone s hs
  next i hsome =>
    obtain ⟨dropped, hsplit, hdropped, -⟩ := split_of_findIdx? hsome
    refine iff_of_false Bool.noConfusion fun hall => ?_
    have hincluded := hall dropped (by rw [hsplit]; simp)
    simp [hincluded] at hdropped

theorem select_select : select (select symbols f) g = select symbols (f.inter g) := by
  rw [select_eq, select_eq, select_eq, List.filter_filter]
  apply List.filter_congr
  intro s _
  rw [s.isIncluded_inter, Bool.and_comm]

theorem select_sublist_select_union :
    (select symbols f).Sublist (select symbols (f.union g)) := by
  rw [select_eq, select_eq]
  exact List.monotone_filter_right symbols fun s => s.isIncluded_union_left f g

end Select

/-- **Selecting.** Both ways of selecting keep the same symbols in the same order, and the shared
list is given back just if no symbol is dropped. Selecting for one filter and then for another is
selecting for their common bits, and a filter with more bits keeps more. -/
theorem selection_laws (symbols : List Symbol) (f g : Filter) :
    (selectShared symbols f).over symbols =
      symbols.filter (fun s => !s.isImplicit && !s.isAccessor && f.selects s.kind) ∧
    select symbols f =
      symbols.filter (fun s => !s.isImplicit && !s.isAccessor && f.selects s.kind) ∧
    ((selectShared symbols f).isSame = true ↔
      symbols.filter (fun s => !s.isImplicit && !s.isAccessor && f.selects s.kind) = symbols) ∧
    (select (select symbols f) g = select symbols (f.inter g) ∧
      (selectShared (select symbols f) g).over (select symbols f) = select symbols (f.inter g) ∧
      (f.inter g).bits = f.bits &&& g.bits) ∧
    (select symbols f).Sublist (select symbols (f.union g)) ∧
    (f.union g).bits = f.bits ||| g.bits := by
  have hkept : select symbols f =
      symbols.filter fun s => !s.isImplicit && !s.isAccessor && f.selects s.kind :=
    select_eq symbols f
  refine ⟨?_, hkept, ?_, ⟨select_select symbols f g, ?_, f.bits_inter g⟩,
    select_sublist_select_union symbols f g, f.bits_union g⟩
  · rw [over_selectShared, hkept]
  · rw [isSame_selectShared_iff, hkept]
  · rw [over_selectShared, select_select]

end SymbolSearch
