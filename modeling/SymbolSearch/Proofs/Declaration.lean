import SymbolSearch.Declaration.Basic

/-!
# Induction on rows of declaration trees

Builders of assemblies, indexes and name tables all work through a row of trees: first the
members of the head, then the trees after it. `forest_induction` is the induction principle
that follows this order, so that each property of a builder is proved by one induction.
-/

set_option autoImplicit false

namespace SymbolSearch

namespace Declaration

/-- Induction on a row of trees: the members of the head and the trees after it. -/
theorem forest_induction {motive : List Declaration → Prop} (nil : motive [])
    (cons : ∀ (name : String) (kind : Kind) (arity : UInt32) (implicit accessor : Bool)
      (children rest : List Declaration), motive children → motive rest →
        motive (⟨name, kind, arity, implicit, accessor, children⟩ :: rest))
    (ds : List Declaration) : motive ds := by
  refine @Declaration.rec_1 (fun d => ∀ rest, motive rest → motive (d :: rest)) motive
    ?_ nil ?_ ds
  · intro name kind arity implicit accessor children hchildren rest hrest
    exact cons name kind arity implicit accessor children rest hchildren hrest
  · intro d ds hd hds
    exact hd ds hds

@[simp] theorem preorderList_cons (name : String) (kind : Kind) (arity : UInt32)
    (implicit accessor : Bool) (children ds : List Declaration) :
    preorderList (⟨name, kind, arity, implicit, accessor, children⟩ :: ds) =
      ⟨name, kind, arity, implicit, accessor, children⟩ ::
        (preorderList children ++ preorderList ds) := by
  simp only [preorderList, preorder, List.cons_append]

theorem preorderList_eq_flatMap (ds : List Declaration) :
    preorderList ds = ds.flatMap preorder := by
  induction ds with
  | nil => rfl
  | cons d ds ih => rw [preorderList, ih, List.flatMap_cons]

theorem preorderList_append (ds es : List Declaration) :
    preorderList (ds ++ es) = preorderList ds ++ preorderList es := by
  simp only [preorderList_eq_flatMap, List.flatMap_append]

theorem preorderList_flatten (documents : List (List Declaration)) :
    preorderList documents.flatten = documents.flatMap preorderList := by
  induction documents with
  | nil => rfl
  | cons ds documents ih =>
      rw [List.flatten_cons, preorderList_append, ih, List.flatMap_cons]

end Declaration

end SymbolSearch
