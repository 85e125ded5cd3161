import SymbolSearch.Key
import SymbolSearch.Proofs.Assembly.Growth

/-!
# Keys as paths

The key of a symbol is the key of its container and one more step (`Key.steps_ofSymbol`), and
following a key takes its steps one after the other (`Key.follow_concat`). In an assembly each
step finds the member that stands at its ordinal, so the key of a declared symbol leads back
to it (`Assembly.resolveIn_ofSymbol`).
-/

set_option autoImplicit false

namespace SymbolSearch

namespace Key

/-- A global namespace has the empty key. -/
theorem steps_ofSymbol_global {s : Symbol} (habove : s.above = [])
    (hkind : s.kind.isNamespace = true) : (ofSymbol s).steps = [] := by
  rw [ofSymbol, Symbol.belowGlobal_lineage_global habove hkind]
  rfl

/-- The key of a member is the key of its container and the step to the member. -/
theorem steps_ofSymbol {s c : Symbol} (h : s.container? = some c) :
    (ofSymbol s).steps = (ofSymbol c).steps ++ [s.node.step] := by
  simp [ofSymbol, Symbol.belowGlobal_lineage h]

section Follow

variable (members : Symbol → List Symbol)

@[simp] theorem follow_nil (s : Symbol) : follow members [] s = some s := rfl

theorem follow_cons (step : KeyStep) (steps : List KeyStep) (s : Symbol) :
    follow members (step :: steps) s =
      (((members s).filter step.names)[step.ordinal]?).bind (follow members steps) := by
  cases h : ((members s).filter step.names)[step.ordinal]? with
  | none => simp [follow, h]
  | some m => simp [follow, h]

/-- The last step of a key starts where the steps before it lead. -/
theorem follow_concat (steps : List KeyStep) (last : KeyStep) (s : Symbol) :
    follow members (steps ++ [last]) s =
      (follow members steps s).bind fun c => ((members c).filter last.names)[last.ordinal]? := by
  induction steps generalizing s with
  | nil =>
      rw [List.nil_append, follow_cons]
      cases h : ((members s).filter last.names)[last.ordinal]? with
      | none => simp [h]
      | some m => simp [h]
  -- the first step is the same on both sides, and the last one is taken after the others
  | cons step steps ih =>
      rw [List.cons_append, follow_cons, follow_cons]
      cases ((members s).filter step.names)[step.ordinal]? with
      | none => rfl
      | some m => exact ih m

end Follow

end Key

namespace Assembly

variable {a : Assembly}

/-- The step to a declared symbol finds it among the members of its container. -/
theorem getElem?_filter_names (h : a.IsGrown) {s : Symbol} (hs : s ∈ a.declared) {k : Nat}
    (hk : s.containerId? = some k) :
    ((membersIn a.declared k).filter s.node.step.names)[s.node.step.ordinal]? = some s :=
  Grown.getElem?_ordinal h hs hk

/-- What a step finds in a container is a member with the name, kind, arity and ordinal of the
step. -/
theorem step_eq_of_getElem? (h : a.IsGrown) {step : KeyStep} {k : Nat} {s : Symbol}
    (hs : ((membersIn a.declared k).filter step.names)[step.ordinal]? = some s) :
    (s ∈ a.declared ∧ s.containerId? = some k) ∧ s.node.step = step := by
  have hmem := List.mem_filter.1 (List.mem_of_getElem? hs)
  have hordinal : s.ordinal = step.ordinal := Grown.ordinal_eq_of_getElem? h hs
  obtain ⟨hmember, hnames⟩ := hmem
  simp only [KeyStep.names, Bool.and_eq_true, decide_eq_true_eq] at hnames
  obtain ⟨⟨hname, hkind⟩, harity⟩ := hnames
  refine ⟨mem_membersIn.1 hmember, ?_⟩
  cases step
  simp only at hname hkind harity hordinal
  subst hname hkind harity hordinal
  rfl

/-- What a key with a last step leads to, in whatever assembly, is declared there and has the name,
kind and arity of this step. -/
theorem mem_declared_of_follow {steps : List KeyStep} {last : KeyStep} {c s : Symbol}
    (h : Key.follow a.membersOf (steps ++ [last]) c = some s) :
    s ∈ a.declared ∧ last.names s = true := by
  rw [Key.follow_concat, Option.bind_eq_some_iff] at h
  obtain ⟨container, -, hfound⟩ := h
  obtain ⟨hmember, hnames⟩ := List.mem_filter.1 (List.mem_of_getElem? hfound)
  exact ⟨(a.membersOf_sublist container).subset hmember, hnames⟩

/-- The key of a declared symbol, or of the global namespace, leads back to it. -/
theorem resolveIn_ofSymbol (h : a.IsGrown) :
    ∀ s ∈ a.globalNamespace :: a.declared, (Key.ofSymbol s).resolveIn a = some s := by
  refine Grown.container_induction h ?_ ?_
  · -- the global namespace has the empty key
    rw [Key.resolveIn, Key.steps_ofSymbol_global rfl rfl]
    rfl
  · -- the key of the container leads to the container, where one more step is taken
    intro s hs c hc hcont ih
    rw [Key.resolveIn] at ih ⊢
    rw [Key.steps_ofSymbol hcont, Key.follow_concat, ih, Option.bind_some, membersOf_eq h hc]
    exact getElem?_filter_names h hs (Symbol.containerId?_eq hcont)

end Assembly

end SymbolSearch
