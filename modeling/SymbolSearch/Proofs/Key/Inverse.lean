import SymbolSearch.Proofs.Compilation
import SymbolSearch.Proofs.Key.Path
import Mathlib.Data.List.Induction

/-!
# Keys and symbols of an assembly

Inside one assembly a key says as much as a symbol. The key of a symbol leads back to the symbol
(`Assembly.resolveIn_ofSymbol`), and whatever a key leads to has this key
(`Assembly.steps_ofSymbol_of_follow`). So the keys that lead anywhere are exactly the keys of the
declared symbols and the empty key of the global namespace (`Assembly.resolveIn_eq_some_iff`),
whatever names, arities and repetitions the declarations have.
-/

set_option autoImplicit false

namespace SymbolSearch

namespace Assembly

variable {a : Assembly}

/-- What some steps lead to is a symbol of the assembly, and these are the steps of its key. -/
theorem steps_ofSymbol_of_follow (h : a.IsGrown) (steps : List KeyStep) :
    ∀ s, Key.follow a.membersOf steps a.globalNamespace = some s →
      s ∈ a.symbols ∧ (Key.ofSymbol s).steps = steps := by
  -- the induction is on the last step, because a key is built from the container's key
  induction steps using List.reverseRecOn with
  | nil =>
      intro s hs
      rw [Key.follow_nil, Option.some.injEq] at hs
      subst hs
      exact ⟨List.mem_cons_self, Key.steps_ofSymbol_global rfl rfl⟩
  | append_singleton steps last ih =>
      intro s hs
      rw [Key.follow_concat, Option.bind_eq_some_iff] at hs
      obtain ⟨c, hc, hs⟩ := hs
      obtain ⟨hcmem, hcsteps⟩ := ih c hc
      rw [membersOf_eq h hcmem] at hs
      obtain ⟨⟨hmem, hid⟩, hstep⟩ := step_eq_of_getElem? h hs
      have hcont := Grown.container?_of_containerId? h hmem hcmem hid
      refine ⟨List.mem_cons_of_mem _ hmem, ?_⟩
      rw [Key.steps_ofSymbol hcont, hcsteps, hstep]

/-- A key leads to a symbol exactly if it is the key of the symbol. -/
theorem resolveIn_eq_some_iff (h : a.IsGrown) {key : Key} {s : Symbol} :
    key.resolveIn a = some s ↔ s ∈ a.symbols ∧ Key.ofSymbol s = key := by
  constructor
  · intro hs
    obtain ⟨hmem, hsteps⟩ := steps_ofSymbol_of_follow h key.steps s hs
    exact ⟨hmem, congrArg Key.mk hsteps⟩
  · rintro ⟨hmem, rfl⟩
    exact resolveIn_ofSymbol h s hmem

/-- Different symbols of an assembly have different keys. -/
theorem ofSymbol_injOn (h : a.IsGrown) {s t : Symbol} (hs : s ∈ a.symbols) (ht : t ∈ a.symbols)
    (hkey : Key.ofSymbol s = Key.ofSymbol t) : s = t := by
  have hresolve := resolveIn_ofSymbol h s hs
  rw [hkey, resolveIn_ofSymbol h t ht, Option.some.injEq] at hresolve
  exact hresolve.symm

end Assembly

namespace Compilation

/-- **In every assembly of a compilation, making a key and following it are inverse to each
other.** The key of a declared symbol, or of the global namespace, leads to that symbol, and a key
that leads to a symbol is the key of the symbol. -/
theorem resolveIn_iff_ofSymbol (id : CompilationId) (name : String)
    (documents : List (List Declaration)) (references : List Reference) {a : Assembly}
    (ha : a ∈ (build id name documents references).assemblies) (key : Key) (s : Symbol) :
    key.resolveIn a = some s ↔
      s ∈ a.globalNamespace :: a.declared ∧ Key.ofSymbol s = key := by
  have hgrown : a.IsGrown := isBuilt_build.row.isGrown ha
  exact Assembly.resolveIn_eq_some_iff hgrown

/-- Two documents with a namespace of one name, declared with different arities, and a method of
one name in each. -/
def reopenedDocuments : List (List Declaration) :=
  [[⟨"Net", .nameSpace, 0, false, false, [⟨"Open", .method, 0, false, false, []⟩]⟩],
    [⟨"Net", .nameSpace, 2, false, false, [⟨"Open", .method, 0, false, false, []⟩]⟩]]

/-- The second method is the second member of the one namespace, which keeps its first arity. -/
theorem resolveIn_iff_ofSymbol_reopenedDocuments :
    (⟨[⟨"Net", .nameSpace, 0, 0⟩, ⟨"Open", .method, 0, 1⟩]⟩ : Key).resolveIn
      (build ⟨0⟩ "App" reopenedDocuments []).source =
    some ⟨⟨0⟩, some 0, ⟨3, "Open", .method, 0, 1, false, false⟩,
      [⟨1, "Net", .nameSpace, 0, 0, false, false⟩, .global 0]⟩ := by
  apply (resolveIn_iff_ofSymbol ⟨0⟩ "App" reopenedDocuments [] List.mem_cons_self _ _).2
  exact ⟨by decide, rfl⟩

end Compilation

end SymbolSearch
