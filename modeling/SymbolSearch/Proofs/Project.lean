import SymbolSearch.Project
import SymbolSearch.Proofs.Session

/-!
# Compilations kept for projects

A session keeps the compilation of a project once it has been built. Documents and references
may be added to the project afterwards, so what is kept covers the documents and references
that the project has had from the beginning on (`DocumentProject.IsKeptIn`). This holds in a
session without compilations, and building a compilation preserves it.

Asking for the compilation gives what `compileIn` says (`returns_compilation`), and asking again
gives the same compilation (`compileIn_compileIn`).
-/

set_option autoImplicit false

namespace SymbolSearch

namespace DocumentProject

variable {κ : Type}

/-- What the session keeps for the project is a compilation of documents and references that
the project has had from the beginning on. -/
def IsKeptIn (p : DocumentProject) (s : Session κ) : Prop :=
  ∀ c, s.compiled.lookup p.id = some c →
    ∃ id name documents references, documents <+: p.trees ∧ references <+: p.references ∧
      c = Compilation.build id name documents references

theorem isKeptIn_of_compiled_eq_nil (p : DocumentProject) {s : Session κ} (h : s.compiled = []) :
    p.IsKeptIn s := by
  intro c hc
  rw [h] at hc
  exact absurd hc (by simp)

variable {p : DocumentProject} {s : Session κ}

theorem compileIn_of_kept {c : Compilation} (h : s.compiled.lookup p.id = some c) :
    p.compileIn s = (c, s) := by
  simp [compileIn, h]

theorem compileIn_of_new (h : s.compiled.lookup p.id = none) :
    p.compileIn s = (p.compile ⟨s.nextCompilation⟩,
      { s with
        compiled := (p.id, p.compile ⟨s.nextCompilation⟩) :: s.compiled
        nextCompilation := s.nextCompilation + 1 }) := by
  simp [compileIn, h]

/-- After it has been asked for, the compilation is kept. -/
theorem lookup_compileIn :
    (p.compileIn s).2.compiled.lookup p.id = some (p.compileIn s).1 := by
  cases h : s.compiled.lookup p.id with
  | some c =>
      rw [compileIn_of_kept h]
      exact h
  | none =>
      rw [compileIn_of_new h]
      exact List.lookup_cons_self

/-- Asking again changes nothing. -/
theorem compileIn_compileIn : p.compileIn (p.compileIn s).2 = p.compileIn s :=
  compileIn_of_kept lookup_compileIn

@[simp] theorem compileIn_token : (p.compileIn s).2.token = s.token := by
  cases h : s.compiled.lookup p.id with
  | some c => rw [compileIn_of_kept h]
  | none => rw [compileIn_of_new h]

@[simp] theorem compileIn_indexes : (p.compileIn s).2.indexes = s.indexes := by
  cases h : s.compiled.lookup p.id with
  | some c => rw [compileIn_of_kept h]
  | none => rw [compileIn_of_new h]

@[simp] theorem compileIn_caller : (p.compileIn s).2.caller = s.caller := by
  cases h : s.compiled.lookup p.id with
  | some c => rw [compileIn_of_kept h]
  | none => rw [compileIn_of_new h]

/-- The token does not matter for what is kept and what is built. -/
theorem compileIn_withToken (t : Token) :
    p.compileIn (s.withToken t) = ((p.compileIn s).1, (p.compileIn s).2.withToken t) := by
  cases h : s.compiled.lookup p.id with
  | some c =>
      have hlookup : (s.withToken t).compiled.lookup p.id = some c := h
      rw [compileIn_of_kept h, compileIn_of_kept hlookup]
  | none =>
      have hlookup : (s.withToken t).compiled.lookup p.id = none := h
      rw [compileIn_of_new h, compileIn_of_new hlookup]
      rfl

/-- The compilation of a project covers documents and references of the project. -/
theorem IsKeptIn.compileIn_eq (h : p.IsKeptIn s) :
    ∃ id name documents references, documents <+: p.trees ∧ references <+: p.references ∧
      (p.compileIn s).1 = Compilation.build id name documents references := by
  cases hc : s.compiled.lookup p.id with
  | some c =>
      rw [compileIn_of_kept hc]
      exact h c hc
  | none =>
      rw [compileIn_of_new hc]
      exact ⟨_, _, _, _, List.prefix_rfl, List.prefix_rfl, rfl⟩

/-- Asking for the compilation of a project keeps to what is known of it and of others. -/
theorem IsKeptIn.compileIn (h : p.IsKeptIn s) (q : DocumentProject) (hq : q.id = p.id → q = p) :
    p.IsKeptIn (q.compileIn s).2 := by
  cases hc : s.compiled.lookup q.id with
  | some c =>
      rw [compileIn_of_kept hc]
      exact h
  | none =>
      rw [compileIn_of_new hc]
      intro c hlookup
      -- a new compilation is kept under the number of `q` and hides no other one
      by_cases hid : q.id = p.id
      · obtain rfl := hq hid
        rw [List.lookup_cons_self, Option.some.injEq] at hlookup
        exact ⟨_, _, _, _, List.prefix_rfl, List.prefix_rfl, hlookup.symm⟩
      · rw [List.lookup_cons, beq_false_of_ne (Ne.symm hid)] at hlookup
        exact h c hlookup

/-! ## Requests -/

/-- A request leaves the session as it is. Waiting for the answer gives the compilation that is
kept, or builds it. -/
theorem completes_request (p : DocumentProject) (s : Session κ) :
    ∃ reply : Reply κ Compilation, Search.Completes p.request s reply s ∧
      Search.Completes reply.wait s (p.compileIn s).1 (p.compileIn s).2 := by
  cases hc : s.compiled.lookup p.id with
  | some c =>
      refine ⟨.ready c, ?_, ?_⟩
      · refine Search.completes_poll.bind (.get_bind (fun _ => rfl) ?_)
        simp only [hc]
        exact Search.completes_pure _
      · rw [compileIn_of_kept hc]
        exact Search.completes_pure c
  | none =>
      let resume : Search κ Compilation := do
        Search.poll
        let s ← get
        set (p.compileIn s).2
        pure (p.compileIn s).1
      refine ⟨.pending resume, ?_, ?_⟩
      · refine Search.completes_poll.bind (.get_bind (fun _ => rfl) ?_)
        simp only [hc]
        exact Search.completes_pure _
      · refine Search.completes_poll.bind (.of_returns compileIn_caller fun t => ?_)
        -- building looks at the session, but not at its token
        refine Search.returns_get.bind (Search.returns_set.bind ?_)
        rw [compileIn_withToken]
        exact Search.returns_pure _

theorem returns_request (hs : s.token = .live) :
    ∃ reply : Reply κ Compilation, Search.Returns p.request s reply s ∧
      Search.Returns reply.wait s (p.compileIn s).1 (p.compileIn s).2 := by
  obtain ⟨reply, hrequest, hwait⟩ := completes_request p s
  exact ⟨reply, hrequest.returns hs hs, hwait.returns hs (by rw [compileIn_token, hs])⟩

theorem returns_compilation (hs : s.token = .live) :
    Search.Returns (Project.compilation p.toProject) s (p.compileIn s).1 (p.compileIn s).2 := by
  obtain ⟨reply, hrequest, hwait⟩ := returns_request (p := p) hs
  exact hrequest.bind hwait

end DocumentProject

end SymbolSearch
