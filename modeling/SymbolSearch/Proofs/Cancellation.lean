import SymbolSearch.Proofs.Collect
import SymbolSearch.Proofs.Index.Obtain

/-!
# Collecting under cancellation

A collector writes to the results that its caller has so far, and its token may be cancelled at any
time. Both collectors append a whole block, the same to all results and under all tokens that last
long enough, or they are cancelled and leave the results as they were
(`collectors_appendOrCancel`). The block is that of a call whose token is never cancelled.
-/

set_option autoImplicit false

namespace SymbolSearch

open Search

variable {κ : Type}

/-! ## The metadata collector -/

/-- What a search in the index finds in an assembly. -/
def Index.foundIn (index : Index) (query : Query) (a : Assembly) (filter : Filter) : List Symbol :=
  (index.candidates query).filterMap (index.symbolAt a filter)

/-- The index that a collector obtains for a reference, if it is given one. -/
def Session.indexOf? (s : Session κ) (reference : Option Reference) : Option Index :=
  reference.bind fun r => (s.obtained r false).1

/-- The metadata collector appends what is found by way of the index, if there is one. -/
theorem appendsOrCancels_appendMetadata {query : Query} (hquery : query.kind ≠ .custom)
    (a : Assembly) (reference : Option Reference) (filter : Filter) (s : Session κ) :
    ∃ s', (appendMetadata a reference query filter).AppendsOrCancels s
      (((s.indexOf? reference).map fun index => index.foundIn query a filter).getD []) s' := by
  cases reference with
  | none =>
      refine ⟨s, .search_bind (completes_refuseCustom hquery s) ?_⟩
      simp only [Session.indexOf?, Option.bind_none, Option.map_none, Option.getD_none]
      exact Collector.appendsOrCancels_pure s
  | some r =>
      refine ⟨(s.obtained r false).2, .search_bind (completes_refuseCustom hquery s)
        (.search_bind (completes_obtainIndex s r false) ?_)⟩
      simp only [Session.indexOf?, Option.bind_some]
      cases (s.obtained r false).1 with
      | none =>
          simp only [Option.map_none, Option.getD_none]
          exact Collector.appendsOrCancels_pure _
      | some index =>
          exact .search_bind (completes_visitAll scanInterval _ _)
            (Collector.appendsOrCancels_append _ _)

theorem completes_collectMetadata {query : Query} (hquery : query.kind ≠ .custom) (a : Assembly)
    (reference : Option Reference) (filter : Filter) (s : Session κ) (earlier : List Symbol) :
    ∃ s', Completes (collectMetadata a reference query filter earlier) s
      (earlier ++ ((s.indexOf? reference).map fun index => index.foundIn query a filter).getD [])
      s' := by
  obtain ⟨s', hcollect⟩ := appendsOrCancels_appendMetadata hquery a reference filter s
  exact ⟨s', hcollect.completes_onto earlier⟩

/-! ## Both collectors -/

/-- **A collector appends a whole block or nothing.** Whenever the token of a call is cancelled, the
call either fails as cancelled and leaves the results of its caller as they were, or it appends the
block that it appends under a token that is never cancelled. -/
theorem collectors_appendOrCancel (query : Query) (hquery : query.kind ≠ .custom) (filter : Filter)
    (s : Session κ) :
    (∀ (p : DocumentProject) (target : Option (Compilation × Assembly)), ∃ block s',
      (appendSource p.toProject query filter target).AppendsOrCancels s block s') ∧
    ∀ (a : Assembly) (reference : Option Reference), ∃ block s',
      (appendMetadata a reference query filter).AppendsOrCancels s block s' := by
  constructor
  · intro p target
    exact ⟨_, _, appendsOrCancels_appendSource p hquery filter target s⟩
  · intro a reference
    exact ⟨_, appendsOrCancels_appendMetadata hquery a reference filter s⟩

/-- An interface that a caller has found in another compilation. -/
def readerInterface : Symbol :=
  ⟨⟨7⟩, some 0, ⟨1, "Reader", .interfaceType, 0, 0, false, false⟩, [.global 0]⟩

/-- A call for the project appends its class behind this interface, or is cancelled. -/
theorem collectors_appendOrCancel_aliasProject :
    ∃ polls, ∀ t : Token,
      (t.Lasts polls → ∃ s', (appendSource aliasProject.toProject (.exact "Reader" false)
        .typesAndMembers none).run.run (Session.initial.withToken t, [readerInterface]) =
          (.ok (), s', [readerInterface,
            ⟨⟨0⟩, some 0, ⟨1, "Reader", .classType, 0, 0, false, false⟩, [.global 0]⟩])) ∧
      (¬ t.Lasts polls → ∃ s', (appendSource aliasProject.toProject (.exact "Reader" false)
        .typesAndMembers none).run.run (Session.initial.withToken t, [readerInterface]) =
          (.error .cancelled, s', [readerInterface])) := by
  obtain ⟨block, s', hcollect⟩ := (collectors_appendOrCancel (.exact "Reader" false) (by decide)
    .typesAndMembers Session.initial).1 aliasProject none
  -- the block is what a call appends whose token is never cancelled
  have hcall : Returns (collectSource aliasProject.toProject (.exact "Reader" false)
      .typesAndMembers none []) Session.initial _ _ :=
    returns_collectSource (by decide) rfl
      (DocumentProject.isKeptIn_of_compiled_eq_nil aliasProject rfl) []
  have hblock : block =
      [⟨⟨0⟩, some 0, ⟨1, "Reader", .classType, 0, 0, false, false⟩, [.global 0]⟩] := by
    rw [← List.nil_append block, ← (hcollect.completes_onto []).eq_of_returns hcall]
    decide +kernel
  obtain ⟨polls, hends⟩ := hcollect.ends
  refine ⟨polls, fun t => ⟨fun ht => ?_, fun ht => ?_⟩⟩
  · refine ⟨s'.withToken (t.after polls), ?_⟩
    rw [(hends t [readerInterface]).1 ht, hblock]
    rfl
  · obtain ⟨s₁, -, hrun⟩ := (hends t [readerInterface]).2 ht
    exact ⟨s₁, hrun⟩

end SymbolSearch
