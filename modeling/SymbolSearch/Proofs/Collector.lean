import SymbolSearch.Collect
import SymbolSearch.Proofs.Session

/-!
# Runs of collectors

A collector runs searches, which leave the results of its caller alone, and writes to the results
when no search is left that could fail. `Collector.AppendsOrCancels` says how such a collector ends
under all tokens: it appends a whole block to the results or is cancelled and leaves them as they
were. Appending does so (`appendsOrCancels_append`), and a search that completes in front keeps it
(`AppendsOrCancels.search_bind`), so a collector is followed from its last step to its first.

Run on earlier results, such a collector is a search that completes with the block behind them
(`AppendsOrCancels.completes_onto`).
-/

set_option autoImplicit false

namespace SymbolSearch

namespace Collector

open Search

variable {κ α : Type} {s s' s'' : Session κ} {results : List Symbol}

/-! ## Single steps -/

/-- A search leaves the results alone, however it ends. -/
theorem run_search (m : Search κ α) (s : Session κ) (results : List Symbol) :
    (search m).run.run (s, results) = ((m.run.run s).1, (m.run.run s).2, results) := rfl

theorem run_search_bind_of_returns {m : Search κ α} {f : α → Collector κ Unit} {a : α}
    (h : Returns m s a s') :
    (search m >>= f).run.run (s, results) = (f a).run.run (s', results) := by
  apply run_bind_of_ok
  rw [run_search, h]

theorem run_search_bind_of_error {m : Search κ α} {f : α → Collector κ Unit} {e : Error}
    (h : m.run.run s = (.error e, s')) :
    (search m >>= f).run.run (s, results) = (.error e, s', results) := by
  apply run_bind_of_error
  rw [run_search, h]

/-! ## Earlier results -/

/-- On earlier results, a collector that succeeds gives what they have become, and a failure of the
collector is one of the search. -/
theorem run_onto (collect : Collector κ Unit) (earlier : List Symbol) (s : Session κ) :
    (collect.onto earlier).run.run s =
      ((match collect.run.run (s, earlier) with
        | (.ok (), s', results) => (.ok results, s')
        | (.error e, s', _) => (.error e, s')) : Except Error (List Symbol) × Session κ) := by
  have hrun : (collect.runOn earlier).run.run s =
      (.ok ((collect.run.run (s, earlier)).1, (collect.run.run (s, earlier)).2.2),
        (collect.run.run (s, earlier)).2.1) := rfl
  rw [onto, run_bind_of_ok hrun]
  rcases collect.run.run (s, earlier) with ⟨_ | _, s', results⟩
  · rfl
  · rfl

/-- A search in front of a collector hands the earlier results on. -/
theorem returns_onto_search_bind {m : Search κ α} {f : α → Collector κ Unit} {a : α}
    {earlier : List Symbol} (hm : Returns m s a s')
    (hf : Returns ((f a).onto earlier) s' results s'') :
    Returns ((search m >>= f).onto earlier) s results s'' := by
  unfold Returns at hf ⊢
  rw [run_onto, run_search_bind_of_returns hm, ← run_onto, hf]

theorem returns_onto_append (block earlier : List Symbol) (s : Session κ) :
    Returns ((append block).onto earlier) s (earlier ++ block) s := rfl

/-! ## Appending a block or nothing -/

/-- Apart from its token, a session determines how the collector ends: if the token lasts for a
number of polls the collector appends `block` to the results and leaves `s'` behind, and otherwise
it is cancelled and the results are as before. -/
structure AppendsOrCancels (collect : Collector κ Unit) (s : Session κ) (block : List Symbol)
    (s' : Session κ) : Prop where
  caller : s'.caller = s.caller
  ends : ∃ polls, ∀ (t : Token) (results : List Symbol),
    (t.Lasts polls → collect.run.run (s.withToken t, results) =
      (.ok (), s'.withToken (t.after polls), results ++ block)) ∧
    (¬ t.Lasts polls → ∃ s₁ : Session κ, s₁.caller = s.caller ∧
      collect.run.run (s.withToken t, results) = (.error .cancelled, s₁, results))

theorem appendsOrCancels_append (block : List Symbol) (s : Session κ) :
    (append block).AppendsOrCancels s block s := by
  refine ⟨rfl, 0, fun t results => ⟨fun _ => ?_, fun ht => absurd t.lasts_zero ht⟩⟩
  rw [t.after_zero]
  rfl

theorem appendsOrCancels_pure (s : Session κ) :
    AppendsOrCancels (pure () : Collector κ Unit) s [] s := by
  refine ⟨rfl, 0, fun t results => ⟨fun _ => ?_, fun ht => absurd t.lasts_zero ht⟩⟩
  rw [t.after_zero, List.append_nil]
  rfl

namespace AppendsOrCancels

variable {collect : Collector κ Unit} {block : List Symbol}

/-- A search in front of a collector. The polls of both add up. -/
theorem search_bind {m : Search κ α} {f : α → Collector κ Unit} {a : α}
    (hm : Completes m s a s') (hf : (f a).AppendsOrCancels s' block s'') :
    (search m >>= f).AppendsOrCancels s block s'' := by
  obtain ⟨i, hi⟩ := hm.ends
  obtain ⟨j, hj⟩ := hf.ends
  refine ⟨hf.caller.trans hm.caller, i + j, fun t results => ⟨fun ht => ?_, fun ht => ?_⟩⟩
  · obtain ⟨hfirst, hsecond⟩ := (t.lasts_add i j).1 ht
    rw [run_search_bind_of_returns ((hi t).1 hfirst), (hj _ results).1 hsecond, t.after_after]
  · rw [t.lasts_add] at ht
    by_cases hfirst : t.Lasts i
    · -- the search succeeds without touching the results, and the rest is cancelled
      obtain ⟨s₁, hcaller, hrun⟩ := (hj (t.after i) results).2 fun hsecond => ht ⟨hfirst, hsecond⟩
      refine ⟨s₁, hcaller.trans hm.caller, ?_⟩
      rw [run_search_bind_of_returns ((hi t).1 hfirst), hrun]
    · obtain ⟨s₁, hrun, hcaller⟩ := (hi t).2 hfirst
      exact ⟨s₁, hcaller, run_search_bind_of_error hrun⟩

/-- On earlier results the collector is a search for the block behind them. -/
theorem completes_onto (h : collect.AppendsOrCancels s block s') (earlier : List Symbol) :
    Completes (collect.onto earlier) s (earlier ++ block) s' := by
  obtain ⟨polls, hends⟩ := h.ends
  refine ⟨h.caller, polls, fun t => ⟨fun ht => ?_, fun ht => ?_⟩⟩
  · rw [Returns, run_onto, (hends t earlier).1 ht]
  · obtain ⟨s₁, hcaller, hrun⟩ := (hends t earlier).2 ht
    refine ⟨s₁, ?_, hcaller⟩
    rw [run_onto, hrun]

end AppendsOrCancels

end Collector

end SymbolSearch
