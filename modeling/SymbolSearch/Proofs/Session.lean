import SymbolSearch.Session

/-!
# Runs of searches

`Search.Returns m s a s'` says that the search `m` succeeds in the session `s`, with the result
`a`, and leaves the session `s'` behind. A search made of others is followed step by step with
`Returns.bind`.

A token that is cancelled at some time is found live by so many polls and no more (`Token.Lasts`).
`Search.Completes m s a s'` says how `m` ends under all tokens: one that lasts for as many polls as
`m` makes lets it return `a`, any other cancels it and leaves the records of the caller as they
were. Polls of searches in a row add up (`Completes.bind`), and a pass over symbols that is not
cancelled collects everything it visits (`completes_visitAll`). Under a token that is never
cancelled a search that completes returns (`Completes.returns`).
-/

set_option autoImplicit false

namespace SymbolSearch

/-- A session in which nothing has been done yet, with a token that is never cancelled. -/
def Session.initial : Session Unit := ⟨.live, [], 0, .empty .default, ⟨[]⟩, ⟨0, 0⟩, ()⟩

section Runs

variable {ε σ α β : Type} {m : ExceptT ε (StateM σ) α} {f : α → ExceptT ε (StateM σ) β} {s s' : σ}

/-- Behind a computation that succeeds, the next one goes on from its state. -/
theorem run_bind_of_ok {a : α} (h : m.run.run s = (.ok a, s')) :
    (m >>= f).run.run s = (f a).run.run s' := by
  rw [ExceptT.run_bind, StateT.run_bind, h]
  rfl

/-- What fails is not followed by anything. -/
theorem run_bind_of_error {e : ε} (h : m.run.run s = (.error e, s')) :
    (m >>= f).run.run s = (.error e, s') := by
  rw [ExceptT.run_bind, StateT.run_bind, h]
  rfl

/-- If one computation after another succeeds, then both do. -/
theorem exists_of_run_bind {s'' : σ} {b : β} (h : (m >>= f).run.run s = (.ok b, s'')) :
    ∃ a s', m.run.run s = (.ok a, s') ∧ (f a).run.run s' = (.ok b, s'') := by
  cases hm : m.run.run s with
  | mk outcome s' =>
      cases outcome with
      | error e =>
          have hfailed : (Except.error e, s') = (Except.ok b, s'') :=
            (run_bind_of_error hm).symm.trans h
          simp at hfailed
      | ok a => exact ⟨a, s', rfl, (run_bind_of_ok hm).symm.trans h⟩

end Runs

/-! ## Tokens that last -/

namespace Token

/-- A number of polls find the token live. -/
def Lasts (t : Token) (polls : Nat) : Prop := ∀ n, t.livePolls = some n → polls ≤ n

/-- The token after polls that have found it live. -/
def after (t : Token) (polls : Nat) : Token := ⟨t.livePolls.map (· - polls)⟩

variable (t : Token) (m n : Nat)

theorem lasts_zero : t.Lasts 0 := fun n _ => Nat.zero_le n

theorem lasts_live : live.Lasts n := fun _ h => nomatch h

@[simp] theorem after_zero : t.after 0 = t := by
  obtain ⟨livePolls⟩ := t
  cases livePolls with
  | none => rfl
  | some n => rfl

@[simp] theorem after_live : live.after n = live := rfl

theorem after_after : (t.after m).after n = t.after (m + n) := by
  obtain ⟨livePolls⟩ := t
  cases livePolls with
  | none => rfl
  | some k =>
      simp only [after, Option.map_some]
      rw [Nat.sub_sub]

/-- Polls in a row are polls one after the other. -/
theorem lasts_add : t.Lasts (m + n) ↔ t.Lasts m ∧ (t.after m).Lasts n := by
  obtain ⟨livePolls⟩ := t
  cases livePolls with
  | none => exact ⟨fun _ => ⟨lasts_live m, lasts_live n⟩, fun _ => lasts_live (m + n)⟩
  | some k =>
      simp only [Lasts, after, Option.map_some, Option.some.injEq, forall_eq']
      omega

theorem isCancelled_eq_false_iff : t.isCancelled = false ↔ t.Lasts 1 := by
  obtain ⟨livePolls⟩ := t
  cases livePolls with
  | none => exact ⟨fun _ => lasts_live 1, fun _ => rfl⟩
  | some k =>
      simp only [isCancelled, Lasts, Option.some.injEq, decide_eq_false_iff_not, forall_eq']
      omega

end Token

namespace Session

variable {κ : Type}

/-- The session with another token. -/
def withToken (s : Session κ) (t : Token) : Session κ := { s with token := t }

theorem withToken_eq {s : Session κ} {t : Token} (h : s.token = t) : s.withToken t = s := by
  rw [← h]
  rfl

end Session

namespace Search

variable {κ α β : Type} {s s' s'' : Session κ}

/-- The search succeeds in `s` with the result `a` and leaves `s'` behind. -/
def Returns (m : Search κ α) (s : Session κ) (a : α) (s' : Session κ) : Prop :=
  m.run.run s = (.ok a, s')

/-- A search has one outcome. -/
theorem Returns.unique {m : Search κ α} {a b : α} (ha : Returns m s a s')
    (hb : Returns m s b s'') : a = b ∧ s' = s'' := by
  have heq := Eq.trans (Eq.symm ha) hb
  rw [Prod.mk.injEq, Except.ok.injEq] at heq
  exact heq

/-- Behind a search that succeeds, the next one goes on from its session. -/
theorem Returns.run_bind {m : Search κ α} {f : α → Search κ β} {a : α} (hm : Returns m s a s') :
    (m >>= f).run.run s = (f a).run.run s' :=
  run_bind_of_ok hm

/-- One search after another. -/
theorem Returns.bind {m : Search κ α} {f : α → Search κ β} {a : α} {b : β}
    (hm : Returns m s a s') (hf : Returns (f a) s' b s'') : Returns (m >>= f) s b s'' :=
  hm.run_bind.trans hf

/-- If one search after another succeeds, then both do. -/
theorem Returns.exists_of_bind {m : Search κ α} {f : α → Search κ β} {b : β}
    (h : Returns (m >>= f) s b s'') : ∃ a s', Returns m s a s' ∧ Returns (f a) s' b s'' :=
  exists_of_run_bind h

theorem returns_pure (a : α) : Returns (pure a : Search κ α) s a s := rfl

theorem returns_get : Returns (get : Search κ (Session κ)) s s s := rfl

theorem returns_set : Returns (set s' : Search κ PUnit) s ⟨⟩ s' := rfl

theorem returns_modify (f : Session κ → Session κ) :
    Returns (modify f : Search κ PUnit) s ⟨⟩ (f s) := rfl

/-! ## Runs under any token -/

/-- The search is cancelled, and the records of the caller are as before. -/
def IsCancelled (m : Search κ α) (s : Session κ) : Prop :=
  ∃ s', m.run.run s = (.error .cancelled, s') ∧ s'.caller = s.caller

/-- Apart from its token, a session determines how the search ends: if the token lasts for a number
of polls it returns `a` and leaves `s'` behind, and otherwise it is cancelled. -/
structure Completes (m : Search κ α) (s : Session κ) (a : α) (s' : Session κ) : Prop where
  caller : s'.caller = s.caller
  ends : ∃ polls, ∀ t : Token,
    (t.Lasts polls → Returns m (s.withToken t) a (s'.withToken (t.after polls))) ∧
      (¬ t.Lasts polls → IsCancelled m (s.withToken t))

namespace Completes

/-- One search after another. The polls of both add up. -/
theorem bind {m : Search κ α} {f : α → Search κ β} {a : α} {b : β}
    (hm : Completes m s a s') (hf : Completes (f a) s' b s'') : Completes (m >>= f) s b s'' := by
  obtain ⟨i, hi⟩ := hm.ends
  obtain ⟨j, hj⟩ := hf.ends
  refine ⟨hf.caller.trans hm.caller, i + j, fun t => ⟨fun ht => ?_, fun ht => ?_⟩⟩
  · obtain ⟨hfirst, hsecond⟩ := (t.lasts_add i j).1 ht
    rw [← t.after_after]
    exact ((hi t).1 hfirst).bind ((hj _).1 hsecond)
  · rw [t.lasts_add] at ht
    by_cases hfirst : t.Lasts i
    · -- the first search succeeds, and the second one is cancelled
      obtain ⟨s₁, hrun, hcaller⟩ := (hj (t.after i)).2 fun hsecond => ht ⟨hfirst, hsecond⟩
      exact ⟨s₁, ((hi t).1 hfirst).run_bind.trans hrun, hcaller.trans hm.caller⟩
    · obtain ⟨s₁, hrun, hcaller⟩ := (hi t).2 hfirst
      exact ⟨s₁, run_bind_of_error hrun, hcaller⟩

/-- A search that does not poll. -/
theorem of_returns {m : Search κ α} {a : α} (hcaller : s'.caller = s.caller)
    (h : ∀ t : Token, Returns m (s.withToken t) a (s'.withToken t)) : Completes m s a s' := by
  refine ⟨hcaller, 0, fun t => ⟨fun _ => ?_, fun ht => absurd t.lasts_zero ht⟩⟩
  rw [t.after_zero]
  exact h t

/-- A search that looks at the session, but not at the token. -/
theorem get_bind {f : Session κ → Search κ α} {a : α} (htoken : ∀ t, f (s.withToken t) = f s)
    (h : Completes (f s) s a s') : Completes (get >>= f) s a s' := by
  obtain ⟨polls, hends⟩ := h.ends
  refine ⟨h.caller, polls, fun t => ?_⟩
  have hrun : (get >>= f).run.run (s.withToken t) = (f s).run.run (s.withToken t) := by
    rw [← htoken t]
    rfl
  unfold Returns IsCancelled
  rw [hrun]
  exact hends t

/-- Under a live token the search succeeds. -/
theorem returns_withToken {m : Search κ α} {a : α} (h : Completes m s a s')
    (hs : s.token = .live) : Returns m s a (s'.withToken .live) := by
  obtain ⟨polls, hends⟩ := h.ends
  have hlive := (hends .live).1 (Token.lasts_live polls)
  rwa [Token.after_live, Session.withToken_eq hs] at hlive

theorem returns {m : Search κ α} {a : α} (h : Completes m s a s') (hs : s.token = .live)
    (hs' : s'.token = .live) : Returns m s a s' := by
  have hreturns := h.returns_withToken hs
  rwa [Session.withToken_eq hs'] at hreturns

/-- If the search succeeds under some token, it returns `a`. -/
theorem eq_of_returns {m : Search κ α} {a b : α} (h : Completes m s a s')
    (hb : Returns m s b s'') : b = a := by
  obtain ⟨polls, hends⟩ := h.ends
  rw [← Session.withToken_eq (s := s) rfl] at hb
  by_cases ht : s.token.Lasts polls
  · exact (hb.unique ((hends s.token).1 ht)).1
  · obtain ⟨s₁, hrun, -⟩ := (hends s.token).2 ht
    have hfailed : (Except.ok b, s'') = (Except.error Error.cancelled, s₁) :=
      Eq.trans (Eq.symm hb) hrun
    simp at hfailed

end Completes

theorem completes_pure (a : α) : Completes (pure a : Search κ α) s a s :=
  .of_returns rfl fun _ => returns_pure a

theorem run_poll (t : Token) : (poll : Search κ Unit).run.run (s.withToken t) =
    if t.isCancelled then (.error .cancelled, s.withToken t)
    else (.ok (), s.withToken t.polled) := by
  obtain ⟨livePolls⟩ := t
  rcases livePolls with _ | _ | n
  · rfl
  · rfl
  · rfl

theorem completes_poll : Completes poll s () s := by
  refine ⟨rfl, 1, fun t => ⟨fun ht => ?_, fun ht => ⟨s.withToken t, ?_, rfl⟩⟩⟩
  · rw [← t.isCancelled_eq_false_iff] at ht
    rw [Returns, run_poll, ht, if_neg Bool.false_ne_true]
    rfl
  · rw [← t.isCancelled_eq_false_iff, Bool.not_eq_false] at ht
    rw [run_poll, if_pos ht]

/-- Visits that depend on the items alone are all made. -/
theorem completes_visitFrom (interval : Nat) (visit : α → Option β) (items : List α) (i : Nat) :
    Completes (visitFrom interval (fun a => pure (visit a)) i items) s
      (items.filterMap visit) s := by
  induction items generalizing i with
  | nil => exact completes_pure []
  | cons a items ih =>
      -- whether or not the position is polled, the item is visited and then the rest
      have hrest : Completes (do
          let found ← (pure (visit a) : Search κ (Option β))
          let rest ← visitFrom interval (fun a => pure (visit a)) (i + 1) items
          pure (found.toList ++ rest)) s ((a :: items).filterMap visit) s := by
        refine (completes_pure (visit a)).bind ((ih (i + 1)).bind ?_)
        cases hvisit : visit a with
        | none => rw [List.filterMap_cons_none hvisit]; exact completes_pure _
        | some b => rw [List.filterMap_cons_some hvisit]; exact completes_pure _
      rw [visitFrom]
      split
      · exact completes_poll.bind hrest
      · exact hrest

theorem completes_visitAll (interval : Nat) (visit : α → Option β) (items : List α) :
    Completes (visitAll interval (fun a => pure (visit a)) items) s (items.filterMap visit) s :=
  completes_visitFrom interval visit items 0

/-- Whatever the token, visits that depend on the items alone are all made or the pass fails. -/
theorem eq_of_returns_visitFrom {interval : Nat} {visit : α → Option β} {items : List α}
    {i : Nat} {found : List β}
    (h : Returns (visitFrom interval (fun a => pure (visit a)) i items) s found s') :
    found = items.filterMap visit :=
  (completes_visitFrom interval visit items i).eq_of_returns h

theorem returns_visitAll (h : s.token = .live) (interval : Nat) (visit : α → Option β)
    (items : List α) :
    Returns (visitAll interval (fun a => pure (visit a)) items) s (items.filterMap visit) s :=
  (completes_visitAll interval visit items).returns h h

end Search

end SymbolSearch
