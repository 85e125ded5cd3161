import SymbolSearch.Proofs.Collect
import Mathlib.Order.Bounds.Basic

/-!
# Cancellation from inside of a predicate

A predicate that is called on the declared symbols may cancel the token of its own search. The
search notices this at the next position at which it polls, and not before: until then the
predicate is called on every symbol (`returns_visitFrom_recording`). If no such position comes, the
cancellation is not noticed at all, and the search finds what it would have found without it
(`findWhere_cancelled_at`).
-/

set_option autoImplicit false

namespace SymbolSearch

open Search

/-! ## Passes in two parts -/

theorem visitFrom_append {κ α β : Type} (interval : Nat) (visit : α → Search κ (Option β))
    (as bs : List α) (i : Nat) :
    visitFrom interval visit i (as ++ bs) = (do
      let found ← visitFrom interval visit i as
      let rest ← visitFrom interval visit (i + as.length) bs
      pure (found ++ rest)) := by
  induction as generalizing i with
  | nil => simp [visitFrom]
  | cons a as ih =>
      have hlength : i + 1 + as.length = i + (a :: as).length := by
        rw [List.length_cons]
        omega
      simp only [List.cons_append, visitFrom, ih, hlength]
      split
      · simp only [bind_assoc, pure_bind, List.append_assoc]
      · simp only [bind_assoc, pure_bind, List.append_assoc]

/-! ## Predicates that record their calls -/

/-- A predicate that may look at its earlier calls, which it keeps in the records of the caller. In
the call with the number `cancelAt`, if there is one, it cancels the token. -/
def recording (answer : List Symbol → Symbol → Bool) (cancelAt : Option Nat) (m : Symbol) :
    Search (List Symbol) Bool := do
  let calls := (← get).caller
  modify fun s => { s with caller := calls ++ [m] }
  if cancelAt = some (calls.length + 1) then Search.cancel
  pure (answer calls m)

/-- The symbols that such a predicate accepts when it is called on them one after the other. -/
def acceptedAfter (answer : List Symbol → Symbol → Bool) : (calls : List Symbol) → List Symbol →
    List Symbol
  | _, [] => []
  | calls, m :: rest =>
      (if answer calls m then some m else none).toList ++ acceptedAfter answer (calls ++ [m]) rest

/-- The token after a number of calls, if it is cancelled in one of them. -/
def tokenAfterCalls (cancelAt : Option Nat) (calls : Nat) : Token :=
  if ∃ n ∈ cancelAt, n ≤ calls then .cancelled else .live

/-- The session when the predicate has been called on some symbols. -/
def Session.calledOn (s : Session (List Symbol)) (cancelAt : Option Nat) (calls : List Symbol) :
    Session (List Symbol) :=
  { s with caller := calls, token := tokenAfterCalls cancelAt calls.length }

section Calls

variable {answer : List Symbol → Symbol → Bool} {cancelAt : Option Nat} {calls : List Symbol}
  {s : Session (List Symbol)}

theorem tokenAfterCalls_live {k : Nat} (h : ∀ n ∈ cancelAt, k < n) :
    tokenAfterCalls cancelAt k = .live := by
  rw [tokenAfterCalls, if_neg]
  rintro ⟨n, hn, hle⟩
  exact Nat.not_lt.2 hle (h n hn)

theorem tokenAfterCalls_cancelled {k n : Nat} (h : n ≤ k) :
    tokenAfterCalls (some n) k = .cancelled := by
  rw [tokenAfterCalls, if_pos ⟨n, rfl, h⟩]

/-- One call changes the token only if it is the one that cancels it. -/
theorem tokenAfterCalls_succ (k : Nat) :
    tokenAfterCalls cancelAt (k + 1) =
      if cancelAt = some (k + 1) then .cancelled else tokenAfterCalls cancelAt k := by
  cases cancelAt with
  | none => rfl
  | some n =>
      rcases Nat.lt_trichotomy n (k + 1) with hlt | rfl | hgt
      · rw [tokenAfterCalls_cancelled (Nat.le_of_lt hlt),
          tokenAfterCalls_cancelled (Nat.le_of_lt_succ hlt), ite_self]
      · rw [tokenAfterCalls_cancelled (Nat.le_refl _), if_pos rfl]
      · have hne : some n ≠ some (k + 1) := fun heq => Nat.ne_of_gt hgt (Option.some.inj heq)
        rw [if_neg hne, tokenAfterCalls_live (by simpa using hgt),
          tokenAfterCalls_live (by simpa using Nat.lt_of_succ_lt hgt)]

/-- Before the first call the session is as it was. -/
theorem Session.calledOn_nil (hlive : s.token = .live) (hcaller : s.caller = [])
    (hcancel : ∀ n ∈ cancelAt, 0 < n) : s.calledOn cancelAt [] = s := by
  rw [Session.calledOn, List.length_nil, tokenAfterCalls_live hcancel, ← hlive, ← hcaller]

theorem returns_recording (m : Symbol) :
    Returns (recording answer cancelAt m) (s.calledOn cancelAt calls) (answer calls m)
      (s.calledOn cancelAt (calls ++ [m])) := by
  have hsession : s.calledOn cancelAt (calls ++ [m]) = { s.calledOn cancelAt calls with
      caller := calls ++ [m]
      token := if cancelAt = some (calls.length + 1) then .cancelled
        else tokenAfterCalls cancelAt calls.length } := by
    rw [Session.calledOn, List.length_append, List.length_singleton, tokenAfterCalls_succ]
    rfl
  rw [hsession]
  refine returns_get.bind ((returns_modify _).bind ?_)
  change Returns (if cancelAt = some (calls.length + 1) then _ else _) _ _ _
  by_cases hcancel : cancelAt = some (calls.length + 1)
  · rw [if_pos hcancel, if_pos hcancel]
    exact (returns_modify _).bind (returns_pure _)
  · rw [if_neg hcancel, if_neg hcancel]
    exact returns_pure _

/-- Keep a symbol if the predicate accepts it. -/
def keepIf (accepts : Symbol → Search (List Symbol) Bool) (m : Symbol) :
    Search (List Symbol) (Option Symbol) := do
  let accepted ← accepts m
  pure (if accepted then some m else none)

theorem returns_keepIf_recording (m : Symbol) :
    Returns (keepIf (recording answer cancelAt) m) (s.calledOn cancelAt calls)
      (if answer calls m then some m else none) (s.calledOn cancelAt (calls ++ [m])) :=
  (returns_recording m).bind (returns_pure _)

/-- A pass calls the predicate on every item if the token is live wherever it is polled. -/
theorem returns_visitFrom_recording {interval : Nat} (calls items : List Symbol)
    (hpolls : ∀ k, calls.length ≤ k → k < calls.length + items.length → interval ∣ k →
      ∀ n ∈ cancelAt, k < n) :
    Returns (visitFrom interval (keepIf (recording answer cancelAt)) calls.length items)
      (s.calledOn cancelAt calls) (acceptedAfter answer calls items)
      (s.calledOn cancelAt (calls ++ items)) := by
  induction items generalizing calls with
  | nil =>
      rw [List.append_nil]
      exact returns_pure []
  | cons m rest ih =>
      have hlength : (calls ++ [m]).length = calls.length + 1 := List.length_append
      -- the positions behind the first one are those of the rest
      have hothers := ih (calls ++ [m]) fun k hle hlt hdvd =>
        hpolls k (by omega) (by rw [List.length_cons]; omega) hdvd
      rw [hlength, ← List.append_cons] at hothers
      have hvisit : Returns (do
          let found ← keepIf (recording answer cancelAt) m
          let others ←
            visitFrom interval (keepIf (recording answer cancelAt)) (calls.length + 1) rest
          pure (found.toList ++ others)) (s.calledOn cancelAt calls)
          (acceptedAfter answer calls (m :: rest)) (s.calledOn cancelAt (calls ++ m :: rest)) :=
        (returns_keepIf_recording m).bind (hothers.bind (returns_pure _))
      rw [visitFrom]
      split
      next hpolled =>
        have hlive : (s.calledOn cancelAt calls).token = .live :=
          tokenAfterCalls_live (hpolls calls.length (Nat.le_refl _)
            (Nat.lt_add_of_pos_right (Nat.succ_pos _)) (Nat.dvd_of_mod_eq_zero hpolled))
        exact (completes_poll.returns hlive hlive).bind hvisit
      next => exact hvisit

/-- A pass that is cancelled before the poll at its position makes no call. -/
theorem run_visitFrom_cancelled {κ α β : Type} {interval i : Nat}
    {visit : α → Search κ (Option β)} {items : List α} {s : Session κ} (hs : s.token = .cancelled)
    (hpolled : interval ∣ i) (hitems : items ≠ []) :
    (visitFrom interval visit i items).run.run s = (.error .cancelled, s) := by
  obtain ⟨a, rest, rfl⟩ := List.exists_cons_of_ne_nil hitems
  have hpoll : (poll : Search κ Unit).run.run s = (.error .cancelled, s) := by
    have hrun := run_poll (s := s) .cancelled
    rwa [Session.withToken_eq hs] at hrun
  rw [visitFrom, if_pos (Nat.mod_eq_zero_of_dvd hpolled)]
  exact run_bind_of_error hpoll

/-- A poll before the least one behind call `n` comes before call `n`. -/
theorem lt_of_lt_isLeast {interval n m k : Nat} (hm : IsLeast {k | interval ∣ k ∧ n ≤ k} m)
    (hdvd : interval ∣ k) (hk : k < m) : k < n := by
  by_contra hnk
  exact Nat.not_lt.2 (hm.2 ⟨hdvd, Nat.not_lt.1 hnk⟩) hk

/-- If the token is cancelled in call `n`, a pass calls the predicate up to the next multiple of the
interval and is cancelled there. -/
theorem run_visitFrom_recording {interval n m : Nat} (hm : IsLeast {k | interval ∣ k ∧ n ≤ k} m)
    {items : List Symbol} (hlt : m < items.length) :
    (visitFrom interval (keepIf (recording answer (some n))) 0 items).run.run
        (s.calledOn (some n) []) =
      (.error .cancelled, s.calledOn (some n) (items.take m)) := by
  have htake : (items.take m).length = m := by
    rw [List.length_take, Nat.min_eq_left (Nat.le_of_lt hlt)]
  have hfirst : Returns (visitFrom interval (keepIf (recording answer (some n))) 0 (items.take m))
      (s.calledOn (some n) []) (acceptedAfter answer [] (items.take m))
      (s.calledOn (some n) (items.take m)) := by
    refine returns_visitFrom_recording [] (items.take m) ?_
    rintro k - hk hdvd _ ⟨⟩
    rw [List.length_nil, Nat.zero_add, htake] at hk
    exact lt_of_lt_isLeast hm hdvd hk
  have hcancelled : (s.calledOn (some n) (items.take m)).token = .cancelled := by
    rw [Session.calledOn, htake]
    exact tokenAfterCalls_cancelled hm.1.2
  have hrest : items.drop m ≠ [] := by
    rw [ne_eq, List.drop_eq_nil_iff]
    exact Nat.not_le.2 hlt
  rw [← List.take_append_drop m items, visitFrom_append, hfirst.run_bind, htake, Nat.zero_add,
    List.take_append_drop]
  exact run_bind_of_error (run_visitFrom_cancelled hcancelled hm.1.1 hrest)

end Calls

/-! ## Searches with a predicate -/

section Projects

variable (p : DocumentProject) (answer : List Symbol → Symbol → Bool) (filter : Filter)
  {s : Session (List Symbol)}

/-- A search begins its pass with the compiled symbols and without a call. -/
theorem calledOn_compileIn {cancelAt : Option Nat} (hlive : s.token = .live)
    (hcaller : s.caller = []) (hcancel : ∀ n ∈ cancelAt, 0 < n) :
    (p.compileIn s).2.calledOn cancelAt [] = (p.compileIn s).2 :=
  Session.calledOn_nil (p.compileIn_token.trans hlive) (p.compileIn_caller.trans hcaller) hcancel

/-- A search that is not polled behind the cancelling call calls the predicate on every declared
symbol and is not cancelled. -/
theorem returns_findWhere_recording {cancelAt : Option Nat} (hlive : s.token = .live)
    (hcaller : s.caller = []) (hcancel : ∀ n ∈ cancelAt, 0 < n)
    (hpolls : ∀ k < (p.compileIn s).1.source.declared.length, 256 ∣ k → ∀ n ∈ cancelAt, k < n) :
    Returns (findWhere p.toProject (recording answer cancelAt) filter) s
      (select (acceptedAfter answer [] (p.compileIn s).1.source.declared) filter)
      ((p.compileIn s).2.calledOn cancelAt (p.compileIn s).1.source.declared) := by
  have hvisit : Returns
      (visitFrom 256 (keepIf (recording answer cancelAt)) 0 (p.compileIn s).1.source.declared)
      ((p.compileIn s).2.calledOn cancelAt [])
      (acceptedAfter answer [] (p.compileIn s).1.source.declared)
      ((p.compileIn s).2.calledOn cancelAt (p.compileIn s).1.source.declared) :=
    returns_visitFrom_recording [] _ fun k _ hk => hpolls k (by simpa using hk)
  rw [calledOn_compileIn p hlive hcaller hcancel] at hvisit
  exact (DocumentProject.returns_compilation hlive).bind (hvisit.bind (returns_pure _))

/-- If a poll comes behind the cancelling call, the search ends there. -/
theorem run_findWhere_recording (hlive : s.token = .live) (hcaller : s.caller = []) {n m : Nat}
    (hn : 0 < n) (hm : IsLeast {k | 256 ∣ k ∧ n ≤ k} m)
    (hlt : m < (p.compileIn s).1.source.declared.length) :
    (findWhere p.toProject (recording answer (some n)) filter).run.run s =
      (.error .cancelled,
        (p.compileIn s).2.calledOn (some n) ((p.compileIn s).1.source.declared.take m)) := by
  have hvisit : (visitFrom 256 (keepIf (recording answer (some n))) 0
      (p.compileIn s).1.source.declared).run.run ((p.compileIn s).2.calledOn (some n) []) =
        (.error .cancelled,
          (p.compileIn s).2.calledOn (some n) ((p.compileIn s).1.source.declared.take m)) :=
    run_visitFrom_recording hm hlt
  rw [calledOn_compileIn p hlive hcaller (by simpa using hn)] at hvisit
  rw [findWhere, (DocumentProject.returns_compilation hlive).run_bind]
  exact run_bind_of_error hvisit

/-- **A search notices a cancellation by its predicate at the next multiple of 256.** Let the
predicate cancel the token in call `n`, and `m` be the least such multiple that is at least `n`. If
more than `m` symbols are declared, the search is cancelled when the predicate has been called on
the first `m` of them. Otherwise it has been called on all of them, and the search finds the same as
without the cancellation. -/
theorem findWhere_cancelled_at (hlive : s.token = .live) (hcaller : s.caller = []) {n m : Nat}
    (hn : 0 < n) (hm : IsLeast {k | 256 ∣ k ∧ n ≤ k} m) :
    let declared := (p.compileIn s).1.source.declared
    let found := select (acceptedAfter answer [] declared) filter
    (∃ s', Returns (findWhere p.toProject (recording answer none) filter) s found s' ∧
      s'.token = .live ∧ s'.caller = declared) ∧
    (m < declared.length →
      ∃ s', (findWhere p.toProject (recording answer (some n)) filter).run.run s =
        (.error .cancelled, s') ∧ s'.caller = declared.take m) ∧
    (declared.length ≤ m →
      ∃ s', Returns (findWhere p.toProject (recording answer (some n)) filter) s found s' ∧
        s'.caller = declared) := by
  intro declared found
  refine ⟨⟨_, returns_findWhere_recording p answer filter hlive hcaller (by simp) (by simp), rfl,
    rfl⟩, fun hlt => ?_, fun hle => ?_⟩
  · exact ⟨_, run_findWhere_recording p answer filter hlive hcaller hn hm hlt, rfl⟩
  · refine ⟨_, returns_findWhere_recording p answer filter hlive hcaller (by simpa using hn) ?_,
      rfl⟩
    rintro k hk hdvd _ ⟨⟩
    exact lt_of_lt_isLeast hm hdvd (Nat.lt_of_lt_of_le hk hle)

end Projects

/-- A project that declares one symbol more than a pass visits between two polls. -/
def fieldsProject : DocumentProject :=
  ⟨⟨0⟩, "Store", "Store",
    [⟨⟨"store.txt"⟩, List.replicate 257 ⟨"value", .field, 0, false, false, []⟩⟩], []⟩

/-- The predicate accepts every second symbol. If it cancels the token in its last call but one, the
search ends at the poll behind it, and if it cancels the token in its last call, the search is not
cancelled. -/
theorem findWhere_cancelled_at_fieldsProject :
    let s : Session (List Symbol) := ⟨.live, [], 0, .empty .default, ⟨[]⟩, ⟨0, 0⟩, []⟩
    let search := fun n : Nat => findWhere fieldsProject.toProject
      (recording (fun calls _ => calls.length % 2 == 0) (some n)) .onlyMembers
    let declared := (fieldsProject.compileIn s).1.source.declared
    (∃ s', (search 256).run.run s = (.error .cancelled, s') ∧ s'.caller = declared.take 256) ∧
      ∃ found s', Returns (search 257) s found s' ∧ s'.caller = declared := by
  intro s search declared
  have hlength : declared.length = 257 := by decide +kernel
  have hfirst : IsLeast {k | 256 ∣ k ∧ 256 ≤ k} 256 :=
    ⟨⟨Nat.dvd_refl 256, Nat.le_refl 256⟩, fun k hk => hk.2⟩
  have hsecond : IsLeast {k | 256 ∣ k ∧ 257 ≤ k} 512 := by
    refine ⟨⟨by decide, by decide⟩, ?_⟩
    rintro k ⟨⟨c, rfl⟩, hk⟩
    omega
  obtain ⟨-, hnoticed, -⟩ := findWhere_cancelled_at fieldsProject
    (fun calls _ => calls.length % 2 == 0) .onlyMembers (s := s) rfl rfl (by decide) hfirst
  obtain ⟨-, -, hunnoticed⟩ := findWhere_cancelled_at fieldsProject
    (fun calls _ => calls.length % 2 == 0) .onlyMembers (s := s) rfl rfl (by decide) hsecond
  exact ⟨hnoticed (by rw [hlength]; decide), _, hunnoticed (by rw [hlength]; decide)⟩

end SymbolSearch
