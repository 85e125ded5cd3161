import Mathlib.Data.List.Dedup
import SymbolSearch.Proofs.Image
import SymbolSearch.Proofs.Index.Obtain

/-!
# Calls for indexes

Indexes of references are asked for in turn. Each call (`IndexCall`) has a token of its own, which
is live or cancelled, and is made at a time of its own. There are five things a call can do
(`IndexCall.Step`), and it does one of them (`IndexCall.step`): it is cancelled, uses what is in
memory, uses what is stored, finds nothing, or builds an index.

Without a directory for stored indexes, the memory after any calls holds, for each checksum, the
index of the first call that could build one (`IndexStore.KeepsFirst`,
`Session.memory_afterCalls`).
-/

set_option autoImplicit false

namespace SymbolSearch

open Search

variable {κ : Type}

/-- A call for the index of a reference. -/
structure IndexCall where
  reference : Reference
  /-- No index is built. -/
  loadOnly : Bool
  /-- The token of the call is cancelled. -/
  cancelled : Bool
  /-- The time of the call. -/
  now : Time.Instant

namespace IndexCall

/-- The session in which the call is made. -/
def enter (call : IndexCall) (s : Session κ) : Session κ :=
  { s with token := if call.cancelled then .cancelled else .live, now := call.now }

/-- What the call returns. -/
def answer (call : IndexCall) (s : Session κ) : Except Error (Option Index) :=
  ((obtainIndex call.reference call.loadOnly).run.run (call.enter s)).1

/-- The session after the call. -/
def after (call : IndexCall) (s : Session κ) : Session κ :=
  ((obtainIndex call.reference call.loadOnly).run.run (call.enter s)).2

/-- The index that the call builds if it is neither in memory nor stored. -/
def newIndex? (call : IndexCall) : Option Index :=
  if call.cancelled || call.loadOnly then none
  else
    match call.reference.image with
    | .ok image => some (Index.build image call.reference.checksum call.now)
    | .error _ => none

end IndexCall

/-- The session after one call after another. -/
def Session.afterCalls (s : Session κ) (calls : List IndexCall) : Session κ :=
  calls.foldl (fun s call => call.after s) s

namespace IndexCall

variable {call : IndexCall} {s s' : Session κ}

/-! ## One call -/

theorem newIndex?_eq_some_iff {index : Index} :
    call.newIndex? = some index ↔ call.cancelled = false ∧ call.loadOnly = false ∧
      ∃ image, call.reference.image = .ok image ∧
        index = .build image call.reference.checksum call.now := by
  rw [newIndex?]
  cases call.cancelled with
  | true => simp
  | false =>
      cases call.loadOnly with
      | true => simp
      | false =>
          cases call.reference.image with
          | error e => simp
          | ok image => simp [eq_comm]

theorem newIndex?_of_loadOnly (hload : call.loadOnly = true) : call.newIndex? = none := by
  rw [newIndex?, hload, Bool.or_true, if_pos rfl]

/-- A live call builds an index of a readable reference unless it must not. -/
theorem isSome_newIndex? (hlive : call.cancelled = false) (hload : call.loadOnly = false) :
    call.newIndex?.isSome = call.reference.image.isOk := by
  rw [newIndex?, hlive, hload]
  cases call.reference.image with
  | error e => rfl
  | ok image => rfl

/-- A call builds no index only if it must not or cannot. -/
theorem newIndex?_eq_none_iff (hlive : call.cancelled = false) :
    call.newIndex? = none ↔ call.loadOnly = true ∨ ∃ e, call.reference.image = .error e := by
  rw [newIndex?, hlive]
  cases call.loadOnly with
  | true => simp
  | false =>
      cases call.reference.image with
      | error e => simp
      | ok image => simp

/-- The index of a call is kept by the checksum of its reference. -/
theorem checksum_newIndex? {index : Index} (h : call.newIndex? = some index) :
    index.checksum = call.reference.checksum := by
  obtain ⟨-, -, image, -, rfl⟩ := newIndex?_eq_some_iff.1 h
  rfl

/-- What a call can do: what it returns and the session after it. -/
inductive Step (call : IndexCall) (s : Session κ) :
    Except Error (Option Index) → Session κ → Prop
  | cancelled (hcancelled : call.cancelled = true) : Step call s (.error .cancelled) (call.enter s)
  | kept {index : Index} (hlive : call.cancelled = false)
      (hfind : s.indexes.find? call.reference.checksum = some index) :
      Step call s (.ok (some index)) (call.enter s)
  | loaded {index : Index} (hlive : call.cancelled = false)
      (hfind : s.indexes.find? call.reference.checksum = none)
      (husable : (call.enter s).usable? call.reference = some index) :
      Step call s (.ok (some index))
        { call.enter s with indexes := s.indexes.remember index }
  | nothing (hlive : call.cancelled = false)
      (hfind : s.indexes.find? call.reference.checksum = none)
      (husable : (call.enter s).usable? call.reference = none) (hnew : call.newIndex? = none) :
      Step call s (.ok none) (call.enter s)
  | built {index : Index} (hlive : call.cancelled = false)
      (hfind : s.indexes.find? call.reference.checksum = none)
      (husable : (call.enter s).usable? call.reference = none)
      (hnew : call.newIndex? = some index) :
      Step call s (.ok (some index))
        { call.enter s with
          indexes := s.indexes.remember index
          files := (call.enter s).storing call.reference index }

theorem token_enter (hlive : call.cancelled = false) (s : Session κ) :
    (call.enter s).token = .live := by
  rw [enter, hlive]
  rfl

/-- What a call can do is what it does. -/
theorem Step.eq {answer : Except Error (Option Index)} (h : call.Step s answer s') :
    call.answer s = answer ∧ call.after s = s' := by
  have hreturns : ∀ {found : Option Index} {s' : Session κ},
      Returns (obtainIndex call.reference call.loadOnly) (call.enter s) found s' →
        call.answer s = .ok found ∧ call.after s = s' := by
    intro found s' h
    unfold Returns at h
    rw [IndexCall.answer, after, h]
    exact ⟨rfl, rfl⟩
  cases h with
  | cancelled hcancelled =>
      -- the first poll finds the token cancelled
      obtain ⟨r, loadOnly, cancelled, now⟩ := call
      obtain rfl : cancelled = true := hcancelled
      exact ⟨rfl, rfl⟩
  | kept hlive hfind => exact hreturns (returns_obtainIndex_kept (token_enter hlive s) hfind _)
  | loaded hlive hfind husable =>
      exact hreturns (returns_obtainIndex_loaded (token_enter hlive s) hfind husable _)
  | nothing hlive hfind husable hnew =>
      apply hreturns
      apply returns_obtainIndex_nothing (token_enter hlive s) hfind husable
      intro hload
      rcases (newIndex?_eq_none_iff hlive).1 hnew with hloadOnly | hunreadable
      · rw [hload] at hloadOnly
        cases hloadOnly
      · exact hunreadable
  | built hlive hfind husable hnew =>
      obtain ⟨-, hload, image, himage, rfl⟩ := newIndex?_eq_some_iff.1 hnew
      apply hreturns
      rw [hload]
      exact returns_obtainIndex_built (token_enter hlive s) hfind husable himage

/-- Every call does one of the things a call can do. -/
theorem step (call : IndexCall) (s : Session κ) : call.Step s (call.answer s) (call.after s) := by
  have hexists : ∃ answer s', call.Step s answer s' := by
    cases hlive : call.cancelled with
    | true => exact ⟨_, _, .cancelled hlive⟩
    | false =>
    -- the indexes in memory are looked up first, then the files, and then the image is read
    cases hfind : s.indexes.find? call.reference.checksum with
    | some index => exact ⟨_, _, .kept hlive hfind⟩
    | none =>
    cases husable : (call.enter s).usable? call.reference with
    | some index => exact ⟨_, _, .loaded hlive hfind husable⟩
    | none =>
    cases hnew : call.newIndex? with
    | some index => exact ⟨_, _, .built hlive hfind husable hnew⟩
    | none => exact ⟨_, _, .nothing hlive hfind husable hnew⟩
  obtain ⟨answer, s', hstep⟩ := hexists
  obtain ⟨hanswer, hafter⟩ := hstep.eq
  rw [hanswer, hafter]
  exact hstep

/-- A call changes no setting. -/
theorem Step.config_eq {answer : Except Error (Option Index)} (h : call.Step s answer s') :
    s'.indexes.config = s.indexes.config := by
  cases h <;> rfl

/-- A usable index is one of the reference. -/
theorem checksum_of_usable? {r : Reference} {index : Index} (h : s.usable? r = some index) :
    index.checksum = r.checksum := by
  rw [Session.usable?, Option.bind_eq_some_iff] at h
  obtain ⟨path, -, hstored⟩ := h
  obtain ⟨-, haccepts⟩ := IndexStore.stored?_eq_some_iff.1 hstored
  rw [IndexStore.accepts, Bool.and_eq_true, decide_eq_true_iff] at haccepts
  exact haccepts.1

/-- Without a directory nothing is stored. -/
theorem usable?_enter_of_directory (hdirectory : s.indexes.config.indexDirectory = none) :
    (call.enter s).usable? call.reference = none := by
  apply Session.HasNoStored.usable?_eq_none
  apply Session.hasNoStored_of_directory
  exact hdirectory

/-- A live call does not fail. -/
theorem Step.exists_ok {answer : Except Error (Option Index)} (h : call.Step s answer s')
    (hlive : call.cancelled = false) : ∃ found, answer = .ok found := by
  cases h with
  | cancelled hcancelled => exact absurd hcancelled (by simp [hlive])
  | kept _ _ => exact ⟨_, rfl⟩
  | loaded _ _ _ => exact ⟨_, rfl⟩
  | nothing _ _ _ _ => exact ⟨_, rfl⟩
  | built _ _ _ _ => exact ⟨_, rfl⟩

/-- If nothing is stored, a live call finds what is in memory or builds an index. -/
theorem Step.found_eq {found : Option Index} (h : call.Step s (.ok found) s')
    (husable : (call.enter s).usable? call.reference = none) :
    found = (s.indexes.find? call.reference.checksum).or call.newIndex? := by
  cases h with
  | kept _ hfind =>
      rw [hfind]
      rfl
  | loaded _ _ hstored =>
      rw [husable] at hstored
      cases hstored
  | nothing _ hfind _ hnew =>
      rw [hfind, hnew]
      rfl
  | built _ hfind _ hnew =>
      rw [hfind, hnew]
      rfl

/-- A cancelled call changes no index in memory. -/
theorem eq_of_cancelled (hcancelled : call.cancelled = true) (s : Session κ) :
    call.answer s = .error .cancelled ∧ (call.after s).indexes = s.indexes := by
  obtain ⟨hanswer, hafter⟩ := (Step.cancelled (s := s) hcancelled).eq
  rw [hafter]
  exact ⟨hanswer, rfl⟩

/-- If nothing is stored, a live call that builds no index returns what is in memory. -/
theorem eq_of_loadOnly (hlive : call.cancelled = false) (hload : call.loadOnly = true)
    (husable : (call.enter s).usable? call.reference = none) :
    call.answer s = .ok (s.indexes.find? call.reference.checksum) ∧
      (call.after s).indexes = s.indexes := by
  cases hfind : s.indexes.find? call.reference.checksum with
  | some index =>
      obtain ⟨hanswer, hafter⟩ := (Step.kept hlive hfind).eq
      rw [hafter]
      exact ⟨hanswer, rfl⟩
  | none =>
      obtain ⟨hanswer, hafter⟩ :=
        (Step.nothing hlive hfind husable (newIndex?_of_loadOnly hload)).eq
      rw [hafter]
      exact ⟨hanswer, rfl⟩

/-- An index stays in memory as it is. -/
theorem Step.find?_of_some {answer : Except Error (Option Index)} (h : call.Step s answer s')
    {checksum : String} {index : Index} (hfind : s.indexes.find? checksum = some index) :
    s'.indexes.find? checksum = some index := by
  -- an index is remembered only for a checksum for which there was none
  have hother : ∀ {new : Index}, new.checksum = call.reference.checksum →
      s.indexes.find? call.reference.checksum = none →
      (s.indexes.remember new).find? checksum = some index := by
    intro new hnew hnone
    have hne : checksum ≠ new.checksum := by
      rintro rfl
      rw [hnew, hnone] at hfind
      cases hfind
    rwa [IndexStore.find?_remember, if_neg hne]
  cases h with
  | cancelled hcancelled => exact hfind
  | kept hlive hkept => exact hfind
  | loaded hlive hnone husable => exact hother (checksum_of_usable? husable) hnone
  | nothing hlive hnone husable hnew => exact hfind
  | built hlive hnone husable hnew => exact hother (checksum_newIndex? hnew) hnone

/-- What a live call returns is in memory afterwards. -/
theorem Step.find?_eq {found : Option Index} (h : call.Step s (.ok found) s') :
    s'.indexes.find? call.reference.checksum = found := by
  cases h with
  | kept hlive hkept => exact hkept
  | loaded hlive hnone husable =>
      rw [IndexStore.find?_remember, if_pos (checksum_of_usable? husable).symm]
  | nothing hlive hnone husable hnew => exact hnone
  | built hlive hnone husable hnew =>
      rw [IndexStore.find?_remember, if_pos (checksum_newIndex? hnew).symm]

/-- If nothing is stored, a live call that may build an index returns what is in memory afterwards,
and this is an index if there was one or the reference can be read. -/
theorem exists_found (hlive : call.cancelled = false) (hload : call.loadOnly = false)
    (husable : (call.enter s).usable? call.reference = none) :
    ∃ found, call.answer s = .ok found ∧
      (call.after s).indexes.find? call.reference.checksum = found ∧
      (found.isSome = true ↔ (s.indexes.find? call.reference.checksum).isSome = true ∨
        call.reference.image.isOk = true) := by
  have hstep := call.step s
  obtain ⟨found, hanswer⟩ := hstep.exists_ok hlive
  rw [hanswer] at hstep
  refine ⟨found, hanswer, hstep.find?_eq, ?_⟩
  rw [hstep.found_eq husable, Option.isSome_or, Bool.or_eq_true, isSome_newIndex? hlive hload]

end IndexCall

namespace Session

variable {s : Session κ}

/-! ## Calls in turn -/

theorem afterCalls_nil (s : Session κ) : s.afterCalls [] = s := rfl

/-- What one call keeps, calls in turn keep. -/
theorem afterCalls_induction {motive : Session κ → Prop}
    (step : ∀ (call : IndexCall) (s : Session κ), motive s → motive (call.after s))
    (calls : List IndexCall) (h : motive s) : motive (s.afterCalls calls) := by
  induction calls generalizing s with
  | nil => exact h
  | cons call calls ih => exact ih (step call s h)

theorem config_afterCalls (s : Session κ) (calls : List IndexCall) :
    (s.afterCalls calls).indexes.config = s.indexes.config := by
  apply afterCalls_induction (motive := fun t => t.indexes.config = s.indexes.config) _ calls rfl
  intro call t ht
  rw [(call.step t).config_eq, ht]

/-- An index stays in memory as it is. -/
theorem find?_afterCalls {checksum : String} {index : Index}
    (hfind : s.indexes.find? checksum = some index) (calls : List IndexCall) :
    (s.afterCalls calls).indexes.find? checksum = some index :=
  afterCalls_induction (motive := fun t => t.indexes.find? checksum = some index)
    (fun call t ht => (call.step t).find?_of_some ht) calls hfind

end Session

/-! ## What is in memory -/

/-- What is in memory are the first indexes of those in a list, one for each checksum. -/
structure IndexStore.KeepsFirst (store : IndexStore) (built : List Index) : Prop where
  nodup : (store.indexes.map Prod.fst).Nodup
  find?_eq : ∀ checksum, store.find? checksum = built.find? fun index => index.checksum = checksum

/-- What is found for a checksum has it. -/
theorem IndexStore.checksum_of_find?_eq_some {built : List Index} {checksum : String}
    {index : Index}
    (h : built.find? (fun index => index.checksum = checksum) = some index) :
    index.checksum = checksum := by
  have hfound := List.find?_some h
  exact of_decide_eq_true hfound

namespace IndexStore.KeepsFirst

variable {store : IndexStore} {built : List Index}

theorem empty (config : Config) : (IndexStore.empty config).KeepsFirst [] :=
  ⟨List.nodup_nil, fun _ => rfl⟩

theorem mem_iff (h : store.KeepsFirst built) {checksum : String} {index : Index} :
    (checksum, index) ∈ store.indexes ↔
      built.find? (fun index => index.checksum = checksum) = some index := by
  rw [← h.find?_eq, find?, lookup_eq_some_iff_mem h.nodup]

/-- There are as many indexes in memory as checksums. -/
theorem size_eq (h : store.KeepsFirst built) :
    store.size = (built.map Index.checksum).dedup.length := by
  rw [size, ← List.length_map Prod.fst]
  apply List.Perm.length_eq
  rw [List.perm_ext_iff_of_nodup h.nodup (List.nodup_dedup _)]
  intro checksum
  rw [List.mem_dedup]
  constructor
  · intro hkey
    obtain ⟨⟨key, index⟩, hmem, rfl⟩ := List.mem_map.1 hkey
    have hfirst := h.mem_iff.1 hmem
    rw [← checksum_of_find?_eq_some hfirst]
    exact List.mem_map_of_mem (List.mem_of_find?_eq_some hfirst)
  · intro hchecksum
    obtain ⟨index, hmem, rfl⟩ := List.mem_map.1 hchecksum
    have hsome : (built.find? fun other => other.checksum = index.checksum).isSome = true :=
      List.find?_isSome.2 ⟨index, hmem, decide_eq_true rfl⟩
    obtain ⟨first, hfirst⟩ := Option.isSome_iff_exists.1 hsome
    exact List.mem_map_of_mem (h.mem_iff.2 hfirst)

/-- An index for a checksum that is in memory changes nothing. -/
theorem append_of_some (h : store.KeepsFirst built) {new : Index}
    (hkept : (store.find? new.checksum).isSome = true) : store.KeepsFirst (built ++ [new]) := by
  refine ⟨h.nodup, fun checksum => ?_⟩
  rw [List.find?_append, ← h.find?_eq]
  by_cases hnew : new.checksum = checksum
  · subst hnew
    obtain ⟨index, hindex⟩ := Option.isSome_iff_exists.1 hkept
    rw [hindex]
    rfl
  · rw [List.find?_cons_of_neg (by simpa using hnew), List.find?_nil, Option.or_none]

/-- An index for another checksum is remembered. -/
theorem remember (h : store.KeepsFirst built) {new : Index}
    (hnone : store.find? new.checksum = none) :
    (store.remember new).KeepsFirst (built ++ [new]) := by
  constructor
  · have hsublist :
        ((store.indexes.filter fun entry => entry.1 ≠ new.checksum).map Prod.fst).Sublist
          (store.indexes.map Prod.fst) := List.Sublist.map _ List.filter_sublist
    refine List.nodup_cons.2 ⟨fun hmem => ?_, h.nodup.sublist hsublist⟩
    obtain ⟨entry, hentry, heq⟩ := List.mem_map.1 hmem
    exact of_decide_eq_true (List.mem_filter.1 hentry).2 heq
  · intro checksum
    rw [find?_remember, List.find?_append, ← h.find?_eq]
    by_cases hnew : checksum = new.checksum
    · subst hnew
      rw [if_pos rfl, hnone, Option.none_or, List.find?_cons_of_pos (by simp)]
    · rw [if_neg hnew, List.find?_cons_of_neg (by simpa using Ne.symm hnew), List.find?_nil,
        Option.or_none]

/-- A call remembers the index that it builds if it is the first one for its checksum. -/
theorem step {call : IndexCall} {s s' : Session κ} {answer : Except Error (Option Index)}
    (hdirectory : s.indexes.config.indexDirectory = none) (h : s.indexes.KeepsFirst built)
    (hstep : call.Step s answer s') :
    s'.indexes.KeepsFirst (built ++ call.newIndex?.toList) := by
  cases hstep with
  | cancelled hcancelled =>
      rw [IndexCall.newIndex?, hcancelled, Bool.true_or, if_pos rfl, Option.toList_none,
        List.append_nil]
      exact h
  | kept hlive hfind =>
      cases hnew : call.newIndex? with
      | none =>
          rw [Option.toList_none, List.append_nil]
          exact h
      | some new =>
          apply h.append_of_some
          rw [IndexCall.checksum_newIndex? hnew, hfind]
          rfl
  | loaded hlive hfind husable =>
      -- without a directory nothing is stored
      rw [IndexCall.usable?_enter_of_directory hdirectory] at husable
      cases husable
  | nothing hlive hfind husable hnew =>
      rw [hnew, Option.toList_none, List.append_nil]
      exact h
  | built hlive hfind husable hnew =>
      rw [hnew]
      apply h.remember
      rw [IndexCall.checksum_newIndex? hnew]
      exact hfind

/-- Calls in turn remember the first indexes that they build. -/
theorem afterCalls {s : Session κ} (hdirectory : s.indexes.config.indexDirectory = none)
    (h : s.indexes.KeepsFirst built) (calls : List IndexCall) :
    (s.afterCalls calls).indexes.KeepsFirst (built ++ calls.filterMap IndexCall.newIndex?) := by
  induction calls generalizing s built with
  | nil =>
      rw [List.filterMap_nil, List.append_nil]
      exact h
  | cons call calls ih =>
      have hstep := call.step s
      have hrest := ih (by rw [hstep.config_eq]; exact hdirectory) (step hdirectory h hstep)
      have hcons : (call :: calls).filterMap IndexCall.newIndex? =
          call.newIndex?.toList ++ calls.filterMap IndexCall.newIndex? := by
        cases hnew : call.newIndex? <;> simp [hnew]
      rw [hcons, ← List.append_assoc]
      exact hrest

end IndexStore.KeepsFirst

/-- **Without a directory, calls in turn keep the first index that is built for each checksum.** The
index in memory for a checksum is that of the first call with this checksum that is live, may build
one and has a readable reference, and it stays there. A cancelled call changes nothing. A live call
returns what is in memory for its checksum, after building an index if there is none and it may. -/
theorem Session.memory_afterCalls {s : Session κ} {config : Config}
    (hdirectory : config.indexDirectory = none) (hempty : s.indexes = .empty config)
    (calls : List IndexCall) :
    let t := s.afterCalls calls
    let built := calls.filterMap IndexCall.newIndex?
    (∀ checksum, t.indexes.find? checksum = built.find? fun index => index.checksum = checksum) ∧
    (∀ entry ∈ t.indexes.indexes, entry.1 = entry.2.checksum ∧
      built.find? (fun index => index.checksum = entry.1) = some entry.2) ∧
    t.indexes.size = (built.map Index.checksum).dedup.length ∧
    (∀ call : IndexCall, call.cancelled = true →
      call.answer t = .error .cancelled ∧ (call.after t).indexes = t.indexes) ∧
    (∀ call : IndexCall, call.cancelled = false → call.loadOnly = true →
      call.answer t = .ok (t.indexes.find? call.reference.checksum) ∧
        (call.after t).indexes = t.indexes) ∧
    (∀ call : IndexCall, call.cancelled = false → call.loadOnly = false →
      ∃ found, call.answer t = .ok found ∧
        (call.after t).indexes.find? call.reference.checksum = found ∧
        (found.isSome = true ↔ (t.indexes.find? call.reference.checksum).isSome = true ∨
          call.reference.image.isOk = true)) ∧
    ∀ checksum index, t.indexes.find? checksum = some index →
      ∀ later, (t.afterCalls later).indexes.find? checksum = some index := by
  intro t built
  have hnone : s.indexes.config.indexDirectory = none := by rw [hempty]; exact hdirectory
  have hfirst : t.indexes.KeepsFirst built := by
    have hstart : s.indexes.KeepsFirst [] := by
      rw [hempty]
      exact .empty config
    exact hstart.afterCalls hnone calls
  have hstored : ∀ call : IndexCall, (call.enter t).usable? call.reference = none := by
    intro call
    apply IndexCall.usable?_enter_of_directory
    rw [config_afterCalls]
    exact hnone
  refine ⟨hfirst.find?_eq, ?_, hfirst.size_eq, ?_, ?_, ?_, ?_⟩
  · rintro ⟨checksum, index⟩ hmem
    have hfind := hfirst.mem_iff.1 hmem
    exact ⟨(IndexStore.checksum_of_find?_eq_some hfind).symm, hfind⟩
  · intro call hcancelled
    exact call.eq_of_cancelled hcancelled t
  · intro call hlive hload
    exact call.eq_of_loadOnly hlive hload (hstored call)
  · intro call hlive hload
    exact call.exists_found hlive hload (hstored call)
  · intro checksum index hfind later
    exact find?_afterCalls hfind later

/-- A reference at a path that declares a class. -/
def netReference (path : Path) : Reference :=
  .ofDeclarations path "Net" [⟨"Client", .classType, 0, false, false, []⟩]

/-- Its index, built at a time. -/
def netIndex (builtAt : Time.Instant) : Index :=
  .build (.new "Net" [⟨"Client", .classType, 0, false, false, []⟩])
    (netReference ⟨"net.dll"⟩).checksum builtAt

/-- The checksum is that of the bytes, wherever they are. -/
theorem checksum_netIndex (builtAt : Time.Instant) (path : Path) :
    (netIndex builtAt).checksum = (netReference path).checksum := rfl

/-- A cancelled call, one that builds nothing, one for what cannot be read, and two that build an
index of the same bytes. -/
def netCalls : List IndexCall :=
  [⟨netReference ⟨"net.dll"⟩, false, true, ⟨1, 0⟩⟩, ⟨netReference ⟨"net.dll"⟩, true, false, ⟨2, 0⟩⟩,
    ⟨.ofBytes ⟨"broken.dll"⟩ [0x42], false, false, ⟨3, 0⟩⟩,
    ⟨netReference ⟨"net.dll"⟩, false, false, ⟨4, 0⟩⟩,
    ⟨netReference ⟨"lib/net.dll"⟩, false, false, ⟨5, 0⟩⟩]

theorem image_netReference (path : Path) : (netReference path).image =
    .ok (.new "Net" [⟨"Client", .classType, 0, false, false, []⟩]) :=
  Reference.image_ofDeclarations path (by decide)

theorem newIndexes_netCalls :
    netCalls.filterMap IndexCall.newIndex? = [netIndex ⟨4, 0⟩, netIndex ⟨5, 0⟩] := by
  have hbroken : ∃ e, (Reference.ofBytes ⟨"broken.dll"⟩ [0x42]).image = .error e := ⟨_, rfl⟩
  obtain ⟨e, hbroken⟩ := hbroken
  simp only [netCalls, IndexCall.newIndex?, List.filterMap_cons, List.filterMap_nil,
    image_netReference, hbroken, Bool.or_true, Bool.true_or, Bool.or_self, Bool.false_eq_true,
    if_true, if_false]
  rfl

/-- One index is in memory, and a call for the same bytes under another path returns it. -/
theorem memory_afterCalls_netCalls :
    let t := Session.initial.afterCalls netCalls
    t.indexes.size = 1 ∧
      IndexCall.answer ⟨netReference ⟨"net.dll"⟩, false, true, ⟨6, 0⟩⟩ t = .error .cancelled ∧
      IndexCall.answer ⟨netReference ⟨"bin/net.dll"⟩, true, false, ⟨7, 0⟩⟩ t =
        .ok (some (netIndex ⟨4, 0⟩)) := by
  intro t
  obtain ⟨hfind, -, hsize, hcancelled, hload, -, -⟩ :=
    Session.memory_afterCalls (s := Session.initial) rfl rfl netCalls
  rw [newIndexes_netCalls] at hfind hsize
  refine ⟨hsize.trans ?_, (hcancelled _ rfl).1, (hload _ rfl rfl).1.trans ?_⟩
  · rw [List.map_cons, List.map_singleton, checksum_netIndex _ ⟨"net.dll"⟩,
      checksum_netIndex _ ⟨"net.dll"⟩, List.dedup_cons_of_mem List.mem_cons_self]
    rfl
  · have hchecksum := checksum_netIndex ⟨4, 0⟩ ⟨"bin/net.dll"⟩
    rw [hfind, List.find?_cons_of_pos (by simpa using hchecksum)]

end SymbolSearch
