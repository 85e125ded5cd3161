import SymbolSearch.Index.Search
import SymbolSearch.Proofs.Files

/-!
# Obtaining indexes

An index is in memory, stored or built anew, as `Session.obtained` says (`completes_obtainIndex`).
Without a directory for stored indexes, what is in memory has been built from images of references
(`IndexStore.IsBuiltFrom`), and if no two of their images share a checksum (`ChecksumsTell`), the
index of a readable reference is an index of its own image (`returns_obtainIndex`).
-/

set_option autoImplicit false

namespace SymbolSearch

open Search

variable {κ : Type}

/-! ## What is in memory -/

/-- Every index in memory was built from the image of one of the references and is kept by its
checksum. -/
def IndexStore.IsBuiltFrom (store : IndexStore) (indexed : List Reference) : Prop :=
  ∀ entry ∈ store.indexes, ∃ r ∈ indexed, ∃ image builtAt, r.image = .ok image ∧
    entry = (r.checksum, Index.build image r.checksum builtAt)

/-- References that can be read and have the same checksum have the same bytes. -/
def ChecksumsTell (references : List Reference) : Prop :=
  ∀ r ∈ references, ∀ r' ∈ references, r.image.isOk = true → r'.image.isOk = true →
    r.checksum = r'.checksum → r.bytes = r'.bytes

namespace IndexStore

variable {store : IndexStore} {indexed : List Reference}

/-- What is found after an index has been kept in memory. -/
theorem find?_remember (store : IndexStore) (index : Index) (checksum : String) :
    (store.remember index).find? checksum =
      if checksum = index.checksum then some index else store.find? checksum :=
  lookup_cons_filter_ne index.checksum index store.indexes checksum

theorem isBuiltFrom_empty (config : Config) (indexed : List Reference) :
    (empty config).IsBuiltFrom indexed := by
  intro entry hentry
  exact absurd hentry List.not_mem_nil

theorem IsBuiltFrom.remember (h : store.IsBuiltFrom indexed) {r : Reference} {image : Image}
    (hr : r ∈ indexed) (himage : r.image = .ok image) (builtAt : Time.Instant) :
    (store.remember (Index.build image r.checksum builtAt)).IsBuiltFrom indexed := by
  intro entry hentry
  rcases List.mem_cons.1 hentry with rfl | hentry
  · exact ⟨r, hr, image, builtAt, himage, rfl⟩
  · exact h entry (List.mem_filter.1 hentry).1

theorem IsBuiltFrom.mono (h : store.IsBuiltFrom indexed) {more : List Reference}
    (hsub : indexed ⊆ more) : store.IsBuiltFrom more := by
  intro entry hentry
  obtain ⟨r, hr, hbuilt⟩ := h entry hentry
  exact ⟨r, hsub hr, hbuilt⟩

end IndexStore

/-- A context is added to errors only. -/
theorem inContext_eq_ok_iff {α : Type} {context : String} {result : Except Error α} {value : α} :
    inContext context result = .ok value ↔ result = .ok value := by
  cases result with
  | error e =>
      constructor
      · intro h
        cases h
      · intro h
        cases h
  | ok other => exact Iff.rfl

/-- The bytes of a reference determine its image. -/
theorem Reference.image_eq_of_bytes {r r' : Reference} {image image' : Image}
    (hbytes : r.bytes = r'.bytes) (himage : r.image = .ok image) (himage' : r'.image = .ok image') :
    image = image' := by
  rw [Reference.image, inContext_eq_ok_iff, hbytes] at himage
  rw [Reference.image, inContext_eq_ok_iff, himage, Except.ok.injEq] at himage'
  exact himage'

/-- What is found by a checksum is an index of the image with this checksum. -/
theorem IndexStore.IsBuiltFrom.eq_build {store : IndexStore} {indexed : List Reference}
    (h : store.IsBuiltFrom indexed) (htell : ChecksumsTell indexed) {r : Reference}
    (hr : r ∈ indexed) {image : Image} (himage : r.image = .ok image) {index : Index}
    (hfind : store.find? r.checksum = some index) :
    ∃ builtAt, index = Index.build image r.checksum builtAt := by
  have hmem : (r.checksum, index) ∈ store.indexes := by
    rw [find?, List.lookup_eq_some_iff] at hfind
    obtain ⟨before, after, heq, -⟩ := hfind
    rw [heq]
    simp
  obtain ⟨r', hr', image', builtAt, himage', heq⟩ := h _ hmem
  rw [Prod.mk.injEq] at heq
  obtain ⟨hchecksum, rfl⟩ := heq
  -- the image need not be that of the same reference, but it has the same bytes
  have hbytes := htell r hr r' hr' (by rw [himage]; rfl) (by rw [himage']; rfl) hchecksum
  rw [Reference.image_eq_of_bytes hbytes himage himage', hchecksum]
  exact ⟨builtAt, rfl⟩

/-! ## Obtaining one -/

/-- A step that may remember and store indexes keeps the token, the compilations and the
configuration. -/
structure Session.OnlyIndexesChange (s s' : Session κ) : Prop where
  token : s'.token = s.token
  compiled : s'.compiled = s.compiled
  config : s'.indexes.config = s.indexes.config

namespace Session.OnlyIndexesChange

variable {s s' s'' : Session κ}

theorem refl (s : Session κ) : s.OnlyIndexesChange s := ⟨rfl, rfl, rfl⟩

theorem trans (h : s.OnlyIndexesChange s') (h' : s'.OnlyIndexesChange s'') :
    s.OnlyIndexesChange s'' where
  token := h'.token.trans h.token
  compiled := h'.compiled.trans h.compiled
  config := h'.config.trans h.config

end Session.OnlyIndexesChange

variable {s : Session κ} {indexed : List Reference} {r : Reference} {image : Image}

/-- The stored index of the reference, if it can be used now. -/
def Session.usable? (s : Session κ) (r : Reference) : Option Index :=
  (s.indexes.path? r).bind (s.indexes.stored? s.files r s.now)

/-- The files after storing an index of the reference, if it is to be stored. Whatever storing it
has changed by then stays if it fails. -/
def Session.storing (s : Session κ) (r : Reference) (index : Index) : Files :=
  match s.indexes.path? r with
  | some path =>
      if s.indexes.config.storesIndexes then ((index.save path).run s.files).2 else s.files
  | none => s.files

/-- There is no file from which the index of the reference could be used now. -/
def Session.HasNoStored (s : Session κ) (r : Reference) : Prop :=
  ∀ path, s.indexes.path? r = some path → s.indexes.stored? s.files r s.now path = none

theorem Session.hasNoStored_of_directory (hdirectory : s.indexes.config.indexDirectory = none)
    (r : Reference) : s.HasNoStored r := by
  intro path hpath
  simp [IndexStore.path?, hdirectory] at hpath

theorem Session.HasNoStored.usable?_eq_none (h : s.HasNoStored r) : s.usable? r = none := by
  rw [usable?, Option.bind_eq_none_iff]
  exact h

/-- A stored index has been loaded from its file, belongs to the reference and is not too old. -/
theorem IndexStore.stored?_eq_some_iff {store : IndexStore} {files : Files} {now : Time.Instant}
    {path : Path} {index : Index} :
    store.stored? files r now path = some index ↔
      Index.load files path = .ok index ∧ store.accepts r now index = true := by
  unfold stored?
  cases Index.load files path with
  | error fault => simp
  | ok found =>
      simp only [Option.ite_none_right_eq_some, Option.some.injEq, Except.ok.injEq]
      constructor
      · rintro ⟨haccepts, rfl⟩
        exact ⟨rfl, haccepts⟩
      · rintro ⟨rfl, haccepts⟩
        exact ⟨haccepts, rfl⟩

/-- What is not there cannot be loaded. -/
theorem IndexStore.stored?_of_not_exists {store : IndexStore} {files : Files}
    {now : Time.Instant} {path : Path} (h : files.exists? path = false) :
    store.stored? files r now path = none := by
  rw [Option.eq_none_iff_forall_ne_some]
  intro index hstored
  obtain ⟨hload, -⟩ := stored?_eq_some_iff.1 hstored
  rw [Index.load] at hload
  cases hread : files.read path with
  | error fault =>
      rw [hread] at hload
      cases hload
  | ok bytes =>
      rw [Files.read, Files.bind_eq_ok_iff] at hread
      obtain ⟨entry, hfind, -⟩ := hread
      rw [Files.exists?, hfind] at h
      cases h

theorem completes_storedIndex (s : Session κ) (r : Reference) :
    Completes (storedIndex r) s (s.usable? r) s := by
  refine .get_bind (fun _ => rfl) ?_
  rw [Session.usable?]
  cases s.indexes.path? r with
  | none => exact completes_pure none
  | some path =>
      rw [Option.bind_some]
      cases hexists : s.files.exists? path with
      | false =>
          simp only [hexists, Bool.not_false, if_true, IndexStore.stored?_of_not_exists hexists]
          exact completes_pure none
      | true =>
          simp only [hexists, Bool.not_true, Bool.false_eq_true, if_false]
          exact completes_poll.bind (completes_poll.bind (completes_pure _))

/-- Building an index changes nothing but files. -/
theorem completes_buildIndex (s : Session κ) (himage : r.image = .ok image) :
    Completes (buildIndex r) s (some (Index.build image r.checksum s.now))
      { s with files := s.storing r (Index.build image r.checksum s.now) } := by
  refine completes_poll.bind (completes_poll.bind ?_)
  simp only [himage]
  refine .of_returns rfl fun t => ?_
  -- what is stored depends on the session, but not on its token
  change Returns _ (s.withToken t) (some (Index.build image r.checksum (s.withToken t).now))
    { s.withToken t with
      files := (s.withToken t).storing r (Index.build image r.checksum (s.withToken t).now) }
  generalize s.withToken t = s
  simp only [Session.storing]
  apply returns_get.bind
  cases s.indexes.path? r with
  | none => exact returns_pure _
  | some path =>
      cases s.indexes.config.storesIndexes with
      | false =>
          simp only [Bool.false_eq_true, if_false]
          exact returns_pure _
      | true =>
          simp only [if_true]
          exact returns_set.bind (returns_pure _)

/-- No index is built of an image that cannot be read. -/
theorem completes_buildIndex_unreadable (s : Session κ) {e : Error} (himage : r.image = .error e) :
    Completes (buildIndex r) s none s := by
  refine completes_poll.bind (completes_poll.bind ?_)
  simp only [himage]
  exact completes_pure none

theorem completes_rememberIndex (s : Session κ) (index : Index) :
    Completes (rememberIndex index) s ⟨⟩ { s with indexes := s.indexes.remember index } :=
  .of_returns rfl fun _ => returns_modify _

/-- The index of a reference and the session in which it has been obtained: the index in memory, or
the stored one, or a new one if it may and can be built. -/
def Session.obtained (s : Session κ) (r : Reference) (loadOnly : Bool) :
    Option Index × Session κ :=
  match s.indexes.find? r.checksum with
  | some index => (some index, s)
  | none =>
      match s.usable? r with
      | some index => (some index, { s with indexes := s.indexes.remember index })
      | none =>
          if loadOnly then (none, s)
          else
            match r.image with
            | .error _ => (none, s)
            | .ok image =>
                let index := Index.build image r.checksum s.now
                (some index,
                  { s with indexes := s.indexes.remember index, files := s.storing r index })

theorem completes_obtainIndex (s : Session κ) (r : Reference) (loadOnly : Bool) :
    Completes (obtainIndex r loadOnly) s (s.obtained r loadOnly).1 (s.obtained r loadOnly).2 := by
  refine completes_poll.bind (.get_bind (fun _ => rfl) ?_)
  unfold Session.obtained
  cases s.indexes.find? r.checksum with
  | some index => exact completes_pure _
  | none =>
      refine (completes_storedIndex s r).bind ?_
      cases s.usable? r with
      | some index => exact (completes_rememberIndex s index).bind (completes_pure _)
      | none =>
          cases loadOnly with
          | true => exact completes_pure none
          | false =>
              cases himage : r.image with
              | error e =>
                  exact (completes_buildIndex_unreadable s himage).bind (completes_pure none)
              | ok image =>
                  refine (completes_buildIndex s himage).bind ?_
                  exact (completes_rememberIndex _ _).bind (completes_pure _)

/-- An index in memory is used, whatever is stored. -/
theorem returns_obtainIndex_kept (hs : s.token = .live) {index : Index}
    (hfind : s.indexes.find? r.checksum = some index) (loadOnly : Bool) :
    Returns (obtainIndex r loadOnly) s (some index) s := by
  have hobtain := completes_obtainIndex s r loadOnly
  simp only [Session.obtained, hfind] at hobtain
  exact hobtain.returns hs hs

/-- A stored index is used and remembered if there is none in memory. -/
theorem returns_obtainIndex_loaded (hs : s.token = .live)
    (hmemory : s.indexes.find? r.checksum = none) {index : Index}
    (hstored : s.usable? r = some index) (loadOnly : Bool) :
    Returns (obtainIndex r loadOnly) s (some index)
      { s with indexes := s.indexes.remember index } := by
  have hobtain := completes_obtainIndex s r loadOnly
  simp only [Session.obtained, hmemory, hstored] at hobtain
  exact hobtain.returns hs hs

/-- Without an index in memory or in a file there is none if it must not or cannot be built. -/
theorem returns_obtainIndex_nothing (hs : s.token = .live)
    (hmemory : s.indexes.find? r.checksum = none) (hstored : s.usable? r = none) {loadOnly : Bool}
    (hunreadable : loadOnly = false → ∃ e, r.image = .error e) :
    Returns (obtainIndex r loadOnly) s none s := by
  have hobtain := completes_obtainIndex s r loadOnly
  cases loadOnly with
  | true =>
      simp only [Session.obtained, hmemory, hstored] at hobtain
      exact hobtain.returns hs hs
  | false =>
      obtain ⟨e, himage⟩ := hunreadable rfl
      simp only [Session.obtained, hmemory, hstored, himage] at hobtain
      exact hobtain.returns hs hs

/-- An index that is neither in memory nor stored is built and remembered. -/
theorem returns_obtainIndex_built (hs : s.token = .live)
    (hmemory : s.indexes.find? r.checksum = none) (hstored : s.usable? r = none)
    (himage : r.image = .ok image) :
    Returns (obtainIndex r false) s (some (Index.build image r.checksum s.now))
      { s with
        indexes := s.indexes.remember (Index.build image r.checksum s.now)
        files := s.storing r (Index.build image r.checksum s.now) } := by
  have hobtain := completes_obtainIndex s r false
  simp only [Session.obtained, hmemory, hstored, himage] at hobtain
  exact hobtain.returns hs hs

/-- An index that is neither in memory nor stored is built and remembered, and files may change. -/
theorem returns_obtainIndex_new (hs : s.token = .live) (hmemory : s.indexes.find? r.checksum = none)
    (hstored : s.HasNoStored r) (himage : r.image = .ok image) :
    ∃ files, Returns (obtainIndex r false) s (some (Index.build image r.checksum s.now))
      { s with
        indexes := s.indexes.remember (Index.build image r.checksum s.now)
        files := files } :=
  ⟨_, returns_obtainIndex_built hs hmemory hstored.usable?_eq_none himage⟩

/-- A readable reference has an index of its image, in memory or built now, and the indexes in
memory still come from the same references. -/
theorem returns_obtainIndex (hs : s.token = .live)
    (hdirectory : s.indexes.config.indexDirectory = none)
    (hbuilt : s.indexes.IsBuiltFrom indexed) (htell : ChecksumsTell indexed) (hr : r ∈ indexed)
    (himage : r.image = .ok image) :
    ∃ builtAt s', Returns (obtainIndex r false) s (some (Index.build image r.checksum builtAt)) s' ∧
      s.OnlyIndexesChange s' ∧ s'.indexes.IsBuiltFrom indexed := by
  cases hfind : s.indexes.find? r.checksum with
  | some index =>
      obtain ⟨builtAt, rfl⟩ := hbuilt.eq_build htell hr himage hfind
      exact ⟨builtAt, s, returns_obtainIndex_kept hs hfind false, .refl s, hbuilt⟩
  | none =>
      -- without a directory nothing is stored, so the index is built and remembered
      obtain ⟨files, hnew⟩ := returns_obtainIndex_new hs hfind
        (Session.hasNoStored_of_directory hdirectory r) himage
      exact ⟨s.now, _, hnew, ⟨rfl, rfl, rfl⟩, hbuilt.remember hr himage s.now⟩

end SymbolSearch
