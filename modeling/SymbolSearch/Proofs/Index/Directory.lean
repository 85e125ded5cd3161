import SymbolSearch.Proofs.FileChanges
import SymbolSearch.Proofs.Index.Calls
import SymbolSearch.Proofs.Index.Saved

/-!
# Indexes in a directory

With a directory for stored indexes, a call for an index that is not in memory returns the stored
one if its file can be loaded, belongs to the reference and is not too old. Otherwise it builds an
index, if it may and can, and puts it into this file. `IndexCall.Serves` says all that a call does
with memory and files, and every live call does it, whatever the files hold
(`Session.serves_afterCalls`).

Storing an index changes plain files in two places only, that of the index and that of the file
which is written beside it (`Index.touches_save`). The files of other checksums are at other places
(`place?_ne_of_checksum_ne`).
-/

set_option autoImplicit false

namespace SymbolSearch

open Search

variable {κ : Type}

/-! ## Files of indexes -/

/-- The file in a directory for the index with a checksum. -/
def indexFile (directory : Path) (checksum : String) : Path := directory.join ⟨checksum ++ ".idx"⟩

/-- The file that is written beside it. -/
def besideFile (directory : Path) (checksum : String) : Path :=
  (indexFile directory checksum).withExtension "tmp"

theorem IndexStore.path?_eq {store : IndexStore} {directory : Path}
    (hdirectory : store.config.indexDirectory = some directory) (r : Reference) :
    store.path? r = some (indexFile directory r.checksum) := by
  rw [path?, hdirectory]
  rfl

theorem Reference.isFileName_checksum (r : Reference) {extension : String}
    (hextension : '/' ∉ extension.toList) :
    Path.IsFileName (r.checksum ++ "." ++ extension) := by
  rw [r.checksum_eq]
  exact Bytes.isFileName_checksum r.bytes hextension

theorem names_indexFile (directory : Path) (r : Reference) :
    (indexFile directory r.checksum).names = directory.names ++ [r.checksum ++ "." ++ "idx"] := by
  rw [← Path.names_join directory (r.isFileName_checksum (by decide)), String.append_assoc]
  rfl

theorem exists_names_besideFile (directory : Path) (r : Reference) :
    ∃ names, (besideFile directory r.checksum).names = names ++ [r.checksum ++ "." ++ "tmp"] := by
  have hnames := names_indexFile directory r
  have hidx : Path.IsFileName (r.checksum ++ "." ++ "idx") := r.isFileName_checksum (by decide)
  have htmp : Path.IsFileName (r.checksum ++ "." ++ "tmp") := r.isFileName_checksum (by decide)
  rw [r.checksum_eq] at hnames hidx htmp ⊢
  exact Path.exists_names_withExtension hnames hidx (Bytes.checksum_ne_empty r.bytes)
    (Bytes.checksum_ne_dot r.bytes) (by decide) htmp

/-- The index of another checksum is at another place than the two files. -/
theorem place?_ne_of_checksum_ne {files : Files} {directory : Path} {r r' : Reference}
    (h : r'.checksum ≠ r.checksum) {place : List String}
    (hplace : files.place? (indexFile directory r'.checksum) = some place) :
    ∀ path ∈ [indexFile directory r.checksum, besideFile directory r.checksum],
      files.place? path ≠ some place := by
  have hlast := Files.getLast?_of_place? (names_indexFile directory r')
    (r'.isFileName_checksum (by decide)) hplace
  intro path hpath hsame
  rw [List.mem_cons, List.mem_singleton] at hpath
  rcases hpath with rfl | rfl
  · have hlast' := Files.getLast?_of_place? (names_indexFile directory r)
      (r.isFileName_checksum (by decide)) hsame
    rw [hlast, Option.some.injEq, ← String.toList_inj] at hlast'
    simp only [String.toList_append, List.append_assoc] at hlast'
    exact h (String.toList_inj.1 (List.append_cancel_right hlast'))
  · obtain ⟨names, hnames⟩ := exists_names_besideFile directory r
    have hlast' := Files.getLast?_of_place? hnames (r.isFileName_checksum (by decide)) hsame
    rw [hlast, Option.some.injEq] at hlast'
    -- the names have different last characters
    have hcharacter := congrArg (fun name => name.toList.getLast?) hlast'
    simp at hcharacter

/-! ## Storing an index -/

/-- Saving an index changes plain files where its path leads and where the file beside it is. -/
theorem Index.touches_save (index : Index) (path : Path) :
    (index.save path).Touches [path, path.withExtension "tmp"] := by
  rw [save]
  apply (FileAction.touches_makeRoom path _).bind
  intro _
  apply (FileAction.touches_write (by simp) _).bind
  intro _
  exact FileAction.touches_rename (by simp) (by simp)

section Storing

variable {s : Session κ} {r : Reference} {directory : Path}

theorem Session.storing_eq_save (hdirectory : s.indexes.config.indexDirectory = some directory)
    (hstores : s.indexes.config.storesIndexes = true) (index : Index) :
    s.storing r index =
      ((index.save (indexFile directory r.checksum)).run.run s.files).2 := by
  rw [storing, IndexStore.path?_eq hdirectory, hstores]
  rfl

theorem Session.storing_eq_files (hstores : s.indexes.config.storesIndexes = false)
    (index : Index) : s.storing r index = s.files := by
  rw [storing, hstores]
  cases s.indexes.path? r with
  | none => rfl
  | some path => rfl

theorem Session.changesAt_storing (hdirectory : s.indexes.config.indexDirectory = some directory)
    (index : Index) :
    s.files.ChangesAt [indexFile directory r.checksum, besideFile directory r.checksum]
      (s.storing r index) := by
  cases hstores : s.indexes.config.storesIndexes with
  | false =>
      rw [storing_eq_files hstores]
      exact .refl _ _
  | true =>
      rw [storing_eq_save hdirectory hstores]
      exact index.touches_save _ s.files

end Storing

/-! ## What a call does -/

namespace IndexCall

/-- The file at the path holds an index that the call can use: it can be loaded, belongs to the
reference and is not too old. -/
def CanUse (call : IndexCall) (s : Session κ) (path : Path) (index : Index) : Prop :=
  Index.load s.files path = .ok index ∧ index.checksum = call.reference.checksum ∧
    Time.isFresh call.now index.builtAt s.indexes.config.maxAgeHours.toNat = true

/-- The call finds an index neither in memory nor in the directory. -/
def Misses (call : IndexCall) (s : Session κ) (directory : Path) : Prop :=
  s.indexes.find? call.reference.checksum = none ∧
    ∀ index, ¬ call.CanUse s (indexFile directory call.reference.checksum) index

/-- What a call that returns `found` does with the memory and the files of a session. -/
structure Serves (call : IndexCall) (s s' : Session κ) (directory : Path) (found : Option Index) :
    Prop where
  /-- An index in memory is returned. -/
  kept : ∀ index, s.indexes.find? call.reference.checksum = some index → found = some index
  /-- Without one, the stored index is returned if it can be used. -/
  loaded : s.indexes.find? call.reference.checksum = none → ∀ index,
    call.CanUse s (indexFile directory call.reference.checksum) index → found = some index
  /-- Otherwise there is none if it must not or cannot be built. -/
  nothing : call.Misses s directory →
    call.loadOnly = true ∨ (∃ e, call.reference.image = .error e) → found = none
  /-- Otherwise it is built. -/
  built : call.Misses s directory → call.loadOnly = false → ∀ image,
    call.reference.image = .ok image →
      found = some (.build image call.reference.checksum call.now)
  /-- What is built is stored and can be loaded, if the configuration says so, saving succeeds and
  the index fits its binary form. -/
  stored : call.Misses s directory → call.loadOnly = false →
    s.indexes.config.storesIndexes = true → ∀ image, call.reference.image = .ok image →
      let index := Index.build image call.reference.checksum call.now
      let path := indexFile directory call.reference.checksum
      (∃ files, (index.save path).Leaves s.files files) →
        (Declaration.preorderList image.declarations).length < 2 ^ 32 → index.HasSizedTexts →
          Time.readTimestamp call.now.timestamp = .ok call.now →
            Index.load s'.files path = .ok index
  /-- No file changes unless an index is built and stored. -/
  files_eq : s.indexes.config.storesIndexes = false ∨ call.loadOnly = true ∨
    ¬ call.Misses s directory → s'.files = s.files
  /-- No other plain file changes than those of the index and beside it. -/
  others : ∀ place, s'.files.place? (indexFile directory call.reference.checksum) ≠ some place →
    s'.files.place? (besideFile directory call.reference.checksum) ≠ some place →
      s'.files.bytesAt? place = s.files.bytesAt? place
  /-- The files of other checksums are at other places. -/
  elsewhere : ∀ r : Reference, r.checksum ≠ call.reference.checksum → ∀ place,
    s'.files.place? (indexFile directory r.checksum) = some place →
      s'.files.bytesAt? place = s.files.bytesAt? place
  /-- The files of other checksums are read as before if their directory was there. -/
  read_iff : ∀ r : Reference, r.checksum ≠ call.reference.checksum → ∀ place,
    s.files.place? (indexFile directory r.checksum) = some place → ∀ bytes,
      s'.files.read (indexFile directory r.checksum) = .ok bytes ↔
        s.files.read (indexFile directory r.checksum) = .ok bytes

variable {call : IndexCall} {s s' : Session κ} {directory : Path}

/-- An index can be used if the file holds it and it belongs to the call. -/
theorem usable?_eq_some_iff (hdirectory : s.indexes.config.indexDirectory = some directory)
    {index : Index} : (call.enter s).usable? call.reference = some index ↔
      call.CanUse s (indexFile directory call.reference.checksum) index := by
  have hpath := IndexStore.path?_eq hdirectory call.reference
  have hunfold : (call.enter s).usable? call.reference =
      s.indexes.stored? s.files call.reference call.now
        (indexFile directory call.reference.checksum) := by
    change (s.indexes.path? call.reference).bind _ = _
    rw [hpath]
    rfl
  rw [hunfold, IndexStore.stored?_eq_some_iff, IndexStore.accepts, Bool.and_eq_true,
    decide_eq_true_iff, CanUse]

theorem usable?_eq_none_iff (hdirectory : s.indexes.config.indexDirectory = some directory) :
    (call.enter s).usable? call.reference = none ↔
      ∀ index, ¬ call.CanUse s (indexFile directory call.reference.checksum) index := by
  rw [Option.eq_none_iff_forall_ne_some]
  simp only [Ne, usable?_eq_some_iff hdirectory]

/-- Only building an index changes files. -/
theorem Step.changesAt {answer : Except Error (Option Index)} (h : call.Step s answer s')
    (hdirectory : s.indexes.config.indexDirectory = some directory) :
    s.files.ChangesAt [indexFile directory call.reference.checksum,
      besideFile directory call.reference.checksum] s'.files := by
  cases h with
  | cancelled _ => exact .refl _ _
  | kept _ _ => exact .refl _ _
  | loaded _ _ _ => exact .refl _ _
  | nothing _ _ _ _ => exact .refl _ _
  | built _ _ _ _ => exact Session.changesAt_storing (s := call.enter s) hdirectory _

/-- No file changes unless an index is built and stored. -/
theorem Step.files_eq {answer : Except Error (Option Index)} (h : call.Step s answer s')
    (hdirectory : s.indexes.config.indexDirectory = some directory)
    (hkept : s.indexes.config.storesIndexes = false ∨ call.loadOnly = true ∨
      ¬ call.Misses s directory) : s'.files = s.files := by
  cases h with
  | cancelled _ => rfl
  | kept _ _ => rfl
  | loaded _ _ _ => rfl
  | nothing _ _ _ _ => rfl
  | built _ hfind husable hnew =>
      rcases hkept with hstores | hload | hfound
      · exact Session.storing_eq_files (s := call.enter s) hstores _
      · rw [newIndex?_of_loadOnly hload] at hnew
        cases hnew
      · exact absurd ⟨hfind, (usable?_eq_none_iff hdirectory).1 husable⟩ hfound

/-- A built index that was saved is loaded. -/
theorem load_storing (hdirectory : s.indexes.config.indexDirectory = some directory)
    (hstores : s.indexes.config.storesIndexes = true) {image : Image} {builtAt : Time.Instant}
    (hsave : ∃ files, ((Index.build image call.reference.checksum builtAt).save
      (indexFile directory call.reference.checksum)).Leaves s.files files)
    (hcount : (Declaration.preorderList image.declarations).length < 2 ^ 32)
    (htexts : (Index.build image call.reference.checksum builtAt).HasSizedTexts)
    (htime : Time.readTimestamp builtAt.timestamp = .ok builtAt) :
    Index.load (s.storing call.reference (.build image call.reference.checksum builtAt))
      (indexFile directory call.reference.checksum) =
        .ok (.build image call.reference.checksum builtAt) := by
  obtain ⟨files, hfiles⟩ := hsave
  have hstoring :
      s.storing call.reference (.build image call.reference.checksum builtAt) = files := by
    rw [Session.storing_eq_save hdirectory hstores]
    exact congrArg Prod.snd hfiles
  obtain ⟨-, hload⟩ := Index.load_of_leaves_save hfiles
  have hdecode := Index.decode_encode (Index.isEncodable_build hcount htexts)
    (Index.isSound_build image call.reference.checksum builtAt) rfl htime
    (indexFile directory call.reference.checksum) []
  rw [hstoring, hload, ← List.append_nil (Index.encode _)]
  exact hdecode

/-- A live call serves from memory, from the directory or by building. -/
theorem Step.serves {found : Option Index} (h : call.Step s (.ok found) s')
    (hdirectory : s.indexes.config.indexDirectory = some directory)
    (hlive : call.cancelled = false) : call.Serves s s' directory found := by
  -- whatever the call can do here, it has done
  have hdone : ∀ {index? : Option Index} {s'' : Session κ}, call.Step s (.ok index?) s'' →
      found = index? ∧ s' = s'' := by
    intro index? s'' hstep
    have hanswer := h.eq.1.symm.trans hstep.eq.1
    exact ⟨Except.ok.inj hanswer, h.eq.2.symm.trans hstep.eq.2⟩
  have hbuild : call.Misses s directory → call.loadOnly = false → ∀ image,
      call.reference.image = .ok image →
        found = some (.build image call.reference.checksum call.now) ∧
          s'.files = (call.enter s).storing call.reference
            (.build image call.reference.checksum call.now) := by
    intro hmisses hload image himage
    obtain ⟨hfound, hafter⟩ := hdone (.built hlive hmisses.1
      ((usable?_eq_none_iff hdirectory).2 hmisses.2)
      (newIndex?_eq_some_iff.2 ⟨hlive, hload, image, himage, rfl⟩))
    rw [hafter]
    exact ⟨hfound, rfl⟩
  have hchanges := h.changesAt hdirectory
  constructor
  case kept => exact fun index hfind => (hdone (.kept hlive hfind)).1
  case loaded =>
    intro hfind index hcan
    exact (hdone (.loaded hlive hfind ((usable?_eq_some_iff hdirectory).2 hcan))).1
  case nothing =>
    intro hmisses hcannot
    exact (hdone (.nothing hlive hmisses.1 ((usable?_eq_none_iff hdirectory).2 hmisses.2)
      ((newIndex?_eq_none_iff hlive).2 hcannot))).1
  case built =>
    intro hmisses hload image himage
    exact (hbuild hmisses hload image himage).1
  case stored =>
    intro hmisses hload hstores image himage index path hsave hcount htexts htime
    rw [(hbuild hmisses hload image himage).2]
    exact load_storing (s := call.enter s) hdirectory hstores hsave hcount htexts htime
  case files_eq => exact h.files_eq hdirectory
  case others =>
    intro place hindex hbeside
    apply hchanges.bytesAt?_eq
    intro path hpath
    rw [List.mem_cons, List.mem_singleton] at hpath
    rcases hpath with rfl | rfl
    · exact hindex
    · exact hbeside
  case elsewhere =>
    intro r hr place hplace
    exact hchanges.bytesAt?_eq place (place?_ne_of_checksum_ne hr hplace)
  case read_iff =>
    intro r hr place hplace
    have hplace' := Files.place?_of_keepsDirectories hchanges.directories hplace
    exact hchanges.read_iff hplace (place?_ne_of_checksum_ne hr hplace')

end IndexCall

/-- **With a directory, every live call serves from memory, from the directory or by building.** No
live call fails, and what it returns stays in memory and is returned by all later live calls for
the checksum, whatever the files hold. -/
theorem Session.serves_afterCalls {s : Session κ} {directory : Path}
    (hdirectory : s.indexes.config.indexDirectory = some directory) (before : List IndexCall)
    (call : IndexCall) (hlive : call.cancelled = false) :
    let t := s.afterCalls before
    ∃ found, call.answer t = .ok found ∧ call.Serves t (call.after t) directory found ∧
      ∀ index, found = some index → ∀ (later : List IndexCall) (next : IndexCall),
        next.cancelled = false → next.reference.checksum = call.reference.checksum →
          next.answer ((call.after t).afterCalls later) = .ok (some index) := by
  intro t
  have hconfig : t.indexes.config.indexDirectory = some directory := by
    rw [config_afterCalls]
    exact hdirectory
  have hstep := call.step t
  obtain ⟨found, hanswer⟩ := hstep.exists_ok hlive
  rw [hanswer] at hstep
  refine ⟨found, hanswer, hstep.serves hconfig hlive, ?_⟩
  rintro index rfl later next hnext hchecksum
  have hfind := find?_afterCalls hstep.find?_eq later
  rw [← hchecksum] at hfind
  exact (IndexCall.Step.kept hnext hfind).eq.1

/-- A session with a directory for indexes. The file for the first reference is corrupt, and there
is one for another reference. -/
def corruptSession : Session Unit where
  token := .live
  compiled := []
  nextCompilation := 0
  indexes := .empty (Config.default.withDirectory ⟨"cache"⟩)
  files := ⟨[(["cache"], .directory),
    (["cache", (netReference ⟨"net.dll"⟩).checksum ++ ".idx"], .file [1, 2, 3]),
    (["cache", (Reference.ofBytes ⟨"empty.dll"⟩ []).checksum ++ ".idx"], .file [7])]⟩
  now := ⟨0, 0⟩
  caller := ()

/-- The corrupt file is replaced: the index is built and can be loaded from there, and it is
returned for the same bytes under another path. The other file is read as before. -/
theorem serves_afterCalls_corruptSession :
    let call : IndexCall := ⟨netReference ⟨"net.dll"⟩, false, false, ⟨5, 0⟩⟩
    let again : IndexCall := ⟨netReference ⟨"lib/net.dll"⟩, true, false, ⟨6, 0⟩⟩
    call.answer corruptSession = .ok (some (netIndex ⟨5, 0⟩)) ∧
      Index.load (call.after corruptSession).files
        (indexFile ⟨"cache"⟩ (netReference ⟨"net.dll"⟩).checksum) = .ok (netIndex ⟨5, 0⟩) ∧
      (call.after corruptSession).files.read
        (indexFile ⟨"cache"⟩ (Reference.ofBytes ⟨"empty.dll"⟩ []).checksum) = .ok [7] ∧
      again.answer (call.after corruptSession) = .ok (some (netIndex ⟨5, 0⟩)) := by
  intro call again
  obtain ⟨found, hanswer, hserves, hlater⟩ := corruptSession.serves_afterCalls rfl [] call rfl
  simp only [Session.afterCalls_nil] at hanswer hserves hlater
  have hmisses : call.Misses corruptSession ⟨"cache"⟩ := by
    refine ⟨List.lookup_nil, fun index hcan => ?_⟩
    have hcorrupt : (Index.load corruptSession.files
        (indexFile ⟨"cache"⟩ (netReference ⟨"net.dll"⟩).checksum)).isOk = false := by
      decide +kernel
    rw [hcan.1] at hcorrupt
    cases hcorrupt
  have hsaves : ∃ files, ((netIndex ⟨5, 0⟩).save
      (indexFile ⟨"cache"⟩ (netReference ⟨"net.dll"⟩).checksum)).Leaves
        corruptSession.files files := by
    apply FileAction.exists_leaves_of_isOk
    decide +kernel
  have htexts : (netIndex ⟨5, 0⟩).HasSizedTexts :=
    ⟨by decide +kernel, by decide, by decide, by decide, by decide⟩
  have hfound : found = some (netIndex ⟨5, 0⟩) :=
    hserves.built hmisses rfl _ (image_netReference ⟨"net.dll"⟩)
  have hother := hserves.read_iff (Reference.ofBytes ⟨"empty.dll"⟩ []) (by decide +kernel)
    ["cache", (Reference.ofBytes ⟨"empty.dll"⟩ []).checksum ++ ".idx"] (by decide +kernel) [7]
  have htime : Time.readTimestamp (⟨5, 0⟩ : Time.Instant).timestamp = .ok ⟨5, 0⟩ := rfl
  have hload := hserves.stored hmisses rfl rfl _ (image_netReference ⟨"net.dll"⟩) hsaves (by decide)
    htexts htime
  have hchecksum : again.reference.checksum = call.reference.checksum := rfl
  subst hfound
  refine ⟨hanswer, hload, ?_, ?_⟩
  · exact hother.2 (by decide +kernel)
  · exact hlater _ rfl [] again rfl hchecksum

end SymbolSearch
