import SymbolSearch.Proofs.Files
import SymbolSearch.Proofs.Path

/-!
# What an action leaves alone

An action that makes directories, writes and moves files leaves all directories in place and
changes plain files only where certain paths lead (`FileAction.Touches`). This holds whether or not
the action succeeds, since what it has changed before a fault stays changed. Actions in turn touch
what each of them touches, so the paths are read off the steps. All other files are read as before
(`Files.ChangesAt.read_iff`).
-/

set_option autoImplicit false

namespace SymbolSearch

namespace Files

variable {files files' files'' : Files} {path : Path} {paths : List Path}

/-- The place that a path leads to. There need not be anything, but there may be a file. -/
def place? (files : Files) (path : Path) : Option (List String) :=
  match files.locate path with
  | .ok ⟨directory, some name⟩ => some (directory ++ [name])
  | _ => none

/-- The bytes of the plain file at a place. -/
def bytesAt? (files : Files) (place : List String) : Option (List UInt8) :=
  match files.entry? place with
  | some (.file bytes) => some bytes
  | _ => none

theorem place?_of_locate {directory : List String} {name : String}
    (h : files.locate path = .ok ⟨directory, some name⟩) :
    files.place? path = some (directory ++ [name]) := by
  rw [place?, h]

theorem place?_eq_some_iff {place : List String} :
    files.place? path = some place ↔
      ∃ directory name, files.locate path = .ok ⟨directory, some name⟩ ∧
        place = directory ++ [name] := by
  constructor
  · intro h
    rw [place?] at h
    split at h
    · next directory name hlocate => exact ⟨directory, name, hlocate, (Option.some.inj h).symm⟩
    · cases h
  · rintro ⟨directory, name, hlocate, rfl⟩
    exact place?_of_locate hlocate

/-- A path leads to the same place as long as directories stay. -/
theorem place?_of_keepsDirectories {place : List String} (h : files.KeepsDirectories files')
    (hplace : files.place? path = some place) : files'.place? path = some place := by
  obtain ⟨directory, name, hlocate, rfl⟩ := place?_eq_some_iff.1 hplace
  exact place?_of_locate (locate_eq_ok h hlocate)

/-- A path that ends in the name of a file leads to this name. -/
theorem follow_concat_eq_ok {directory names : List String} {name : String} {goal : Goal}
    (hname : Path.IsFileName name) (h : files.follow directory (names ++ [name]) = .ok goal) :
    goal.name = some name := by
  induction names generalizing directory with
  | nil =>
      rw [List.nil_append, follow, if_neg hname.ne_dot, if_neg hname.ne_dots] at h
      rw [← Except.ok.inj h]
  | cons first names ih =>
      rw [List.cons_append, follow.eq_3 _ _ _ _ (by simp)] at h
      cases henter : files.enter directory first with
      | error fault =>
          rw [henter] at h
          cases h
      | ok next =>
          rw [henter] at h
          exact ih h

theorem getLast?_of_place? {place names : List String} {name : String}
    (hnames : path.names = names ++ [name]) (hname : Path.IsFileName name)
    (hplace : files.place? path = some place) : place.getLast? = some name := by
  obtain ⟨directory, last, hlocate, rfl⟩ := place?_eq_some_iff.1 hplace
  rw [locate] at hlocate
  split at hlocate
  · cases hlocate
  split at hlocate
  · cases hlocate
  split at hlocate
  · cases hlocate
  rw [hnames] at hlocate
  have hlast := follow_concat_eq_ok hname hlocate
  rw [List.getLast?_concat, ← hlast]

theorem bytesAt?_eq_some_iff {place : List String} {bytes : List UInt8} :
    files.bytesAt? place = some bytes ↔ files.entry? place = some (.file bytes) := by
  rw [bytesAt?]
  split
  · next found hentry => rw [hentry]; simp
  · next hother =>
      constructor
      · intro hnone
        cases hnone
      · intro hentry
        exact absurd hentry (hother bytes)

theorem LeadsTo.place?_eq {directory : List String} {name : String}
    (h : files.LeadsTo path directory name) : files.place? path = some (directory ++ [name]) :=
  place?_of_locate h.locate

/-- What can be read can be read wherever the path leads to the same place with the same bytes. -/
theorem read_of_place?_eq {bytes : List UInt8} (hread : files.read path = .ok bytes)
    (hplace : files'.place? path = files.place? path)
    (hbytes : ∀ place, files.place? path = some place →
      files'.bytesAt? place = files.bytesAt? place) : files'.read path = .ok bytes := by
  obtain ⟨directory, name, hleads, hentry⟩ := read_eq_ok_iff.1 hread
  rw [hleads.place?_eq] at hplace
  obtain ⟨directory', name', hlocate, hsame⟩ := place?_eq_some_iff.1 hplace
  obtain ⟨rfl, hname⟩ := List.append_inj' hsame rfl
  obtain rfl := List.singleton_inj.1 hname
  refine read_eq_ok_iff.2 ⟨directory, name, ⟨hlocate, hleads.short, hleads.noSlash⟩, ?_⟩
  rw [← bytesAt?_eq_some_iff, hbytes _ hleads.place?_eq, bytesAt?_eq_some_iff]
  exact hentry

/-- Directories stay, and plain files change only where one of the paths leads in the end. -/
structure ChangesAt (paths : List Path) (files files' : Files) : Prop where
  directories : files.KeepsDirectories files'
  bytesAt?_eq : ∀ place, (∀ path ∈ paths, files'.place? path ≠ some place) →
    files'.bytesAt? place = files.bytesAt? place

namespace ChangesAt

theorem refl (paths : List Path) (files : Files) : ChangesAt paths files files :=
  ⟨fun _ h => h, fun _ _ => rfl⟩

theorem trans (h : ChangesAt paths files files') (h' : ChangesAt paths files' files'') :
    ChangesAt paths files files'' := by
  refine ⟨fun place hplace => h'.directories place (h.directories place hplace), ?_⟩
  intro place hother
  rw [h'.bytesAt?_eq place hother]
  apply h.bytesAt?_eq
  -- where a path leads before the second change it leads afterwards
  intro path hpath hplace
  exact hother path hpath (place?_of_keepsDirectories h'.directories hplace)

/-- Another file is read as before if the path led to its place. -/
theorem read_iff (h : ChangesAt paths files files') {place : List String}
    (hplace : files.place? path = some place)
    (hother : ∀ changed ∈ paths, files'.place? changed ≠ some place) (bytes : List UInt8) :
    files'.read path = .ok bytes ↔ files.read path = .ok bytes := by
  have hplace' := place?_of_keepsDirectories h.directories hplace
  have hbytes := h.bytesAt?_eq place hother
  have hsame : files'.place? path = files.place? path := hplace'.trans hplace.symm
  constructor
  · intro hread
    apply read_of_place?_eq hread hsame.symm
    intro q hq
    rw [hplace', Option.some.injEq] at hq
    rw [← hq, hbytes]
  · intro hread
    apply read_of_place?_eq hread hsame
    intro q hq
    rw [hplace, Option.some.injEq] at hq
    rw [← hq, hbytes]

end ChangesAt

theorem bytesAt?_congr {place : List String} (h : files'.entry? place = files.entry? place) :
    files'.bytesAt? place = files.bytesAt? place := by
  rw [bytesAt?, bytesAt?, h]

/-- A plain file is put where one of the paths leads. -/
theorem changesAt_put {place : List String} {bytes : List UInt8} (hmem : path ∈ paths)
    (hpath : files.place? path = some place) (hne : place ≠ [])
    (hplain : files.entry? place ≠ some .directory) :
    ChangesAt paths files (files.put place (.file bytes)) := by
  have hkeeps := (sameDirectories_put hne bytes hplain).keeps
  refine ⟨hkeeps, fun q hother => bytesAt?_congr ?_⟩
  have hq : q ≠ place := by
    rintro rfl
    exact hother path hmem (place?_of_keepsDirectories hkeeps hpath)
  rw [entry?_put hne, if_neg hq]

/-- A plain file is removed from where one of the paths leads. -/
theorem changesAt_erase {place : List String} (hmem : path ∈ paths)
    (hpath : files.place? path = some place) (hne : place ≠ [])
    (hplain : files.entry? place ≠ some .directory) :
    ChangesAt paths files (files.erase place) := by
  have hkeeps := (sameDirectories_erase hne hplain).keeps
  refine ⟨hkeeps, fun q hother => bytesAt?_congr ?_⟩
  have hq : q ≠ place := by
    rintro rfl
    exact hother path hmem (place?_of_keepsDirectories hkeeps hpath)
  rw [entry?_erase hne, if_neg hq]

/-! ## Single changes -/

/-- A directory is made where there was nothing. -/
theorem withDirectory_eq_ok (h : files.withDirectory path = .ok files') :
    ∃ directory name, files.entry? (directory ++ [name]) = none ∧
      files' = files.put (directory ++ [name]) .directory := by
  rw [withDirectory, bind_eq_ok_iff] at h
  obtain ⟨⟨directory, name?⟩, -, h⟩ := h
  match name?, h with
  | some name, h =>
      simp only [bind_eq_ok_iff] at h
      obtain ⟨entry, hlook, h⟩ := h
      match entry, h with
      | none, h => exact ⟨directory, name, (lookUp_eq_ok_iff.1 hlook).2, (Except.ok.inj h).symm⟩

/-- A new directory changes no plain file. -/
theorem changesAt_withDirectory (h : files.withDirectory path = .ok files') :
    ChangesAt paths files files' := by
  obtain ⟨directory, name, hentry, rfl⟩ := withDirectory_eq_ok h
  have hne : directory ++ [name] ≠ [] := by simp
  constructor
  · intro q hq
    rw [entry?_put hne]
    split
    · rfl
    · exact hq
  · intro q _
    by_cases hq : q = directory ++ [name]
    · rw [bytesAt?, bytesAt?, entry?_put hne, if_pos hq, hq, hentry]
    · exact bytesAt?_congr (by rw [entry?_put hne, if_neg hq])

/-- Writing changes a plain file where the path leads. -/
theorem changesAt_written {bytes : List UInt8} (hmem : path ∈ paths)
    (h : files.written path bytes = .ok files') : ChangesAt paths files files' := by
  obtain ⟨directory, name, hleads, hplain, rfl⟩ := written_eq_ok h
  exact changesAt_put hmem (place?_of_locate hleads.locate) (by simp) hplain

/-- Moving changes plain files where both paths lead. -/
theorem changesAt_renamed {source target : Path} (hsource : source ∈ paths)
    (htarget : target ∈ paths) (h : files.renamed source target = .ok files') :
    ChangesAt paths files files' := by
  obtain ⟨directory, name, directory', name', bytes, hlocate, hentry, hleads, hplain, rfl⟩ :=
    renamed_eq_ok h
  have hfile : files.entry? (directory ++ [name]) ≠ some .directory := by
    rw [hentry]
    simp
  have herase : ChangesAt paths files (files.erase (directory ++ [name])) :=
    changesAt_erase hsource (place?_of_locate hlocate) (by simp) hfile
  apply herase.trans
  have htarget' := place?_of_keepsDirectories herase.directories (place?_of_locate hleads.locate)
  apply changesAt_put htarget htarget' (by simp)
  intro hdirectory
  exact hplain ((sameDirectories_erase (by simp) hfile _).2 hdirectory)

end Files

/-! ## Actions -/

namespace FileAction

variable {α β : Type} {paths : List Path}

/-- Whether or not the action succeeds, it changes plain files only where the paths lead. -/
def Touches (action : FileAction α) (paths : List Path) : Prop :=
  ∀ files : Files, files.ChangesAt paths (action.run.run files).2

theorem touches_pure (a : α) (paths : List Path) : Touches (pure a) paths :=
  fun files => .refl paths files

theorem touches_throw (fault : FileFault) (paths : List Path) :
    Touches (throw fault : FileAction α) paths :=
  fun files => .refl paths files

theorem touches_get (paths : List Path) : Touches (get : FileAction Files) paths :=
  fun files => .refl paths files

/-- One action after another touches what both of them touch. -/
theorem Touches.bind {action : FileAction α} {next : α → FileAction β}
    (h : action.Touches paths) (hnext : ∀ a, (next a).Touches paths) :
    (action >>= next).Touches paths := by
  intro files
  have hfirst := h files
  rw [ExceptT.run_bind, StateT.run_bind]
  generalize action.run.run files = outcome at hfirst ⊢
  obtain ⟨result, between⟩ := outcome
  cases result with
  | error fault => exact hfirst
  | ok a => exact hfirst.trans (hnext a between)

/-- An action and what is done after a fault touch what both of them touch. -/
theorem Touches.tryCatch {action : FileAction α} {handle : FileFault → FileAction α}
    (h : action.Touches paths) (hhandle : ∀ fault, (handle fault).Touches paths) :
    Touches (tryCatch action handle) paths := by
  intro files
  have hfirst := h files
  rw [ExceptT.run_tryCatch, StateT.run_bind]
  generalize action.run.run files = outcome at hfirst ⊢
  obtain ⟨result, between⟩ := outcome
  cases result with
  | error fault => exact hfirst.trans (hhandle fault between)
  | ok a => exact hfirst

theorem touches_change {result : Files → Except FileFault Files}
    (h : ∀ {files files' : Files}, result files = .ok files' → files.ChangesAt paths files') :
    (change result).Touches paths := by
  intro files
  rw [run_change]
  cases hresult : result files with
  | error fault => exact .refl paths files
  | ok files' => exact h hresult

theorem touches_makeDirectory (path : Path) (paths : List Path) :
    (makeDirectory path).Touches paths := by
  apply (touches_get paths).bind
  intro files
  split
  · exact touches_pure () paths
  · exact touches_change Files.changesAt_withDirectory

theorem touches_makeInside (directories paths : List Path) :
    (makeInside directories).Touches paths := by
  induction directories with
  | nil => exact touches_pure () paths
  | cons path above ih =>
      apply (touches_makeDirectory path paths).tryCatch
      intro fault
      -- the directories around it are made, unless the fault is of another kind
      have hrest : (do makeInside above; makeDirectory path).Touches paths :=
        ih.bind fun _ => touches_makeDirectory path paths
      split
      · exact (touches_throw fault paths).bind fun _ => hrest
      · exact hrest

theorem touches_makeRoom (path : Path) (paths : List Path) : (makeRoom path).Touches paths := by
  rw [makeRoom]
  split
  · exact touches_makeInside _ paths
  · exact touches_pure () paths

theorem touches_write {path : Path} (hmem : path ∈ paths) (bytes : List UInt8) :
    (write path bytes).Touches paths :=
  touches_change (Files.changesAt_written hmem)

theorem touches_rename {source target : Path} (hsource : source ∈ paths)
    (htarget : target ∈ paths) : (rename source target).Touches paths :=
  touches_change (Files.changesAt_renamed hsource htarget)

end FileAction

end SymbolSearch
