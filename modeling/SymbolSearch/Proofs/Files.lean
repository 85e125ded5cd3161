import SymbolSearch.Proofs.Session

/-!
# Replacing a file

A file is replaced by writing another one beside it and moving this to its place. If both steps
succeed, the bytes are read back from the place (`Files.read_renamed_written`). Where a path leads
depends on the directories alone (`Files.locate_eq_ok`), and neither step makes or removes one, so
a path leads to the same place before, between and after the steps.
-/

set_option autoImplicit false

namespace SymbolSearch

/-! ## Lists of entries with keys -/

section Entries

variable {α β : Type} [BEq α] [LawfulBEq α] [DecidableEq α] {key q : α}

theorem lookup_filter_ne (h : q ≠ key) (entries : List (α × β)) :
    (entries.filter fun item => item.1 ≠ key).lookup q = entries.lookup q := by
  induction entries with
  | nil => rfl
  | cons item entries ih =>
      by_cases hitem : item.1 = key
      · have hother : (q == item.1) = false := by simpa [hitem] using h
        rw [List.filter_cons_of_neg (by simpa using hitem), ih, List.lookup_cons, hother]
      · rw [List.filter_cons_of_pos (by simpa using hitem), List.lookup_cons, List.lookup_cons, ih]

theorem lookup_filter_self (key : α) (entries : List (α × β)) :
    (entries.filter fun item => item.1 ≠ key).lookup key = none := by
  rw [List.lookup_eq_none_iff]
  intro item hitem
  have hne : item.1 ≠ key := of_decide_eq_true (List.mem_filter.1 hitem).2
  exact bne_iff_ne.2 (Ne.symm hne)

/-- If keys occur once, what is found by a key is what stands with it. -/
theorem lookup_eq_some_iff_mem {entries : List (α × β)} (h : (entries.map Prod.fst).Nodup)
    {value : β} : entries.lookup q = some value ↔ (q, value) ∈ entries := by
  induction entries with
  | nil => simp
  | cons item entries ih =>
      obtain ⟨key, first⟩ := item
      rw [List.map_cons, List.nodup_cons] at h
      by_cases hq : q = key
      · subst hq
        have hlater : (q, value) ∉ entries := fun hmem => h.1 (List.mem_map.2 ⟨_, hmem, rfl⟩)
        simp [List.lookup_cons_self, hlater, eq_comm]
      · have hother : (q == key) = false := by simpa using hq
        simp [List.lookup_cons, hother, ih h.2, hq]

/-- What is found by a key after the entry of a key has been replaced. -/
theorem lookup_cons_filter_ne (key : α) (value : β) (entries : List (α × β)) (q : α) :
    ((key, value) :: entries.filter fun item => item.1 ≠ key).lookup q =
      if q = key then some value else entries.lookup q := by
  by_cases hq : q = key
  · rw [if_pos hq, hq, List.lookup_cons_self]
  · have hother : (q == key) = false := by simpa using hq
    rw [if_neg hq, List.lookup_cons, hother, lookup_filter_ne hq]

end Entries

namespace Files

variable {files files' : Files}

/-! ## Entries -/

theorem entry?_eq (files : Files) (place : List String) :
    files.entry? place =
      if place.isEmpty then some .directory else files.entries.lookup place := rfl

theorem entry?_of_ne_nil {place : List String} (h : place ≠ []) :
    files.entry? place = files.entries.lookup place := by
  rw [entry?_eq, if_neg (by simpa using h)]

theorem entry?_erase {place : List String} (h : place ≠ []) (q : List String) :
    Files.entry? (files.erase place) q = if q = place then none else files.entry? q := by
  by_cases hq : q = place
  · rw [if_pos hq, hq, entry?_of_ne_nil h]
    exact lookup_filter_self place files.entries
  · rw [if_neg hq, entry?_eq, entry?_eq, erase, lookup_filter_ne hq]

theorem entry?_put {place : List String} (h : place ≠ []) (entry : FileEntry)
    (q : List String) :
    Files.entry? (files.put place entry) q = if q = place then some entry else files.entry? q := by
  by_cases hq : q = []
  · subst hq
    rw [if_neg (Ne.symm h), entry?_eq, entry?_eq]
    rfl
  · rw [entry?_of_ne_nil hq, entry?_of_ne_nil hq, put, lookup_cons_filter_ne]

/-! ## Where paths lead -/

/-- Directories stay. -/
def KeepsDirectories (files files' : Files) : Prop :=
  ∀ place, files.entry? place = some .directory → files'.entry? place = some .directory

/-- Both have the same directories. -/
def SameDirectories (files files' : Files) : Prop :=
  ∀ place, files.entry? place = some .directory ↔ files'.entry? place = some .directory

theorem SameDirectories.keeps (h : files.SameDirectories files') : files.KeepsDirectories files' :=
  fun place => (h place).1

theorem sameDirectories_put {place : List String} (h : place ≠ []) (bytes : List UInt8)
    (hplain : files.entry? place ≠ some .directory) :
    files.SameDirectories (files.put place (.file bytes)) := by
  intro q
  rw [entry?_put h]
  by_cases hq : q = place
  · simp [hq, hplain]
  · rw [if_neg hq]

theorem sameDirectories_erase {place : List String} (h : place ≠ [])
    (hplain : files.entry? place ≠ some .directory) :
    files.SameDirectories (files.erase place) := by
  intro q
  rw [entry?_erase h]
  by_cases hq : q = place
  · simp [hq, hplain]
  · rw [if_neg hq]

theorem lookUp_eq_ok_iff {directory : List String} {name : String} {entry : Option FileEntry} :
    files.lookUp directory name = .ok entry ↔
      name.utf8ByteSize ≤ nameLimit ∧ files.entry? (directory ++ [name]) = entry := by
  rw [lookUp]
  split
  · next hlong => simp [Nat.not_le.2 hlong]
  · next hshort => simp [Nat.not_lt.1 hshort]

theorem enter_eq_ok (h : files.KeepsDirectories files') {directory next : List String}
    {name : String} (henter : files.enter directory name = .ok next) :
    files'.enter directory name = .ok next := by
  rw [enter] at henter ⊢
  split
  · next hsame => rwa [if_pos hsame] at henter
  next hsame =>
  rw [if_neg hsame] at henter
  split
  · next habove => rwa [if_pos habove] at henter
  next habove =>
  rw [if_neg habove] at henter
  cases hlook : files.lookUp directory name with
  | error fault =>
      rw [hlook] at henter
      exact nomatch henter
  | ok entry =>
      rw [hlook] at henter
      -- only a directory can be entered
      match entry, henter with
      | some .directory, henter =>
          obtain ⟨hshort, hentry⟩ := lookUp_eq_ok_iff.1 hlook
          rw [lookUp_eq_ok_iff.2 ⟨hshort, h _ hentry⟩]
          exact henter

theorem follow_eq_ok (h : files.KeepsDirectories files') {directory : List String}
    {names : List String} {goal : Goal} (hfollow : files.follow directory names = .ok goal) :
    files'.follow directory names = .ok goal := by
  induction names generalizing directory with
  | nil => exact hfollow
  | cons name names ih =>
      cases names with
      | nil => exact hfollow
      | cons second names =>
          rw [follow.eq_3 _ _ _ _ (List.cons_ne_nil _ _)] at hfollow ⊢
          cases henter : files.enter directory name with
          | error fault =>
              rw [henter] at hfollow
              exact nomatch hfollow
          | ok next =>
              rw [henter] at hfollow
              rw [enter_eq_ok h henter]
              exact ih hfollow

theorem locate_eq_ok (h : files.KeepsDirectories files') {path : Path} {goal : Goal}
    (hlocate : files.locate path = .ok goal) : files'.locate path = .ok goal := by
  rw [locate] at hlocate ⊢
  split at hlocate
  · exact nomatch hlocate
  split at hlocate
  · exact nomatch hlocate
  split at hlocate
  · exact nomatch hlocate
  next hnul hempty hlong =>
  rw [if_neg hnul, if_neg hempty, if_neg hlong]
  exact follow_eq_ok h hlocate

/-! ## Reading and writing -/

theorem bind_eq_ok_iff {α β : Type} {x : Except FileFault α} {f : α → Except FileFault β} {b : β} :
    (x >>= f) = .ok b ↔ ∃ a, x = .ok a ∧ f a = .ok b := by
  cases x with
  | error fault => exact ⟨nofun, fun ⟨_, h, _⟩ => nomatch h⟩
  | ok a => exact ⟨fun h => ⟨a, rfl, h⟩, fun ⟨_, hx, h⟩ => Except.ok.inj hx ▸ h⟩

/-- A path leads to a name in a directory where a plain file may be. -/
structure LeadsTo (files : Files) (path : Path) (directory : List String) (name : String) :
    Prop where
  locate : files.locate path = .ok ⟨directory, some name⟩
  short : name.utf8ByteSize ≤ nameLimit
  noSlash : path.endsInSlash = false

theorem LeadsTo.of_sameDirectories {path : Path} {directory : List String} {name : String}
    (h : files.LeadsTo path directory name) (hsame : files.SameDirectories files') :
    files'.LeadsTo path directory name :=
  ⟨locate_eq_ok hsame.keeps h.locate, h.short, h.noSlash⟩

theorem find_eq_ok_file_iff {path : Path} {bytes : List UInt8} :
    files.find path = .ok (.file bytes) ↔ ∃ directory name,
      files.LeadsTo path directory name ∧
        files.entry? (directory ++ [name]) = some (.file bytes) := by
  rw [find, bind_eq_ok_iff]
  constructor
  · rintro ⟨⟨directory, name?⟩, hlocate, h⟩
    match name?, h with
    | some name, h =>
        simp only [bind_eq_ok_iff] at h
        obtain ⟨entry, hlook, h⟩ := h
        obtain ⟨hshort, hentry⟩ := lookUp_eq_ok_iff.1 hlook
        match entry, h with
        | some (.file found), h =>
            cases hslash : path.endsInSlash with
            | true => simp only [hslash, if_true, reduceCtorEq] at h
            | false =>
                simp only [hslash, Bool.false_eq_true, if_false, Except.ok.injEq,
                  FileEntry.file.injEq] at h
                subst h
                exact ⟨directory, name, ⟨hlocate, hshort, hslash⟩, hentry⟩
  · rintro ⟨directory, name, h, hentry⟩
    refine ⟨_, h.locate, ?_⟩
    simp only [bind_eq_ok_iff]
    refine ⟨_, lookUp_eq_ok_iff.2 ⟨h.short, hentry⟩, ?_⟩
    simp only [h.noSlash, Bool.false_eq_true, if_false]

/-- What is read is the plain file at the place that the path leads to. -/
theorem read_eq_ok_iff {path : Path} {bytes : List UInt8} :
    files.read path = .ok bytes ↔ ∃ directory name,
      files.LeadsTo path directory name ∧
        files.entry? (directory ++ [name]) = some (.file bytes) := by
  rw [← find_eq_ok_file_iff, read, bind_eq_ok_iff]
  constructor
  · rintro ⟨entry, hfind, h⟩
    match entry, h with
    | .file found, h =>
        obtain rfl := Except.ok.inj h
        exact hfind
  · intro hfind
    exact ⟨_, hfind, rfl⟩

/-- Writing puts a plain file at the place that the path leads to. -/
theorem written_eq_ok {path : Path} {bytes : List UInt8}
    (h : files.written path bytes = .ok files') :
    ∃ directory name, files.LeadsTo path directory name ∧
      files.entry? (directory ++ [name]) ≠ some .directory ∧
      files' = files.put (directory ++ [name]) (.file bytes) := by
  rw [written, bind_eq_ok_iff] at h
  obtain ⟨⟨directory, name?⟩, hlocate, h⟩ := h
  cases name? with
  | none => exact nomatch h
  | some name =>
      cases hslash : path.endsInSlash with
      | true => simp only [hslash, if_true, reduceCtorEq] at h
      | false =>
          simp only [hslash, Bool.false_eq_true, if_false, bind_eq_ok_iff] at h
          obtain ⟨entry, hlook, h⟩ := h
          obtain ⟨hshort, hentry⟩ := lookUp_eq_ok_iff.1 hlook
          refine ⟨directory, name, ⟨hlocate, hshort, hslash⟩, ?_, ?_⟩
          · rw [hentry]
            rintro rfl
            exact nomatch h
          · match entry, h with
            | none, h => exact (Except.ok.inj h).symm
            | some (.file _), h => exact (Except.ok.inj h).symm

/-- Renaming takes a plain file from the place that one path leads to and puts it at the place
that the other one leads to. -/
theorem renamed_eq_ok {source target : Path} (h : files.renamed source target = .ok files') :
    ∃ directory name directory' name' bytes,
      files.locate source = .ok ⟨directory, some name⟩ ∧
      files.entry? (directory ++ [name]) = some (.file bytes) ∧
      files.LeadsTo target directory' name' ∧
      files.entry? (directory' ++ [name']) ≠ some .directory ∧
      files' = (files.erase (directory ++ [name])).put (directory' ++ [name']) (.file bytes) := by
  rw [renamed, bind_eq_ok_iff] at h
  obtain ⟨⟨directory, name?⟩, hsource, h⟩ := h
  simp only [bind_eq_ok_iff] at h
  obtain ⟨⟨directory', name'?⟩, htarget, h⟩ := h
  match name?, name'?, h with
  | some name, some name', h =>
      simp only [bind_eq_ok_iff] at h
      obtain ⟨entry, hlook, h⟩ := h
      match entry, h with
      | some (.file bytes), h =>
          simp only [bind_eq_ok_iff] at h
          obtain ⟨replaced, hreplaced, h⟩ := h
          obtain ⟨hshort, hentry⟩ := lookUp_eq_ok_iff.1 hreplaced
          split at h
          · exact nomatch h
          next hslash =>
          split at h
          · exact nomatch h
          next hplain =>
          rw [Bool.or_eq_true, not_or, Bool.not_eq_true, Bool.not_eq_true] at hslash
          refine ⟨directory, name, directory', name', bytes, hsource, (lookUp_eq_ok_iff.1 hlook).2,
            ⟨htarget, hshort, hslash.2⟩, ?_, (Except.ok.inj h).symm⟩
          rw [hentry]
          exact hplain

/-- What is written to a place is read back from it. -/
theorem read_written {path : Path} {bytes : List UInt8}
    (h : files.written path bytes = .ok files') : files'.read path = .ok bytes := by
  obtain ⟨directory, name, hleads, hplain, rfl⟩ := written_eq_ok h
  have hne : directory ++ [name] ≠ [] :=
    List.append_ne_nil_of_right_ne_nil _ (List.cons_ne_nil _ _)
  refine read_eq_ok_iff.2 ⟨directory, name,
    hleads.of_sameDirectories (sameDirectories_put hne bytes hplain), ?_⟩
  rw [entry?_put hne, if_pos rfl]

/-- **What is written beside a place and moved there is read back from the place.** -/
theorem read_renamed_written {beside path : Path} {bytes : List UInt8} {written renamed : Files}
    (hwritten : files.written beside bytes = .ok written)
    (hrenamed : written.renamed beside path = .ok renamed) : renamed.read path = .ok bytes := by
  obtain ⟨directory, name, hbeside, hplain, rfl⟩ := written_eq_ok hwritten
  obtain ⟨source, sourceName, target, targetName, found, hsource, hfound, htarget, hreplaced,
    rfl⟩ :=
    renamed_eq_ok hrenamed
  have hne : ∀ (place : List String) (name : String), place ++ [name] ≠ [] :=
    fun place name => List.append_ne_nil_of_right_ne_nil _ (List.cons_ne_nil _ _)
  -- the renamed file is the one that was written
  have hsame := sameDirectories_put (hne directory name) bytes hplain
  have hgoal := (locate_eq_ok hsame.keeps hbeside.locate).symm.trans hsource
  rw [Except.ok.injEq, Goal.mk.injEq, Option.some.injEq] at hgoal
  obtain ⟨rfl, rfl⟩ := hgoal
  rw [entry?_put (hne directory name), if_pos rfl, Option.some.injEq,
    FileEntry.file.injEq] at hfound
  subst hfound
  -- taking it away and putting it at its new place changes no directory
  have herased := @sameDirectories_erase (files.put (directory ++ [name]) (.file bytes)) _
    (hne directory name) (by rw [entry?_put (hne directory name), if_pos rfl]; nofun)
  have hmoved := sameDirectories_put (hne target targetName) bytes
    (fun hdir => hreplaced ((herased _).2 hdir))
  refine read_eq_ok_iff.2 ⟨target, targetName,
    (htarget.of_sameDirectories herased).of_sameDirectories hmoved, ?_⟩
  rw [entry?_put (hne target targetName), if_pos rfl]

end Files

/-! ## Actions -/

namespace FileAction

variable {files files' : Files}

/-- The action succeeds and leaves other files behind. -/
def Leaves (action : FileAction Unit) (files files' : Files) : Prop :=
  action.run.run files = (.ok (), files')

theorem exists_leaves_of_isOk {action : FileAction Unit}
    (h : (action.run.run files).1.isOk = true) : ∃ files', action.Leaves files files' := by
  unfold Leaves
  generalize action.run.run files = outcome at h ⊢
  obtain ⟨result, files'⟩ := outcome
  cases result with
  | error fault => exact nomatch h
  | ok done => exact ⟨files', rfl⟩

/-- A change that meets a fault changes nothing. -/
theorem run_change (result : Files → Except FileFault Files) (files : Files) :
    (change result).run.run files =
      ((match result files with
        | .error fault => (.error fault, files)
        | .ok changed => (.ok (), changed)) : Except FileFault Unit × Files) := by
  have hget : (get : FileAction Files).run.run files = (.ok files, files) := rfl
  unfold change
  rw [ExceptT.run_bind, StateT.run_bind, hget]
  -- what is left is decided by the result on the files that were read
  cases hresult : result files with
  | error fault =>
      simp only [bind, hresult]
      rfl
  | ok changed =>
      simp only [bind, hresult]
      rfl

theorem leaves_change_iff {result : Files → Except FileFault Files} :
    (change result).Leaves files files' ↔ result files = .ok files' := by
  rw [Leaves, run_change]
  cases result files with
  | error fault =>
      constructor
      · intro h
        cases h
      · intro h
        cases h
  | ok changed =>
      constructor
      · intro h
        rw [(Prod.mk.inj h).2]
      · intro h
        rw [Except.ok.inj h]

/-- If one action after another succeeds, then both do. -/
theorem Leaves.exists_of_bind {first : FileAction Unit} {second : Unit → FileAction Unit}
    (h : Leaves (first >>= second) files files') :
    ∃ between, first.Leaves files between ∧ (second ()).Leaves between files' := by
  obtain ⟨done, between, hfirst, hsecond⟩ := exists_of_run_bind h
  exact ⟨between, hfirst, hsecond⟩

/-- What is written beside a place and moved there is read back from the place. -/
theorem read_of_leaves_rename {beside path : Path} {bytes : List UInt8}
    {written renamed : Files} (hwrite : (write beside bytes).Leaves files written)
    (hrename : (rename beside path).Leaves written renamed) : renamed.read path = .ok bytes :=
  Files.read_renamed_written (leaves_change_iff.1 hwrite) (leaves_change_iff.1 hrename)

end FileAction

end SymbolSearch
