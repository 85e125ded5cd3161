import SymbolSearch.Config
import SymbolSearch.Proofs.Bytes.Codec
import SymbolSearch.Proofs.Files
import SymbolSearch.Proofs.Json.Objects

/-!
# Written configurations

The members of a written configuration lead from no fields at all to all of its fields
(`Config.collects_toJson`), whatever the text of its directory is. It is therefore read back as it
was, unless its age is zero: writing does not check the age, and reading refuses zero. A
configuration that has been read has passed this check, so it survives being written.
-/

set_option autoImplicit false

namespace SymbolSearch

open SymbolSearch.Json

namespace Config

/-- The fields of a configuration, all of them read. -/
def toFields (c : Config) : Fields :=
  ⟨some (c.indexDirectory.map Path.text), some c.storesIndexes, some c.maxAgeHours.toNat⟩

theorem ofFields_toFields (c : Config) : ofFields c.toFields = c := by
  obtain ⟨directory, stores, maxAge⟩ := c
  cases directory with
  | none => simp [toFields, ofFields]
  | some path => simp [toFields, ofFields]

theorem reads_directory (directory : Option Path) :
    (Reader.option Reader.text).Reads
      (writeOption (fun path : Path => writeText path.text) directory).toList
      (directory.map Path.text) := by
  have hwritten : writeOption (fun path : Path => writeText path.text) directory =
      writeOption writeText (directory.map Path.text) := by
    cases directory <;> rfl
  rw [hwritten]
  refine Reader.reads_option fun s _ => ⟨Reader.reads_text s, ?_⟩
  exact ⟨'"', _, Reader.toList_writeText s, rfl, by decide⟩

/-- Reading the members of a written configuration one after the other gives all its fields. -/
theorem collects_toJson (c : Config) :
    Reader.Collects fieldRecord.member
      [("index_cache_dir", writeOption (fun path => writeText path.text) c.indexDirectory),
        ("persist_indexes", writeBool c.storesIndexes),
        ("max_index_age_hours", toString c.maxAgeHours.toNat)]
      fieldRecord.empty c.toFields := by
  have hdirectory : ∀ rest, Reader.IsEnd rest →
      fieldRecord.member "index_cache_dir" ⟨none, none, none⟩ (':' :: ' ' ::
        ((writeOption (fun path => writeText path.text) c.indexDirectory).toList ++ rest)) =
      .ok (⟨some (c.indexDirectory.map Path.text), none, none⟩, rest) := fun rest hrest =>
    Reader.bind_of_ok (Reader.once_none (reads_directory c.indexDirectory) hrest)
  have hstores : ∀ rest, Reader.IsEnd rest →
      fieldRecord.member "persist_indexes" ⟨some (c.indexDirectory.map Path.text), none, none⟩
        (':' :: ' ' :: ((writeBool c.storesIndexes).toList ++ rest)) =
      .ok (⟨some (c.indexDirectory.map Path.text), some c.storesIndexes, none⟩, rest) :=
    fun rest hrest => Reader.bind_of_ok
      (Reader.once_none (Reader.reads_bool c.storesIndexes) hrest)
  have hlimit : c.maxAgeHours.toNat < UInt64.size := c.maxAgeHours.toNat_lt_size
  have hmaxAge : ∀ rest, Reader.IsEnd rest →
      fieldRecord.member "max_index_age_hours"
        ⟨some (c.indexDirectory.map Path.text), some c.storesIndexes, none⟩
        (':' :: ' ' :: ((toString c.maxAgeHours.toNat).toList ++ rest)) = .ok (c.toFields, rest) :=
    fun rest hrest => Reader.bind_of_ok
      (Reader.once_none (Reader.reads_natural hlimit hlimit) hrest)
  exact .cons hdirectory (.cons hstores (.cons hmaxAge (.nil _)))

/-- Before its age is checked, a written configuration is read back as it was. -/
theorem read_toJson (c : Config) :
    Json.read (Reader.record maxDepth fieldRecord) c.toJson = .ok c := by
  refine read_of_reads (Reader.reads_record (by decide) c.collects_toJson ?_)
  exact congrArg pure c.ofFields_toFields

theorem ofJson_toJson (c : Config) :
    ofJson c.toJson = if c.maxAgeHours = 0
      then .error (.invalidConfig "max_index_age_hours must be positive") else .ok c := by
  rw [ofJson, read_toJson]

/-- Every configuration that has been read has passed the check of its age. -/
theorem maxAgeHours_ne_zero_of_ofJson {text : String} {c : Config} (h : ofJson text = .ok c) :
    c.maxAgeHours ≠ 0 := by
  rw [ofJson] at h
  split at h
  · cases h
  · split at h
    · cases h
    · next hage =>
        cases h
        exact hage

/-- A written configuration is read back as it was, and refused if its age is zero. A
configuration that has been read has a positive age, so it is read back once it is written. -/
theorem json_round_trip (c : Config) :
    (0 < c.maxAgeHours → ofJson c.toJson = .ok c) ∧
    (c.maxAgeHours = 0 →
      ofJson c.toJson = .error (.invalidConfig "max_index_age_hours must be positive")) ∧
    ∀ (text : String) (d : Config), ofJson text = .ok d →
      0 < d.maxAgeHours ∧ ofJson d.toJson = .ok d := by
  refine ⟨fun hage => ?_, fun hage => ?_, fun text d hread => ?_⟩
  · rw [ofJson_toJson, if_neg (UInt64.pos_iff_ne_zero.1 hage)]
  · rw [ofJson_toJson, if_pos hage]
  · have hage := maxAgeHours_ne_zero_of_ofJson hread
    exact ⟨UInt64.pos_iff_ne_zero.2 hage, by rw [ofJson_toJson, if_neg hage]⟩

/-- The laws hold of a directory whose name needs every kind of escape and of the longest age; a
configuration read from a list of fields survives being written as well. -/
theorem json_round_trip_escapes :
    ofJson (toJson ⟨some ⟨"/tmp/\"é\\\x01\n😀"⟩, false, 18446744073709551615⟩) =
      .ok ⟨some ⟨"/tmp/\"é\\\x01\n😀"⟩, false, 18446744073709551615⟩ ∧
    ofJson (toJson ⟨none, true, 0⟩) =
      .error (.invalidConfig "max_index_age_hours must be positive") ∧
    ofJson (toJson ⟨some ⟨"n"⟩, false, 5⟩) = .ok ⟨some ⟨"n"⟩, false, 5⟩ := by
  have hread : ofJson "[\"\\u006e\", false, 5]" = .ok ⟨some ⟨"n"⟩, false, 5⟩ := by
    decide +kernel
  exact ⟨(json_round_trip _).1 (by decide), (json_round_trip _).2.1 rfl,
    ((json_round_trip default).2.2 _ _ hread).2⟩

/-! ## Files -/

/-- A configuration that has been saved is loaded again. One of age zero cannot be read back,
and the default one stands in for it. -/
theorem load_of_leaves_save {c : Config} {path : Path} {files files' : Files}
    (h : (c.save path).Leaves files files') :
    load files' path = if c.maxAgeHours = 0 then default else c := by
  obtain ⟨between, -, hwrite⟩ := FileAction.Leaves.exists_of_bind h
  have hread := Files.read_written (FileAction.leaves_change_iff.1 hwrite)
  simp only [load, hread]
  rw [Bytes.fromUTF8?_utf8]
  simp only [ofJson_toJson]
  by_cases hage : c.maxAgeHours = 0
  · rw [if_pos hage, if_pos hage]
  · rw [if_neg hage, if_neg hage]

end Config

end SymbolSearch
