import SymbolSearch.Compilation
import SymbolSearch.Proofs.Assembly.Growth

/-!
# The assemblies of a compilation

`Row id ordinal firstId as` presents the rows of assemblies that a compilation is made of: each
is built at the next position and numbers its symbols from where the one before it has ended.
From this one relation it follows that all symbols of a row are numbered consecutively
(`Row.map_id`), so that a number belongs to one symbol of one assembly.

The second part is about references: which have an assembly (`map_fst_buildReferenced`), which one
that is (`mem_buildReferenced`) and what is looked up for them (`exists_of_assemblyFor?`,
`assemblyFor?_eq_some_iff`).
-/

set_option autoImplicit false

namespace SymbolSearch

/-- The symbols of an assembly, the global namespace first. -/
def Assembly.symbols (a : Assembly) : List Symbol := a.globalNamespace :: a.declared

theorem Assembly.nextId_eq (a : Assembly) : a.nextId = a.firstId + a.symbols.length := by
  rw [Assembly.nextId, Assembly.symbols, List.length_cons]
  omega

namespace Reference

theorem sameText_self (r : Reference) : r.sameText r = true := by simp [sameText]

theorem sameText_iff {r r' : Reference} :
    r.sameText r' = true ↔ r.path.text = r'.path.text ∧ r.checksum = r'.checksum := by
  rw [sameText, Bool.and_eq_true, decide_eq_true_iff, decide_eq_true_iff]

theorem sameText_comm {r r' : Reference} (h : r.sameText r' = true) : r'.sameText r = true := by
  rw [sameText_iff] at h ⊢
  exact ⟨h.1.symm, h.2.symm⟩

variable {rs : List Reference}

theorem nodup_of_sameText (h : rs.Pairwise fun r r' => r.sameText r' = false) : rs.Nodup := by
  refine h.imp fun {r r'} hne => ?_
  rintro rfl
  rw [sameText_self] at hne
  exact Bool.noConfusion hne

/-- Where references differ in path text or checksum, these determine the reference. -/
theorem eq_of_sameText (h : rs.Pairwise fun r r' => r.sameText r' = false) {r r' : Reference}
    (hr : r ∈ rs) (hr' : r' ∈ rs) (hsame : r.sameText r' = true) : r = r' := by
  have hunique := List.Pairwise.forall_of_forall_of_flip
    (R := fun r r' : Reference => r.sameText r' = true → r = r') (fun _ _ _ => rfl)
    (h.imp fun hne htrue => absurd htrue (by simp [hne]))
    (h.imp fun hne htrue => absurd (sameText_comm htrue) (by simp [hne]))
  exact hunique hr hr' hsame

end Reference

namespace Compilation

/-! ## Rows of assemblies -/

/-- The number after those of all assemblies. -/
def nextIdAfter (assemblies : List Assembly) : Nat :=
  (assemblies.getLast?.map Assembly.nextId).getD 0

/-- Assemblies that are built one after the other, at positions from `ordinal` and with numbers
from `firstId` on. -/
inductive Row (id : CompilationId) : (ordinal firstId : Nat) → List Assembly → Prop where
  | nil (ordinal firstId : Nat) : Row id ordinal firstId []
  | cons {ordinal firstId : Nat} {rest : List Assembly} (name : String) (origin : Origin)
      (roots : List Declaration) :
      Row id (ordinal + 1) (Assembly.build id ordinal name origin firstId roots).nextId rest →
      Row id ordinal firstId (Assembly.build id ordinal name origin firstId roots :: rest)

namespace Row

variable {id : CompilationId} {ordinal firstId : Nat} {as : List Assembly}

theorem compilation_eq (h : Row id ordinal firstId as) {a : Assembly} (ha : a ∈ as) :
    a.compilation = id := by
  induction h with
  | nil => exact absurd ha List.not_mem_nil
  | cons name origin roots _ ih =>
      rcases List.mem_cons.1 ha with rfl | ha
      · rfl
      · exact ih ha

theorem isGrown (h : Row id ordinal firstId as) {a : Assembly} (ha : a ∈ as) :
    Assembly.Grown a.globalNamespace a.declared := by
  induction h with
  | nil => exact absurd ha List.not_mem_nil
  | cons name origin roots _ ih =>
      rcases List.mem_cons.1 ha with rfl | ha
      · exact Assembly.grown_build ..
      · exact ih ha

theorem ordinal_eq (h : Row id ordinal firstId as) {i : Nat} {a : Assembly}
    (ha : as[i]? = some a) : a.ordinal = ordinal + i := by
  induction h generalizing i with
  | nil => simp at ha
  | cons name origin roots _ ih =>
      -- the head stands at `ordinal` itself
      cases i with
      | zero =>
          rw [List.getElem?_cons_zero, Option.some.injEq] at ha
          rw [← ha]
          rfl
      | succ i =>
          rw [List.getElem?_cons_succ] at ha
          rw [ih ha]
          omega

/-- All symbols of the compilation belong to it and to an assembly. -/
theorem owner (h : Row id ordinal firstId as) {s : Symbol}
    (hs : s ∈ as.flatMap Assembly.symbols) : s.compilation = id ∧ s.assembly ≠ none := by
  obtain ⟨a, ha, hs⟩ := List.mem_flatMap.1 hs
  obtain ⟨hcompilation, hassembly⟩ := (h.isGrown ha).owner s hs
  refine ⟨hcompilation.trans (h.compilation_eq ha), ?_⟩
  rw [hassembly]
  exact Option.some_ne_none _

/-- The symbols of a row are numbered consecutively. -/
theorem map_id (h : Row id ordinal firstId as) :
    (as.flatMap Assembly.symbols).map Symbol.id =
      List.range' firstId (as.flatMap Assembly.symbols).length := by
  induction h with
  | nil => rfl
  | @cons ordinal firstId rest name origin roots _ ih =>
      have hgrown := Assembly.grown_build id ordinal name origin firstId roots
      -- the assembly at the head is numbered from `firstId` on, and the row after it goes on there
      have hsymbols : (Assembly.build id ordinal name origin firstId roots).symbols.map Symbol.id =
          List.range' firstId
            (Assembly.build id ordinal name origin firstId roots).symbols.length := by
        rw [Assembly.symbols, List.map_cons, hgrown.map_id, List.length_cons, List.range'_succ]
        rfl
      rw [List.flatMap_cons, List.map_append, hsymbols, ih, List.length_append,
        ← List.range'_append_1, Assembly.nextId_eq]
      rfl

theorem nodup_id (h : Row id ordinal firstId as) :
    ((as.flatMap Assembly.symbols).map Symbol.id).Nodup := by
  rw [h.map_id]
  exact List.nodup_range'

theorem nextIdAfter_eq (h : Row id ordinal firstId as) (hne : as ≠ []) :
    nextIdAfter as = firstId + (as.flatMap Assembly.symbols).length := by
  induction h with
  | nil => exact absurd rfl hne
  | @cons ordinal firstId rest name origin roots _ ih =>
      have hfirst : (Assembly.build id ordinal name origin firstId roots).nextId =
          firstId + (Assembly.build id ordinal name origin firstId roots).symbols.length :=
        Assembly.nextId_eq _
      rw [List.flatMap_cons, List.length_append]
      -- the next number is that after the last assembly
      cases rest with
      | nil =>
          rw [List.flatMap_nil, List.length_nil, Nat.add_zero]
          exact hfirst
      | cons a rest =>
          have hlast := ih (List.cons_ne_nil a rest)
          rw [nextIdAfter] at hlast ⊢
          rw [List.getLast?_cons_cons, hlast, hfirst]
          omega

/-- All numbers of a row are below the next one. -/
theorem lt_nextIdAfter (h : Row id ordinal firstId as) {s : Symbol}
    (hs : s ∈ as.flatMap Assembly.symbols) : s.id < nextIdAfter as := by
  have hmem : s.id ∈ (as.flatMap Assembly.symbols).map Symbol.id := List.mem_map_of_mem hs
  rw [h.map_id, List.mem_range'_1] at hmem
  rw [h.nextIdAfter_eq (by rintro rfl; simp at hs)]
  exact hmem.2

end Row

/-! ## References -/

section Referenced

variable (id : CompilationId) (ordinal firstId : Nat) (rs : List Reference)

/-- A reference that cannot be read takes no position and no numbers. -/
theorem buildReferenced_of_error {r : Reference} {e : Error} (himage : r.image = .error e)
    (arena : Arena) :
    buildReferenced ordinal (r :: rs) arena = buildReferenced ordinal rs arena := by
  rw [buildReferenced, himage]

/-- The assembly of a reference that can be read, and those of the references after it. -/
theorem buildReferenced_of_ok {r : Reference} {image : Image} (himage : r.image = .ok image) :
    let a := Assembly.build id ordinal image.assemblyName (.metadata r.checksum) firstId
      image.declarations
    buildReferenced ordinal (r :: rs) ⟨id, firstId⟩ =
      ((r, a) :: (buildReferenced (ordinal + 1) rs ⟨id, a.nextId⟩).1,
        (buildReferenced (ordinal + 1) rs ⟨id, a.nextId⟩).2) := by
  rw [buildReferenced, himage]
  simp only [Assembly.buildFrom_eq]

/-- The references that have an assembly are those that can be read, in order. -/
theorem map_fst_buildReferenced :
    (buildReferenced ordinal rs ⟨id, firstId⟩).1.map Prod.fst =
      rs.filter fun r => r.image.isOk := by
  induction rs generalizing ordinal firstId with
  | nil => rfl
  | cons r rs ih =>
      cases himage : r.image with
      | error e =>
          rw [buildReferenced_of_error _ _ himage, ih]
          simp [himage, Except.isOk, Except.toBool]
      | ok image =>
          rw [buildReferenced_of_ok _ _ _ _ himage, List.map_cons, ih]
          simp [himage, Except.isOk, Except.toBool]

theorem row_buildReferenced :
    Row id ordinal firstId ((buildReferenced ordinal rs ⟨id, firstId⟩).1.map Prod.snd) := by
  induction rs generalizing ordinal firstId with
  | nil => exact Row.nil ordinal firstId
  | cons r rs ih =>
      cases himage : r.image with
      | error e =>
          rw [buildReferenced_of_error _ _ himage]
          exact ih ordinal firstId
      | ok image =>
          rw [buildReferenced_of_ok _ _ _ _ himage]
          exact Row.cons _ _ _ (ih _ _)

/-- After the assemblies of references, the arena goes on behind the last assembly. -/
theorem arena_buildReferenced (a : Assembly) (ha : a.nextId = firstId) :
    (buildReferenced ordinal rs ⟨id, firstId⟩).2 =
      ⟨id, nextIdAfter (a :: (buildReferenced ordinal rs ⟨id, firstId⟩).1.map Prod.snd)⟩ := by
  induction rs generalizing ordinal firstId a with
  | nil => exact congrArg (Arena.mk id) ha.symm
  | cons r rs ih =>
      cases himage : r.image with
      | error e =>
          rw [buildReferenced_of_error _ _ himage]
          exact ih ordinal firstId a ha
      | ok image =>
          rw [buildReferenced_of_ok _ _ _ _ himage, List.map_cons, nextIdAfter,
            List.getLast?_cons_cons]
          exact ih _ _ _ rfl

/-- The assembly of a reference is built from its image. -/
theorem mem_buildReferenced {r : Reference} {a : Assembly}
    (h : (r, a) ∈ (buildReferenced ordinal rs ⟨id, firstId⟩).1) :
    ∃ image ordinal firstId, r.image = .ok image ∧
      a = Assembly.build id ordinal image.assemblyName (.metadata r.checksum) firstId
        image.declarations := by
  induction rs generalizing ordinal firstId with
  | nil => exact absurd h List.not_mem_nil
  | cons r' rs ih =>
      cases himage : r'.image with
      | error e =>
          rw [buildReferenced_of_error _ _ himage] at h
          exact ih _ _ h
      | ok image =>
          rw [buildReferenced_of_ok _ _ _ _ himage, List.mem_cons, Prod.mk.injEq] at h
          rcases h with ⟨rfl, rfl⟩ | h
          · exact ⟨image, ordinal, firstId, himage, rfl⟩
          · exact ih _ _ h

end Referenced

section Build

variable {id : CompilationId} {name : String} {documents : List (List Declaration)}
  {references : List Reference}

/-- What is known of a compilation whatever it was built of. -/
structure IsBuilt (c : Compilation) : Prop where
  row : Row c.id 0 0 c.assemblies
  merged_eq : c.merged = Merged.build ⟨c.id, nextIdAfter c.assemblies⟩ c.assemblies

/-- A compilation is built of the source assembly and the assemblies of the references, and each
of them goes on where the one before has ended. -/
theorem build_eq :
    let source := Assembly.build id 0 name .source 0 documents.flatten
    let referenced := (buildReferenced 1 references ⟨id, source.nextId⟩).1
    let assemblies := source :: referenced.map Prod.snd
    build id name documents references =
      ⟨id, source, referenced, Merged.build ⟨id, nextIdAfter assemblies⟩ assemblies⟩ := by
  intro source referenced assemblies
  have harena := arena_buildReferenced id 1 source.nextId references source rfl
  rw [build, Assembly.buildFrom_eq]
  exact congrArg (fun arena => Compilation.mk id source referenced (Merged.build arena assemblies))
    harena

theorem isBuilt_build : (build id name documents references).IsBuilt := by
  rw [build_eq]
  exact ⟨Row.cons name .source documents.flatten (row_buildReferenced id 1 _ references), rfl⟩

theorem source_build :
    (build id name documents references).source =
      Assembly.build id 0 name .source 0 documents.flatten := by
  rw [build_eq]

theorem map_fst_referenced :
    (build id name documents references).referenced.map Prod.fst =
      references.filter fun r => r.image.isOk := by
  rw [build_eq]
  exact map_fst_buildReferenced id 1 _ references

theorem mem_referenced {r : Reference} {a : Assembly}
    (h : (r, a) ∈ (build id name documents references).referenced) :
    ∃ image ordinal firstId, r.image = .ok image ∧
      a = Assembly.build id ordinal image.assemblyName (.metadata r.checksum) firstId
        image.declarations := by
  rw [build_eq] at h
  exact mem_buildReferenced id 1 _ references h

theorem readable_of_mem {r : Reference} {a : Assembly}
    (h : (r, a) ∈ (build id name documents references).referenced) :
    r ∈ references ∧ r.image.isOk = true := by
  have hmem := List.mem_map_of_mem (f := Prod.fst) h
  rw [map_fst_referenced, List.mem_filter] at hmem
  exact hmem

/-- What is looked up for a reference is the assembly of a reference with the same texts. -/
theorem exists_of_assemblyFor? {c : Compilation} {r : Reference} {a : Assembly}
    (h : c.assemblyFor? r = some a) : ∃ q, (q, a) ∈ c.referenced ∧ q.sameText r = true := by
  rw [assemblyFor?, Option.map_eq_some_iff] at h
  obtain ⟨entry, hfind, rfl⟩ := h
  have hsame := List.find?_some hfind
  exact ⟨entry.1, List.mem_reverse.1 (List.mem_of_find?_eq_some hfind), hsame⟩

theorem exists_assemblyFor?_of_mem {c : Compilation} {r : Reference} {a : Assembly}
    (h : (r, a) ∈ c.referenced) : ∃ b, c.assemblyFor? r = some b := by
  cases hlookup : c.assemblyFor? r with
  | some b => exact ⟨b, rfl⟩
  | none =>
      rw [assemblyFor?, Option.map_eq_none_iff, List.find?_eq_none] at hlookup
      exact absurd (Reference.sameText_self r) (hlookup (r, a) (List.mem_reverse.2 h))

/-- A reference that can be read has an assembly. -/
theorem exists_assemblyFor? {r : Reference} (hr : r ∈ references)
    (hreadable : r.image.isOk = true) :
    ∃ a, (build id name documents references).assemblyFor? r = some a := by
  have hmem : r ∈ (build id name documents references).referenced.map Prod.fst := by
    rw [map_fst_referenced, List.mem_filter]
    exact ⟨hr, hreadable⟩
  obtain ⟨⟨q, a⟩, hentry, rfl⟩ := List.mem_map.1 hmem
  exact exists_assemblyFor?_of_mem hentry

/-- Where references differ in their checksums or the texts of their paths, each one is looked
up as its own assembly, if it has any. -/
theorem assemblyFor?_eq_some_iff {all : List Reference}
    (hall : all.Pairwise fun r r' => r.sameText r' = false) (hsub : references <+: all)
    {r : Reference} (hr : r ∈ all) {a : Assembly} :
    (build id name documents references).assemblyFor? r = some a ↔
      (r, a) ∈ (build id name documents references).referenced := by
  have hfound : ∀ b, (build id name documents references).assemblyFor? r = some b →
      (r, b) ∈ (build id name documents references).referenced := by
    intro b hb
    obtain ⟨q, hq, hsame⟩ := exists_of_assemblyFor? hb
    -- the entry has the same texts as `r`, so it is the entry of `r`
    rw [← Reference.eq_of_sameText hall (hsub.subset (readable_of_mem hq).1) hr hsame]
    exact hq
  refine ⟨hfound a, fun h => ?_⟩
  -- the converse: what is looked up is an entry of `r`, and `r` has one entry
  have hnodup : ((build id name documents references).referenced.map Prod.fst).Nodup := by
    rw [map_fst_referenced]
    exact ((Reference.nodup_of_sameText hall).sublist hsub.sublist).filter _
  obtain ⟨b, hb⟩ := exists_assemblyFor?_of_mem h
  have heq := List.inj_on_of_nodup_map hnodup (hfound b hb) h rfl
  rw [hb, (Prod.mk.inj heq).2]

end Build

end Compilation

end SymbolSearch
