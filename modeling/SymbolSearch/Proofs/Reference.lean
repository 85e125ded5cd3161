import SymbolSearch.Proofs.Compilation
import SymbolSearch.Proofs.Image
import SymbolSearch.Proofs.Path

/-!
# Spellings of references

Two references are the same if their paths agree component by component and their checksums agree.
A compilation looks up the assembly of a reference by the text of the path instead. So it tells the
spellings of a path apart: of the references that are the same as a readable one, just those whose
path has the same text lead to its assembly, and the others lead to another one or to none. Since
each path but the empty one has several spellings (`Path.components_slash`,
`Path.text_eq_empty_of_components`), the look-up respects the sameness of references only where the
path is empty (`Reference.forall_sameAs_text_eq_iff`, `Compilation.assemblyFor?_eq_iff_text`).
-/

set_option autoImplicit false

namespace SymbolSearch

/-! ## Spellings of a path -/

namespace Path

/-- A slash at the end does not change the components. -/
theorem components_slash {text : String} (h : text ≠ "") :
    (⟨text ++ "/"⟩ : Path).components = (⟨text⟩ : Path).components := by
  have hne : text.toList ≠ [] := fun hnil => h (String.toList_eq_nil_iff.1 hnil)
  have habsolute : (⟨text ++ "/"⟩ : Path).isAbsolute = (⟨text⟩ : Path).isAbsolute := by
    rw [isAbsolute, isAbsolute, String.toList_append, List.head?_append_of_ne_nil _ hne]
  rw [components, components, habsolute, names_slash]

/-- A text that does not begin with a slash has a name, unless it is empty. -/
theorem names_ne_nil {p : Path} (habsolute : p.isAbsolute = false) (h : p.text ≠ "") :
    p.names ≠ [] := by
  have hne : p.text.toList ≠ [] := fun hnil => h (String.toList_eq_nil_iff.1 hnil)
  obtain ⟨c, cs, htext⟩ := List.exists_cons_of_ne_nil hne
  have hslash : c ≠ '/' := by
    rintro rfl
    simp [isAbsolute, htext] at habsolute
  -- the first character belongs to the first piece
  obtain ⟨piece, pieces, hsplit⟩ :
      ∃ piece pieces, Text.splitAt '/' (c :: cs) = (c :: piece) :: pieces := by
    rw [Text.splitAt, if_neg hslash]
    split
    next => exact ⟨[], [], rfl⟩
    next piece pieces _ => exact ⟨piece, pieces, rfl⟩
  rw [names, htext, hsplit, List.map_cons, List.filter_cons_of_pos (by simp)]
  exact List.cons_ne_nil _ _

/-- Only the empty text has no components. -/
theorem text_eq_empty_of_components {p : Path} (h : p.components = []) : p.text = "" := by
  rw [components, List.append_eq_nil_iff] at h
  obtain ⟨hstart, hnames⟩ := h
  have habsolute : p.isAbsolute = false := by
    cases habsolute : p.isAbsolute with
    | false => rfl
    | true => simp [habsolute] at hstart
  by_contra htext
  obtain ⟨name, names, hcons⟩ := List.exists_cons_of_ne_nil (names_ne_nil habsolute htext)
  -- the first name is a component itself, or it stands for the directory that the path begins in
  by_cases hdot : name = "."
  · simp [habsolute, hcons, hdot] at hstart
  · simp [hcons, hdot] at hnames

end Path

/-! ## Spellings of a reference -/

namespace Reference

variable {r r' : Reference}

theorem sameAs_iff :
    r.sameAs r' = true ↔ r.path.components = r'.path.components ∧ r.checksum = r'.checksum := by
  rw [sameAs, Path.sameAs, Bool.and_eq_true, decide_eq_true_iff, decide_eq_true_iff]

/-- A reference has one spelling if and only if its path is empty. -/
theorem forall_sameAs_text_eq_iff :
    (∀ r', r.sameAs r' = true → r'.path.text = r.path.text) ↔ r.path.text = "" := by
  constructor
  · intro hone
    by_contra hne
    -- a slash at the end makes another spelling
    have hslash : r.sameAs (.ofBytes ⟨r.path.text ++ "/"⟩ r.bytes) = true :=
      sameAs_iff.2 ⟨(Path.components_slash hne).symm, r.checksum_eq⟩
    have hlength := congrArg String.length (hone _ hslash)
    rw [ofBytes, String.length_append] at hlength
    have hpos : "/".length = 1 := rfl
    omega
  · intro hempty r' hsame
    have hcomponents : r.path.components = [] := by
      rw [Path.components, Path.isAbsolute, Path.names, hempty]
      rfl
    rw [hempty]
    exact Path.text_eq_empty_of_components ((sameAs_iff.1 hsame).1.symm.trans hcomponents)

end Reference

/-! ## Looking up assemblies -/

namespace Compilation

/-- An assembly is that of one reference. -/
theorem IsBuilt.reference_unique {c : Compilation} (hc : c.IsBuilt) {q r : Reference}
    {a : Assembly} (hq : (q, a) ∈ c.referenced) (hr : (r, a) ∈ c.referenced) : q = r := by
  -- an assembly knows the position of its reference
  have hordinal : ∀ {k : Nat} {x : Reference}, c.referenced[k]? = some (x, a) →
      a.ordinal = k + 1 := by
    intro k x hk
    have hassembly : c.assemblies[k + 1]? = some a := by
      rw [assemblies, List.getElem?_cons_succ, List.getElem?_map, hk, Option.map_some]
    rw [hc.row.ordinal_eq hassembly, Nat.zero_add]
  obtain ⟨i, hi⟩ := List.mem_iff_getElem?.1 hq
  obtain ⟨j, hj⟩ := List.mem_iff_getElem?.1 hr
  obtain rfl : i = j := Nat.succ.inj ((hordinal hi).symm.trans (hordinal hj))
  rw [hi, Option.some.injEq, Prod.mk.injEq] at hj
  exact hj.1

/-- If an assembly is looked up for one reference, it is looked up for others with the same checksum
just where the texts of the paths are the same. -/
theorem IsBuilt.assemblyFor?_eq_iff {c : Compilation} (hc : c.IsBuilt) {r r' : Reference}
    {a : Assembly} (ha : c.assemblyFor? r = some a) (hchecksum : r.checksum = r'.checksum) :
    c.assemblyFor? r' = c.assemblyFor? r ↔ r'.path.text = r.path.text := by
  constructor
  · intro heq
    rw [ha] at heq
    -- both look-ups have come to the reference of one assembly
    obtain ⟨q, hq, htext⟩ := exists_of_assemblyFor? ha
    obtain ⟨q', hq', htext'⟩ := exists_of_assemblyFor? heq
    obtain rfl := hc.reference_unique hq hq'
    exact (Reference.sameText_iff.1 htext').1.symm.trans (Reference.sameText_iff.1 htext).1
  · intro htext
    have hkey : ∀ q : Reference, q.sameText r' = q.sameText r := fun q => by
      rw [Reference.sameText, Reference.sameText, htext, hchecksum]
    simp only [assemblyFor?, hkey]

/-- **Only the same spelling leads to the same assembly.** A readable reference has an assembly. A
reference with the same path, component by component, and the same checksum leads to this assembly
if and only if the texts of the paths are the same. All of them do only if the path is empty. -/
theorem assemblyFor?_eq_iff_text {id : CompilationId} {name : String}
    {documents : List (List Declaration)} {references : List Reference} {r : Reference}
    (hr : r ∈ references) (hreadable : r.image.isOk = true) :
    (∃ a, (build id name documents references).assemblyFor? r = some a) ∧
    (∀ r', r.sameAs r' = true →
      ((build id name documents references).assemblyFor? r' =
          (build id name documents references).assemblyFor? r ↔ r'.path.text = r.path.text)) ∧
    ((∀ r', r.sameAs r' = true →
        (build id name documents references).assemblyFor? r' =
          (build id name documents references).assemblyFor? r) ↔
      r.path.text = "") := by
  obtain ⟨a, ha⟩ : ∃ a, (build id name documents references).assemblyFor? r = some a :=
    exists_assemblyFor? hr hreadable
  have hspelling : ∀ r', r.sameAs r' = true →
      ((build id name documents references).assemblyFor? r' =
        (build id name documents references).assemblyFor? r ↔ r'.path.text = r.path.text) :=
    fun r' hsame => isBuilt_build.assemblyFor?_eq_iff ha (Reference.sameAs_iff.1 hsame).2
  refine ⟨⟨a, ha⟩, hspelling, ?_⟩
  rw [← Reference.forall_sameAs_text_eq_iff]
  exact forall₂_congr hspelling

/-- A reference at a path that declares a class. -/
def glyphReference (path : Path) : Reference :=
  .ofDeclarations path "Fonts" [⟨"Glyph", .classType, 0, false, false, []⟩]

theorem sameAs_glyphReference (p q : Path) :
    (glyphReference p).sameAs (glyphReference q) = p.sameAs q := by
  have hchecksum : (glyphReference p).checksum = (glyphReference q).checksum := rfl
  rw [Reference.sameAs, decide_eq_true hchecksum, Bool.and_true]
  rfl

theorem isOk_image_glyphReference (path : Path) : (glyphReference path).image.isOk = true := by
  rw [glyphReference, Reference.image_ofDeclarations path (by decide)]
  rfl

/-- Behind a reference that cannot be read, one that can has an assembly, and another spelling of
its path leads elsewhere. -/
theorem assemblyFor?_eq_iff_text_glyphReference :
    let references := [.ofBytes ⟨"broken.dll"⟩ [0x42], glyphReference ⟨"lib/fonts.dll"⟩]
    let c := build ⟨0⟩ "App" [] references
    (∃ a, c.assemblyFor? (glyphReference ⟨"lib/fonts.dll"⟩) = some a) ∧
      c.assemblyFor? (glyphReference ⟨"lib/./fonts.dll/"⟩) ≠
        c.assemblyFor? (glyphReference ⟨"lib/fonts.dll"⟩) := by
  intro references c
  have hmem : glyphReference ⟨"lib/fonts.dll"⟩ ∈ references :=
    List.mem_cons_of_mem _ List.mem_cons_self
  obtain ⟨hfound, hspelling, -⟩ :
      (∃ a, c.assemblyFor? (glyphReference ⟨"lib/fonts.dll"⟩) = some a) ∧
        (∀ r', (glyphReference ⟨"lib/fonts.dll"⟩).sameAs r' = true →
          (c.assemblyFor? r' = c.assemblyFor? (glyphReference ⟨"lib/fonts.dll"⟩) ↔
            r'.path.text = (glyphReference ⟨"lib/fonts.dll"⟩).path.text)) ∧ _ :=
    assemblyFor?_eq_iff_text hmem (isOk_image_glyphReference _)
  have hsame : (glyphReference ⟨"lib/fonts.dll"⟩).sameAs (glyphReference ⟨"lib/./fonts.dll/"⟩) =
      true := (sameAs_glyphReference _ _).trans (by decide)
  refine ⟨hfound, fun heq => absurd ((hspelling _ hsame).1 heq) ?_⟩
  decide

/-- References can be the same although just one of them leads to the assembly. -/
theorem assemblyFor?_misses_glyphReference :
    let c := build ⟨0⟩ "App" [] [glyphReference ⟨"lib/fonts.dll"⟩]
    (glyphReference ⟨"lib/fonts.dll"⟩).image.isOk = true ∧
      (glyphReference ⟨"lib/fonts.dll"⟩).sameAs (glyphReference ⟨"lib//fonts.dll"⟩) = true ∧
      (∃ a, c.assemblyFor? (glyphReference ⟨"lib/fonts.dll"⟩) = some a) ∧
      c.assemblyFor? (glyphReference ⟨"lib//fonts.dll"⟩) = none := by
  intro c
  refine ⟨isOk_image_glyphReference _, (sameAs_glyphReference _ _).trans (by decide),
    exists_assemblyFor? List.mem_cons_self (isOk_image_glyphReference _), ?_⟩
  rw [Option.eq_none_iff_forall_ne_some]
  intro a ha
  -- only a reference with the same text would do, and there is none
  obtain ⟨q, hq, htext⟩ := exists_of_assemblyFor? ha
  obtain rfl := List.mem_singleton.1 (readable_of_mem hq).1
  exact absurd (Reference.sameText_iff.1 htext).1 (by decide)

end Compilation

end SymbolSearch
