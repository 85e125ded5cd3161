import SymbolSearch.Proofs.Bytes.Codec
import SymbolSearch.Proofs.Declaration
import SymbolSearch.Reference

/-!
# The binary form of an image

The binary form of an image is a prefix code: an image is read back from its bytes whatever comes
after them, and bytes that an image is read from begin with the bytes of this image. The only
condition is on lengths, which are written in 64 bits (`Image.IsSized`).

A reader of a tree gets a number of levels that grows with the input. This is enough, since a tree
has at most as many levels as its binary form has bytes (`Declaration.depthOfEach_le_length`).
-/

set_option autoImplicit false

namespace SymbolSearch

open SymbolSearch.Bytes

/-! ## Kinds -/

namespace Kind

theorem all_getElem?_number (kind : Kind) : all[kind.number]? = some kind := by
  cases kind with
  | _ => rfl

/-- A kind stands at the position that is its number. -/
theorem all_getElem?_eq_some_iff {n : Nat} {kind : Kind} :
    all[n]? = some kind ↔ n = kind.number := by
  constructor
  · intro h
    have hlt : n < all.length := (List.getElem?_eq_some_iff.1 h).1
    have hnodup : all.Nodup := by decide
    exact (List.getElem?_inj hlt hnodup).1 (h.trans (all_getElem?_number kind).symm)
  · rintro rfl
    exact all_getElem?_number kind

theorem number_lt (kind : Kind) : kind.number < 2 ^ 32 := by
  cases kind with
  | _ => decide

theorem reads_decoder : decoder.Reads encode fun _ => True := by
  intro bytes kind rest
  simp only [decoder, Decoder.bind_eq_ok_iff, Decoder.reads_word32 _ _ _, encode, true_and]
  constructor
  · rintro ⟨n, more, ⟨-, rfl⟩, h⟩
    cases hkind : all[n]? with
    | none =>
        rw [hkind] at h
        exact absurd h Decoder.fail_ne_ok
    | some found =>
        rw [hkind] at h
        obtain ⟨rfl, rfl⟩ := Decoder.pure_eq_ok_iff.1 h
        rw [all_getElem?_eq_some_iff.1 hkind]
  · rintro rfl
    refine ⟨kind.number, rest, ⟨kind.number_lt, rfl⟩, ?_⟩
    rw [all_getElem?_number]
    rfl

end Kind

/-! ## Declarations -/

namespace Declaration

mutual

/-- The number of levels of a tree. -/
def depth : Declaration → Nat
  | ⟨_, _, _, _, _, children⟩ => depthOfEach children + 1

/-- The largest number of levels of some trees. -/
def depthOfEach : List Declaration → Nat
  | [] => 0
  | d :: ds => max (depth d) (depthOfEach ds)

end

theorem depthOfEach_le_iff {ds : List Declaration} {n : Nat} :
    depthOfEach ds ≤ n ↔ ∀ d ∈ ds, d.depth ≤ n := by
  induction ds with
  | nil => simp [depthOfEach]
  | cons d ds ih => rw [depthOfEach, Nat.max_le, ih, List.forall_mem_cons]

/-- Every level takes some bytes. -/
theorem depthOfEach_le_length (ds : List Declaration) :
    depthOfEach ds ≤ (encodeEach ds).length := by
  induction ds using forest_induction with
  | nil => exact Nat.le_refl 0
  | cons name kind arity implicit accessor children rest ihChildren ihRest =>
      have hflag : (encodeBool implicit).length = 1 := rfl
      simp only [depthOfEach, depth, encodeEach, encode, List.length_append]
      omega

/-- The name and the list of children are not too long to be written. -/
def IsSized (d : Declaration) : Prop := IsSizedText d.name ∧ d.children.length < 2 ^ 64

instance (d : Declaration) : Decidable d.IsSized := inferInstanceAs (Decidable (_ ∧ _))

theorem encodeEach_eq_flatMap (ds : List Declaration) : encodeEach ds = ds.flatMap encode := by
  induction ds with
  | nil => rfl
  | cons d ds ih => rw [encodeEach, ih, List.flatMap_cons]

/-- A reader with enough levels reads the trees in which nothing is too long. -/
theorem reads_decoderOfLevels (levels : Nat) :
    (decoderOfLevels levels).Reads encode fun d =>
      d.depth ≤ levels ∧ ∀ e ∈ d.preorder, e.IsSized := by
  induction levels with
  | zero =>
      rintro bytes ⟨name, kind, arity, implicit, accessor, children⟩ rest
      constructor
      · intro h
        exact absurd h Decoder.fail_ne_ok
      · rintro ⟨⟨hdepth, -⟩, -⟩
        exact absurd hdepth (Nat.not_succ_le_zero _)
  | succ levels ih =>
      rintro bytes ⟨name, kind, arity, implicit, accessor, children⟩ rest
      -- the children have one level less
      have hchildren : (depth ⟨name, kind, arity, implicit, accessor, children⟩ ≤ levels + 1 ∧
            ∀ e ∈ preorder ⟨name, kind, arity, implicit, accessor, children⟩, e.IsSized) ↔
          IsSizedText name ∧ children.length < 2 ^ 64 ∧
            ∀ c ∈ children, c.depth ≤ levels ∧ ∀ e ∈ c.preorder, e.IsSized := by
        simp only [depth, preorder, Nat.add_le_add_iff_right, depthOfEach_le_iff,
          preorderList_eq_flatMap, List.forall_mem_cons, List.forall_mem_flatMap, IsSized,
          forall_and]
        tauto
      simp only [hchildren, decoderOfLevels, Decoder.bind_eq_ok_iff, Decoder.pure_eq_ok_iff,
        Decoder.reads_text _ _ _, Kind.reads_decoder _ _ _, Decoder.reads_word32 _ _ _,
        Decoder.reads_bool _ _ _, Decoder.reads_list ih _ _ _, encode, encodeEach_eq_flatMap,
        List.append_assoc, encodeList]
      constructor
      · rintro ⟨_, _, ⟨hname, rfl⟩, _, _, ⟨-, rfl⟩, arity, _, ⟨harity, rfl⟩, _, _, ⟨-, rfl⟩, _, _,
          ⟨-, rfl⟩, _, _, ⟨hsized, rfl⟩, heq, rfl⟩
        cases heq
        rw [UInt32.toNat_ofNat_of_lt' harity]
        exact ⟨⟨hname, hsized⟩, rfl⟩
      · rintro ⟨⟨hname, hsized⟩, rfl⟩
        refine ⟨_, _, ⟨hname, rfl⟩, _, _, ⟨trivial, rfl⟩, _, _, ⟨arity.toNat_lt, rfl⟩, _, _,
          ⟨trivial, rfl⟩, _, _, ⟨trivial, rfl⟩, _, _, ⟨hsized, rfl⟩, ?_, rfl⟩
        rw [UInt32.ofNat_toNat]

theorem reads_listDecoder :
    listDecoder.Reads (encodeList encode) fun ds =>
      ds.length < 2 ^ 64 ∧ ∀ d ∈ preorderList ds, d.IsSized := by
  intro bytes ds rest
  simp only [listDecoder, Decoder.reads_list (reads_decoderOfLevels (bytes.length + 1)) _ _ _,
    preorderList_eq_flatMap, List.forall_mem_flatMap]
  constructor
  · rintro ⟨⟨hlength, hvalid⟩, rfl⟩
    exact ⟨⟨hlength, fun d hd => (hvalid d hd).2⟩, rfl⟩
  · rintro ⟨⟨hlength, hvalid⟩, rfl⟩
    refine ⟨⟨hlength, fun d hd => ⟨?_, hvalid d hd⟩⟩, rfl⟩
    have hdepth := depthOfEach_le_iff.1 (depthOfEach_le_length ds) d hd
    rw [encodeEach_eq_flatMap] at hdepth
    simp only [encodeList, List.length_append]
    omega

end Declaration

/-! ## Images -/

namespace Image

/-- No text and no list in the image is too long to be written. -/
def IsSized (image : Image) : Prop :=
  IsSizedText image.assemblyName ∧ image.declarations.length < 2 ^ 64 ∧
    ∀ d ∈ Declaration.preorderList image.declarations, d.IsSized

instance (image : Image) : Decidable image.IsSized := inferInstanceAs (Decidable (_ ∧ _))

theorem reads_decoder : decoder.Reads encode IsSized := by
  rintro bytes ⟨format, assemblyName, declarations⟩ rest
  simp only [decoder, Decoder.bind_eq_ok_iff, Decoder.pure_eq_ok_iff, Decoder.reads_text _ _ _,
    Decoder.reads_word32 _ _ _, Declaration.reads_listDecoder _ _ _, encode,
    Declaration.encodeEach_eq_flatMap, encodeList, List.append_assoc]
  constructor
  · rintro ⟨_, _, ⟨hformat, rfl⟩, _, _, ⟨hname, rfl⟩, _, _, ⟨hsized, rfl⟩, heq, rfl⟩
    cases heq
    rw [UInt32.toNat_ofNat_of_lt' hformat]
    exact ⟨⟨hname, hsized⟩, rfl⟩
  · rintro ⟨⟨hname, hsized⟩, rfl⟩
    refine ⟨_, _, ⟨format.toNat_lt, rfl⟩, _, _, ⟨hname, rfl⟩, _, _, ⟨hsized, rfl⟩, ?_, rfl⟩
    rw [UInt32.ofNat_toNat]

/-- Reading an image is reading its fields and checking the marker. -/
theorem decode_eq_ok {bytes : List UInt8} {image : Image} :
    decode bytes = .ok image ↔
      image.format = formatMarker ∧ ∃ rest, decoder bytes = .ok (image, rest) := by
  rw [decode]
  cases h : decoder bytes with
  | error fault =>
      constructor
      · exact nofun
      · rintro ⟨-, rest, hok⟩
        exact nomatch hok
  | ok result =>
      obtain ⟨found, rest⟩ := result
      by_cases hformat : found.format = formatMarker
      · simp only [hformat, if_true, Except.ok.injEq, Prod.mk.injEq]
        constructor
        · rintro rfl
          exact ⟨hformat, rest, rfl, rfl⟩
        · rintro ⟨-, _, heq, -⟩
          exact heq
      · simp only [hformat, if_false, reduceCtorEq, Except.ok.injEq, Prod.mk.injEq, false_iff]
        rintro ⟨hmarker, _, rfl, -⟩
        exact hformat hmarker

/-- **The binary form of an image is a prefix code**: an image is read from the bytes that begin
with its binary form, and from no others. -/
theorem decode_eq_ok_iff (bytes : List UInt8) (image : Image) :
    decode bytes = .ok image ↔
      image.format = formatMarker ∧ image.IsSized ∧ ∃ rest, bytes = image.encode ++ rest := by
  simp only [decode_eq_ok, reads_decoder _ _ _, exists_and_left]

/-- An image with members of a type inside of a namespace. -/
def clientImage : Image := .new "Net"
  [⟨"Net", .nameSpace, 0, false, false, [⟨"Client", .classType, 1, false, false,
    [⟨"T", .typeParameter, 0, false, false, []⟩, ⟨"Größe", .property, 0, false, false, []⟩,
      ⟨"get_Größe", .method, 0, false, true, []⟩]⟩]⟩]

/-- The image is read back from its bytes, with other bytes after them. -/
theorem decode_eq_ok_iff_clientImage :
    decode (clientImage.encode ++ [1, 0, 255]) = .ok clientImage :=
  (decode_eq_ok_iff _ _).2 ⟨rfl, by decide, [1, 0, 255], rfl⟩

end Image

/-- A reference that is made of declarations can be read. -/
theorem Reference.image_ofDeclarations (path : Path) {assemblyName : String}
    {declarations : List Declaration} (h : (Image.new assemblyName declarations).IsSized) :
    (ofDeclarations path assemblyName declarations).image =
      .ok (.new assemblyName declarations) := by
  have hbytes : (Image.new assemblyName declarations).encode =
      (Image.new assemblyName declarations).encode ++ [] := (List.append_nil _).symm
  have hdecode : Image.decode (Image.new assemblyName declarations).encode =
      .ok (.new assemblyName declarations) :=
    Image.decode_eq_ok.2 ⟨rfl, [], (Image.reads_decoder _ _ _).2 ⟨h, hbytes⟩⟩
  change inContext _ (Image.decode (Image.new assemblyName declarations).encode) = _
  rw [hdecode]
  rfl

end SymbolSearch
