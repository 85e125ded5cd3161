import SymbolSearch.Index.Binary
import SymbolSearch.Proofs.Bytes.Codec
import SymbolSearch.Proofs.Files
import SymbolSearch.Proofs.Image
import SymbolSearch.Proofs.Index.Check
import SymbolSearch.Proofs.Index.Mirror

/-!
# Saved indexes

An index is read back from its binary form if its numbers fit 32 bits and its texts and tables 64
(`Index.decoder_encode`). The numbers of an index that is built of an image are positions in its
tables and counts of declarations, so they fit if the image has less than 2^32 declarations
(`Index.isEncodable_build`). Such an index also passes the check for loading
(`Index.isSound_build`), and so it comes back from its file as it was
(`Index.decode_encode_build`).

What is read back as the time of building is what the timestamp of this time names, which is
assumed to be the time itself.
-/

set_option autoImplicit false

namespace SymbolSearch

open SymbolSearch.Bytes

/-! ## Binary forms -/

/-- The numbers and the name of a node fit its binary form. -/
def IndexedDeclaration.IsEncodable (node : IndexedDeclaration) : Prop :=
  IsSizedText node.name ∧ node.ordinal < 2 ^ 32 ∧ ∀ p ∈ node.parent, p < 2 ^ 32

theorem IndexedDeclaration.reads_decoder :
    IndexedDeclaration.decoder.Reads IndexedDeclaration.encode IndexedDeclaration.IsEncodable := by
  rintro bytes ⟨name, kind, arity, ordinal, parent⟩ rest
  simp only [decoder, Decoder.bind_eq_ok_iff, Decoder.pure_eq_ok_iff, Decoder.reads_text _ _ _,
    Kind.reads_decoder _ _ _, Decoder.reads_word32 _ _ _,
    Decoder.reads_option Decoder.reads_word32 _ _ _, encode, List.append_assoc]
  constructor
  · rintro ⟨_, _, ⟨hname, rfl⟩, _, _, ⟨-, rfl⟩, arity, _, ⟨harity, rfl⟩, _, _, ⟨hordinal, rfl⟩,
      _, _, ⟨hparent, rfl⟩, heq, rfl⟩
    cases heq
    rw [UInt32.toNat_ofNat_of_lt' harity]
    exact ⟨⟨hname, hordinal, hparent⟩, rfl⟩
  · rintro ⟨⟨hname, hordinal, hparent⟩, rfl⟩
    refine ⟨_, _, ⟨hname, rfl⟩, _, _, ⟨trivial, rfl⟩, _, _, ⟨arity.toNat_lt, rfl⟩, _, _,
      ⟨hordinal, rfl⟩, _, _, ⟨hparent, rfl⟩, ?_, rfl⟩
    rw [UInt32.ofNat_toNat]

namespace Index

/-- No text of the index is too long to be written. -/
structure HasSizedTexts (index : Index) : Prop where
  checksum : IsSizedText index.checksum
  assemblyName : IsSizedText index.assemblyName
  timestamp : IsSizedText index.builtAt.timestamp
  names : ∀ node ∈ index.nodes.toList, IsSizedText node.name
  foldedNames : ∀ name ∈ index.foldedNames.toList, IsSizedText name

/-- The numbers, texts and tables of an index fit its binary form. -/
structure IsEncodable (index : Index) : Prop where
  version : index.version < 2 ^ 32
  texts : index.HasSizedTexts
  size_nodes : index.nodes.size < 2 ^ 64
  nodes : ∀ node ∈ index.nodes.toList, node.IsEncodable
  size_sorted : index.sorted.size < 2 ^ 64
  sorted : ∀ i ∈ index.sorted.toList, i < 2 ^ 32
  size_foldedNames : index.foldedNames.size < 2 ^ 64

variable {index : Index}

theorem timestampDecoder_encodeText {t : Time.Instant} (hsized : IsSizedText t.timestamp)
    (htime : Time.readTimestamp t.timestamp = .ok t) (rest : List UInt8) :
    timestampDecoder (encodeText t.timestamp ++ rest) = .ok (t, rest) := by
  rw [timestampDecoder, Decoder.bind_eq_ok_iff]
  refine ⟨t.timestamp, rest, (Decoder.reads_text _ _ _).2 ⟨hsized, rfl⟩, ?_⟩
  rw [htime]
  rfl

/-- An index is read back from its binary form, whatever comes after it. -/
theorem decoder_encode (h : index.IsEncodable)
    (htime : Time.readTimestamp index.builtAt.timestamp = .ok index.builtAt)
    (rest : List UInt8) : decoder (index.encode ++ rest) = .ok (index, rest) := by
  simp only [decoder, encode, Decoder.bind_eq_ok_iff, Decoder.pure_eq_ok_iff, List.append_assoc]
  refine ⟨_, _, (Decoder.reads_word32 _ _ _).2 ⟨h.version, rfl⟩,
    _, _, (Decoder.reads_text _ _ _).2 ⟨h.texts.checksum, rfl⟩,
    _, _, (Decoder.reads_text _ _ _).2 ⟨h.texts.assemblyName, rfl⟩,
    _, _, timestampDecoder_encodeText h.texts.timestamp htime _,
    _, _, (Decoder.reads_list IndexedDeclaration.reads_decoder _ _ _).2
      ⟨⟨h.size_nodes, h.nodes⟩, rfl⟩,
    _, _, (Decoder.reads_list Decoder.reads_word32 _ _ _).2 ⟨⟨h.size_sorted, h.sorted⟩, rfl⟩,
    _, _, (Decoder.reads_list Decoder.reads_text _ _ _).2
      ⟨⟨h.size_foldedNames, h.texts.foldedNames⟩, rfl⟩, rfl, rfl⟩

/-- A sound index of the current version is accepted when it is read back. -/
theorem decode_encode (h : index.IsEncodable) (hsound : index.IsSound)
    (hversion : index.version = currentVersion)
    (htime : Time.readTimestamp index.builtAt.timestamp = .ok index.builtAt) (path : Path)
    (rest : List UInt8) : decode path (index.encode ++ rest) = .ok index := by
  simp only [decode, decoder_encode h htime rest, hversion, ne_eq, not_true_eq_false, if_false,
    (fault?_eq_none_iff index).2 hsound]

/-- What is saved is loaded again if it can be decoded. -/
theorem load_of_leaves_save {path : Path} {files files' : Files}
    (h : (index.save path).Leaves files files') :
    files'.read path = .ok index.encode ∧ load files' path = decode path index.encode := by
  obtain ⟨_, -, h⟩ := h.exists_of_bind
  obtain ⟨_, hwrite, hrename⟩ := h.exists_of_bind
  have hread := FileAction.read_of_leaves_rename hwrite hrename
  exact ⟨hread, by rw [load, hread]⟩

/-! ## How large a table gets -/

/-- A property of a table and a number is kept by the builder if it is kept when one more
declaration is passed over, counted, or counted and added. -/
theorem addTrees_induction {motive : Nat → Table → Prop}
    (pass : ∀ n t, motive n t → motive (n + 1) t)
    (count : ∀ n t like, motive n t → motive (n + 1) (t.count like))
    (push : ∀ n t p name kind arity, motive n t → motive (n + 1)
      ⟨t.nodes ++ [⟨name, kind, arity, t.met.count ⟨p, name, kind, arity⟩, p⟩],
        ⟨p, name, kind, arity⟩ :: t.met⟩)
    (ds : List Declaration) : ∀ (p : Option Nat) (n : Nat) (t : Table), motive n t →
      motive (n + (Declaration.preorderList ds).length) (addTrees p ds t) := by
  -- a declaration that is passed over without its members is passed over with them
  have passMore : ∀ m n t, motive n t → motive (n + m) t := by
    intro m
    induction m with
    | zero => exact fun n t h => h
    | succ m ih => exact fun n t h => pass _ _ (ih n t h)
  induction ds using Declaration.forest_induction with
  | nil => exact fun p n t h => h
  | cons name kind arity implicit accessor children rest ihChildren ihRest =>
      intro p n t h
      have hlength : n + (Declaration.preorderList
            (⟨name, kind, arity, implicit, accessor, children⟩ :: rest)).length =
          n + 1 + (Declaration.preorderList children).length +
            (Declaration.preorderList rest).length := by
        rw [Declaration.preorderList_cons, List.length_cons, List.length_append]
        omega
      rw [hlength, addTrees_cons]
      apply ihRest
      cases hfind : (if kind.isNamespace then t.findNamespace? p name else none) with
      | some i =>
          have hkind : kind.isNamespace = true := by
            by_contra hne
            rw [if_neg hne] at hfind
            exact nomatch hfind
          rw [if_pos hkind] at hfind
          rw [addTree_found arity children hkind hfind]
          exact ihChildren _ _ _ (pass _ _ h)
      | none =>
          have hnew : kind.isNamespace = true → t.findNamespace? p name = none := by
            intro hkind
            rwa [if_pos hkind] at hfind
          cases hlisted : (!implicit && !accessor && kind.isDeclarable) with
          | false =>
              rw [addTree_skipped arity children hnew hlisted]
              exact passMore _ _ _ (count _ _ _ h)
          | true =>
              rw [addTree_pushed arity children hnew hlisted]
              exact ihChildren _ _ _ (push _ _ _ _ _ _ h)

/-- The table has at most `n` declarations, and its ordinals count some of those that were met. -/
structure Table.IsBounded (n : Nat) (t : Table) : Prop where
  met_le : t.met.length ≤ n
  nodes_le : t.nodes.length ≤ t.met.length
  ordinal_lt : ∀ node ∈ t.nodes, node.ordinal < t.met.length

theorem isBounded_addTrees (p : Option Nat) (ds : List Declaration) :
    (addTrees p ds ⟨[], []⟩).IsBounded (Declaration.preorderList ds).length := by
  have hempty : (⟨[], []⟩ : Table).IsBounded 0 :=
    ⟨Nat.le_refl 0, Nat.le_refl 0, fun _ h => absurd h List.not_mem_nil⟩
  have hrun := addTrees_induction (motive := Table.IsBounded) ?_ ?_ ?_ ds p 0 _ hempty
  · rwa [Nat.zero_add] at hrun
  · intro n t h
    exact ⟨Nat.le_succ_of_le h.met_le, h.nodes_le, h.ordinal_lt⟩
  · intro n t like h
    exact ⟨Nat.succ_le_succ h.met_le, Nat.le_succ_of_le h.nodes_le,
      fun node hnode => Nat.lt_succ_of_lt (h.ordinal_lt node hnode)⟩
  · intro n t p name kind arity h
    refine ⟨Nat.succ_le_succ h.met_le, by simpa using h.nodes_le, fun node hnode => ?_⟩
    rcases List.mem_append.1 hnode with hnode | hnode
    · exact Nat.lt_succ_of_lt (h.ordinal_lt node hnode)
    · rw [List.mem_singleton.1 hnode]
      exact Nat.lt_succ_of_le List.count_le_length

/-! ## Indexes that are built -/

section Build

variable (image : Image) (checksum : String) (builtAt : Time.Instant)

theorem isSound_build : (build image checksum builtAt).IsSound where
  size_foldedNames := by simp [build]
  parent_lt := by
    obtain ⟨images, h⟩ := mirrors_addTrees (g := ⟨⟨0⟩, some 0, .global 0, []⟩) ⟨rfl, rfl⟩
      image.declarations [] ⟨[], []⟩ [] none _ Assembly.Grown.empty (mirrors_nil _) rfl
    intro i node p hnode
    simp only [build, List.getElem?_toArray] at hnode
    exact h.parent_lt i node p hnode
  isOrdered := isOrdered_build image checksum builtAt

variable {image checksum builtAt}

theorem isEncodable_build (hcount : (Declaration.preorderList image.declarations).length < 2 ^ 32)
    (htexts : (build image checksum builtAt).HasSizedTexts) :
    (build image checksum builtAt).IsEncodable := by
  have hsound := isSound_build image checksum builtAt
  have hbounded := isBounded_addTrees none image.declarations
  have hsize : (build image checksum builtAt).nodes.size < 2 ^ 32 :=
    Nat.lt_of_le_of_lt (hbounded.nodes_le.trans hbounded.met_le) hcount
  obtain ⟨hsorted, hrange, -⟩ := perm_range_iff.1 hsound.isOrdered.perm
  rw [Array.length_toList] at hsorted
  refine ⟨by simp [build, currentVersion], htexts, by omega, fun node hnode => ?_, by omega,
    fun i hi => ?_, ?_⟩
  · refine ⟨htexts.names node hnode, ?_, fun p hp => ?_⟩
    · have hordinal := hbounded.ordinal_lt node hnode
      have hmet := hbounded.met_le
      omega
    · -- a parent comes before its node
      obtain ⟨i, hi⟩ := List.mem_iff_getElem?.1 hnode
      rw [Array.getElem?_toList] at hi
      have hlt := hsound.parent_lt i node p hi hp
      have hsize' := (Array.getElem?_eq_some_iff.1 hi).1
      omega
  · have hlt := hrange i hi
    omega
  · rw [hsound.size_foldedNames]
    omega

/-- **An index that is built and saved is loaded as it was.** Its binary form is decoded to the
same index and accepted, whatever bytes come after it, and this is what the file holds after
saving. -/
theorem decode_encode_build
    (hcount : (Declaration.preorderList image.declarations).length < 2 ^ 32)
    (htexts : (build image checksum builtAt).HasSizedTexts)
    (htime : Time.readTimestamp builtAt.timestamp = .ok builtAt) (path : Path) :
    (∀ rest, decode path ((build image checksum builtAt).encode ++ rest) =
        .ok (build image checksum builtAt)) ∧
      ∀ files files', ((build image checksum builtAt).save path).Leaves files files' →
        files'.read path = .ok (build image checksum builtAt).encode ∧
          load files' path = .ok (build image checksum builtAt) := by
  have hdecode := decode_encode (isEncodable_build hcount htexts)
    (isSound_build image checksum builtAt) rfl htime path
  refine ⟨hdecode, fun files files' hsave => ?_⟩
  obtain ⟨hread, hload⟩ := load_of_leaves_save hsave
  refine ⟨hread, ?_⟩
  rw [hload, ← List.append_nil (encode _)]
  exact hdecode []

/-- An image that declares a namespace twice, with an accessor and an overload in it. -/
def reopenedImage : Image := .new "Net"
  [⟨"Net", .nameSpace, 0, false, false, [⟨"Client", .classType, 0, false, false,
      [⟨"Send", .method, 0, false, true, []⟩, ⟨"Send", .method, 0, false, false, []⟩]⟩]⟩,
    ⟨"Net", .nameSpace, 0, false, false, [⟨"Alias", .alias, 0, false, false, []⟩,
      ⟨"Größe", .structType, 1, false, false, []⟩]⟩]

/-- The index of the image is saved in a new directory and loaded again, and bytes after its binary
form do no harm. -/
theorem decode_encode_build_reopenedImage :
    (∃ files, ((build reopenedImage "ab" ⟨0, 0⟩).save ⟨"cache/net.idx"⟩).Leaves .empty files ∧
      load files ⟨"cache/net.idx"⟩ = .ok (build reopenedImage "ab" ⟨0, 0⟩)) ∧
    decode ⟨"cache/net.idx"⟩ ((build reopenedImage "ab" ⟨0, 0⟩).encode ++ [7]) =
      .ok (build reopenedImage "ab" ⟨0, 0⟩) := by
  have htexts : (build reopenedImage "ab" ⟨0, 0⟩).HasSizedTexts :=
    ⟨by decide, by decide, by decide, by decide, by decide⟩
  have htime : Time.readTimestamp (⟨0, 0⟩ : Time.Instant).timestamp = .ok ⟨0, 0⟩ := rfl
  obtain ⟨hdecode, hsaved⟩ := decode_encode_build (by decide) htexts htime ⟨"cache/net.idx"⟩
  -- saving makes the directory, writes the file beside and moves it
  have hsave : ∃ files,
      ((build reopenedImage "ab" ⟨0, 0⟩).save ⟨"cache/net.idx"⟩).Leaves .empty files := ⟨_, rfl⟩
  obtain ⟨files, hfiles⟩ := hsave
  exact ⟨⟨files, hfiles, (hsaved .empty files hfiles).2⟩, hdecode [7]⟩

end Build

end Index

end SymbolSearch
