import SymbolSearch.Proofs.Collect
import SymbolSearch.Proofs.Index.Obtain
import SymbolSearch.Proofs.Index.Search
import SymbolSearch.Proofs.Normalization
import Mathlib.Data.List.Flatten

/-!
# Finding all declarations

`findAll` goes through the source, then the index of each reference, replaces namespaces by
merged ones and drops repetitions. What it finds apart from namespaces is just the list of
matches in the source and in each reference (`findAll_eq_matches`): symbols that are no
namespaces are kept by the replacement, and as all symbols of a compilation have numbers of
their own, none of them is dropped.

The compilation may have been kept from before the project got its last references. Those have no
assembly in it and are passed over, as unreadable ones are (`Compilation.Covers`).
-/

set_option autoImplicit false

namespace SymbolSearch

open Search

variable {κ : Type}

/-! ## Repetitions -/

theorem of_mem_distinctAfter {l : List Symbol} {seen : List Symbol} {s : Symbol}
    (hs : s ∈ distinctAfter seen l) : s ∈ l ∧ ∀ t ∈ seen, s.sameAs t = false := by
  induction l generalizing seen with
  | nil => exact absurd hs List.not_mem_nil
  | cons a l ih =>
      rw [distinctAfter] at hs
      split at hs
      next =>
        obtain ⟨hmem, hnew⟩ := ih hs
        exact ⟨List.mem_cons_of_mem _ hmem, hnew⟩
      next hfirst =>
        -- the first one is kept because nothing seen is the same
        rcases List.mem_cons.1 hs with rfl | hs
        · refine ⟨List.mem_cons_self, fun t ht => ?_⟩
          rw [Bool.eq_false_iff]
          exact fun hsame => hfirst (List.any_eq_true.2 ⟨t, ht, hsame⟩)
        · obtain ⟨hmem, hnew⟩ := ih hs
          exact ⟨List.mem_cons_of_mem _ hmem, fun t ht => hnew t (List.mem_cons_of_mem _ ht)⟩

theorem pairwise_distinctAfter (l seen : List Symbol) :
    (distinctAfter seen l).Pairwise fun s t => s.sameAs t = false := by
  induction l generalizing seen with
  | nil => exact List.Pairwise.nil
  | cons a l ih =>
      rw [distinctAfter]
      split
      next => exact ih seen
      next =>
        -- what is kept later has `a` among the seen ones
        refine List.Pairwise.cons ?_ (ih (a :: seen))
        intro t ht
        rw [Symbol.sameAs_comm]
        exact (of_mem_distinctAfter ht).2 a List.mem_cons_self

/-- Dropping repetitions keeps all symbols of a sort that never occur again. -/
theorem filter_distinctAfter (keep : Symbol → Bool) (l seen : List Symbol)
    (hl : l.Pairwise fun s t => keep s = true ∨ keep t = true → s.sameAs t = false)
    (hseen : ∀ s ∈ l, keep s = true → ∀ t ∈ seen, s.sameAs t = false) :
    (distinctAfter seen l).filter keep = l.filter keep := by
  induction l generalizing seen with
  | nil => rfl
  | cons a l ih =>
      rw [List.pairwise_cons] at hl
      rw [distinctAfter]
      split
      next hany =>
        obtain ⟨t, ht, hsame⟩ := List.any_eq_true.1 hany
        -- a repetition is dropped, so it is none of the symbols to keep
        have ha : ¬ keep a = true := by
          intro hkeep
          rw [hseen a List.mem_cons_self hkeep t ht] at hsame
          exact Bool.noConfusion hsame
        rw [List.filter_cons_of_neg ha]
        exact ih seen hl.2 fun s hs => hseen s (List.mem_cons_of_mem _ hs)
      next =>
        have hrest : (distinctAfter (a :: seen) l).filter keep = l.filter keep := by
          apply ih (a :: seen) hl.2
          intro s hs hkeep t ht
          rcases List.mem_cons.1 ht with rfl | ht
          · rw [Symbol.sameAs_comm]
            exact hl.1 s hs (Or.inr hkeep)
          · exact hseen s (List.mem_cons_of_mem _ hs) hkeep t ht
        rw [List.filter_cons, List.filter_cons, hrest]

/-! ## Merged namespaces in the place of others -/

namespace Compilation

namespace IsBuilt

variable {c : Compilation}

/-- Replacing keeps a symbol of an assembly unless there is a merged namespace for it. -/
theorem normalized_cases (h : c.IsBuilt) {s : Symbol}
    (hs : s ∈ c.assemblies.flatMap Assembly.symbols) :
    (c.canonical? s = none ∧ c.normalized s = s) ∨
    (s.kind.isNamespace = true ∧ ∃ t, c.merged.find? s.qualifiedName = some t ∧
      c.normalized s = t) := by
  cases hkind : s.kind.isNamespace with
  | false =>
      have hnone : c.canonical? s = none := canonical?_of_other hkind
      exact Or.inl ⟨hnone, normalized_of_none hnone⟩
  | true =>
      have hcanonical := h.canonical?_eq_find? hs hkind
      -- namespaces nested in types need not have a merged namespace
      cases hfind : c.merged.find? s.qualifiedName with
      | none =>
          rw [hfind] at hcanonical
          exact Or.inl ⟨hcanonical, normalized_of_none hcanonical⟩
      | some t =>
          -- merged namespaces are numbered after all declared symbols
          have hne : t.sameAs s = false := by
            have hlt := h.row.lt_nextIdAfter hs
            have hle := (h.of_find?_merged hfind).2.2.2
            have hid : t.id ≠ s.id := by omega
            simp [Symbol.sameAs, hid]
          rw [hfind] at hcanonical
          exact Or.inr ⟨rfl, t, rfl, by simp [normalized_of_canonical hcanonical, hne]⟩

/-- Replacing keeps the symbols that are no namespaces. -/
theorem filter_normalize (h : c.IsBuilt) {found : List Symbol}
    (hfound : ∀ s ∈ found, s ∈ c.assemblies.flatMap Assembly.symbols) :
    (c.normalize found).filter (fun x => !x.kind.isNamespace) =
      found.filter fun x => !x.kind.isNamespace := by
  have hkind : ∀ s ∈ found, (!(c.normalized s).kind.isNamespace) = !s.kind.isNamespace := by
    intro s hs
    rcases h.normalized_cases (hfound s hs) with ⟨-, heq⟩ | ⟨hns, t, hfind, heq⟩
    · rw [heq]
    · rw [heq, hns, (h.of_find?_merged hfind).2.2.1]
      rfl
  have hfix : ∀ s ∈ found.filter (fun x => !x.kind.isNamespace), c.normalized s = s := by
    intro s hs
    obtain ⟨hmem, hother⟩ := List.mem_filter.1 hs
    rcases h.normalized_cases (hfound s hmem) with ⟨-, heq⟩ | ⟨hns, -⟩
    · exact heq
    · rw [hns] at hother
      exact Bool.noConfusion hother
  -- replacing a symbol does not change whether it is a namespace
  have hcomp : found.filter ((fun x => !x.kind.isNamespace) ∘ c.normalized) =
      found.filter fun x => !x.kind.isNamespace := List.filter_congr hkind
  rw [normalize, List.filter_map, hcomp, List.map_congr_left hfix, List.map_id']

/-- After replacing, a symbol that is no namespace still occurs once. -/
theorem pairwise_normalize (h : c.IsBuilt) {found : List Symbol}
    (hfound : found.Sublist (c.assemblies.flatMap Assembly.symbols)) :
    (c.normalize found).Pairwise fun s t =>
      (!s.kind.isNamespace) = true ∨ (!t.kind.isNamespace) = true → s.sameAs t = false := by
  have hnodup : (found.map Symbol.id).Nodup := h.row.nodup_id.sublist (hfound.map _)
  rw [List.Nodup, List.pairwise_map] at hnodup
  rw [normalize, List.pairwise_map]
  refine hnodup.imp_of_mem fun {s t} hs ht hne hkeep => ?_
  have hslt := h.row.lt_nextIdAfter (hfound.subset hs)
  have htlt := h.row.lt_nextIdAfter (hfound.subset ht)
  -- at most one of the two is replaced, and the numbers of both kinds are apart
  have hdiffer : (c.normalized s).id ≠ (c.normalized t).id := by
    rcases h.normalized_cases (hfound.subset hs) with ⟨-, heqs⟩ | ⟨-, u, hu, heqs⟩ <;>
      rcases h.normalized_cases (hfound.subset ht) with ⟨-, heqt⟩ | ⟨-, v, hv, heqt⟩ <;>
      rw [heqs, heqt]
    · exact hne
    · have hle := (h.of_find?_merged hv).2.2.2
      omega
    · have hle := (h.of_find?_merged hu).2.2.2
      omega
    · -- both are replaced by namespaces
      rw [heqs, heqt, (h.of_find?_merged hu).2.2.1, (h.of_find?_merged hv).2.2.1] at hkeep
      simp [Kind.isNamespace] at hkeep
  simp [Symbol.sameAs, hdiffer]

/-- What replacing and dropping repetitions make of symbols of the assemblies that are listed
once: a list without repetitions of symbols of the compilation, in which each namespace stands
for itself or has no merged namespace, with all that are no namespaces in the order they had. -/
theorem distinct_normalize (h : c.IsBuilt) {found : List Symbol}
    (hfound : found.Sublist (c.assemblies.flatMap Assembly.symbols)) :
    (distinct (c.normalize found)).Pairwise (fun x y => x.sameAs y = false) ∧
    (∀ x ∈ distinct (c.normalize found), c.owns x = true) ∧
    (∀ n ∈ distinct (c.normalize found), n.kind.isNamespace = true →
      c.canonical? n = some n ∨ c.canonical? n = none) ∧
    (distinct (c.normalize found)).filter (fun x => !x.kind.isNamespace) =
      found.filter fun x => !x.kind.isNamespace := by
  -- every symbol of the result is one of the found symbols or the merged namespace of one
  have hresult : ∀ x ∈ distinct (c.normalize found),
      ∃ s ∈ c.assemblies.flatMap Assembly.symbols, c.normalized s = x := by
    intro x hx
    obtain ⟨s, hs, hnormalized⟩ := List.mem_map.1 (of_mem_distinctAfter hx).1
    exact ⟨s, hfound.subset hs, hnormalized⟩
  refine ⟨pairwise_distinctAfter _ _, ?_, ?_, ?_⟩
  · intro x hx
    obtain ⟨s, hs, rfl⟩ := hresult x hx
    rcases h.normalized_cases hs with ⟨-, heq⟩ | ⟨-, t, hfind, heq⟩
    · simp [heq, owns, (h.row.owner hs).1]
    · simp [heq, owns, (h.of_find?_merged hfind).1]
  · intro n hn _
    obtain ⟨s, hs, rfl⟩ := hresult n hn
    rcases h.normalized_cases hs with ⟨hnone, heq⟩ | ⟨-, t, hfind, heq⟩
    · rw [heq]
      exact Or.inr hnone
    · rw [heq]
      exact Or.inl (h.canonical?_merged hfind)
  · rw [distinct, filter_distinctAfter _ _ _ (h.pairwise_normalize hfound)
      (fun _ _ _ _ ht => absurd ht List.not_mem_nil)]
    exact h.filter_normalize fun s hs => hfound.subset hs

end IsBuilt

end Compilation

/-! ## Going through the references -/

section References

variable {query : Query} {filter : Filter} {indexed : List Reference}

/-- Collecting for a reference appends what an index of its image finds. -/
theorem returns_collectMetadata_of_obtained {s s' : Session κ} (hquery : query.kind ≠ .custom)
    (hs' : s'.token = .live) {r : Reference} {image : Image} {checksum : String}
    {builtAt : Time.Instant}
    (hobtain : Returns (obtainIndex r false) s (some (Index.build image checksum builtAt)) s')
    (id : CompilationId) (ordinal : Nat) (name : String) (origin : Origin) (firstId : Nat)
    (earlier : List Symbol) :
    Returns
      (collectMetadata (Assembly.build id ordinal name origin firstId image.declarations)
        (some r) query filter earlier) s
      (earlier ++ (Assembly.build id ordinal name origin firstId
        image.declarations).listedMatches query filter) s' := by
  have hfind := Index.returns_find image checksum builtAt id ordinal name origin firstId query
    filter hs'
  refine Collector.returns_onto_search_bind (returns_refuseCustom hquery)
    (Collector.returns_onto_search_bind hobtain (Collector.returns_onto_search_bind hfind ?_))
  exact Collector.returns_onto_append _ earlier s'

/-- Without a directory for stored indexes, collecting works for every readable reference. -/
theorem returns_collectMetadata {s : Session κ} (hquery : query.kind ≠ .custom)
    (hs : s.token = .live) (hdirectory : s.indexes.config.indexDirectory = none)
    (hbuilt : s.indexes.IsBuiltFrom indexed) (htell : ChecksumsTell indexed) {r : Reference}
    (hr : r ∈ indexed) {image : Image} (himage : r.image = .ok image) (id : CompilationId)
    (ordinal : Nat) (name : String) (origin : Origin) (firstId : Nat) (earlier : List Symbol) :
    ∃ s', Returns
        (collectMetadata (Assembly.build id ordinal name origin firstId image.declarations)
          (some r) query filter earlier) s
        (earlier ++ (Assembly.build id ordinal name origin firstId
          image.declarations).listedMatches query filter) s' ∧
      s.OnlyIndexesChange s' ∧ s'.indexes.IsBuiltFrom indexed := by
  obtain ⟨builtAt, s', hobtain, hchange, hbuilt'⟩ :=
    returns_obtainIndex hs hdirectory hbuilt htell hr himage
  have hlive : s'.token = .live := by rw [hchange.token, hs]
  exact ⟨s', returns_collectMetadata_of_obtained hquery hlive hobtain id ordinal name origin firstId
    earlier, hchange, hbuilt'⟩

/-- What the index of a reference finds in the assembly of the reference, if it has one. -/
def Compilation.referenceMatches (c : Compilation) (query : Query) (filter : Filter)
    (r : Reference) : List Symbol :=
  match c.assemblyFor? r with
  | some a => a.listedMatches query filter
  | none => []

/-- The references are gone through in turn. The indexes in memory still come from the same
references afterwards. -/
theorem returns_collectReferences {c : Compilation} (hquery : query.kind ≠ .custom)
    (htell : ChecksumsTell indexed) (rs : List Reference) (hrs : ∀ r ∈ rs, r ∈ indexed)
    (hassembly : ∀ r ∈ rs, ∀ a, c.assemblyFor? r = some a →
      ∃ image id ordinal name origin firstId, r.image = .ok image ∧
        a = Assembly.build id ordinal name origin firstId image.declarations) :
    ∀ (s : Session κ) (found : List Symbol), s.token = .live →
      s.indexes.config.indexDirectory = none → s.indexes.IsBuiltFrom indexed →
      ∃ s', Returns (collectReferences c query filter rs found) s
          (found ++ rs.flatMap (c.referenceMatches query filter)) s' ∧
        s.OnlyIndexesChange s' ∧ s'.indexes.IsBuiltFrom indexed := by
  induction rs with
  | nil =>
      intro s found _ _ hbuilt
      refine ⟨s, ?_, .refl s, hbuilt⟩
      rw [List.flatMap_nil, List.append_nil]
      exact returns_pure found
  | cons r rs ih =>
      intro s found hs hdirectory hbuilt
      have hrest := ih (fun r' hr' => hrs r' (List.mem_cons_of_mem _ hr'))
        fun r' hr' => hassembly r' (List.mem_cons_of_mem _ hr')
      cases hfor : c.assemblyFor? r with
      | none =>
          have hnone : c.referenceMatches query filter r = [] := by
            simp [Compilation.referenceMatches, hfor]
          rw [List.flatMap_cons, hnone, List.nil_append]
          simp only [collectReferences, hfor]
          exact hrest s found hs hdirectory hbuilt
      | some a =>
          have hsome : c.referenceMatches query filter r = a.listedMatches query filter := by
            simp [Compilation.referenceMatches, hfor]
          obtain ⟨image, id, ordinal, name, origin, firstId, himage, rfl⟩ :=
            hassembly r List.mem_cons_self a hfor
          -- the index may be remembered now, so the next reference starts from another session
          obtain ⟨s₁, hfirst, hchange₁, hbuilt₁⟩ := returns_collectMetadata hquery hs hdirectory
            hbuilt htell (hrs r List.mem_cons_self) himage id ordinal name origin firstId found
          obtain ⟨s₂, hothers, hchange₂, hbuilt₂⟩ := hrest s₁ _ (by rw [hchange₁.token, hs])
            (by rw [hchange₁.config, hdirectory]) hbuilt₁
          refine ⟨s₂, ?_, hchange₁.trans hchange₂, hbuilt₂⟩
          rw [List.flatMap_cons, hsome, ← List.append_assoc]
          simp only [collectReferences, hfor]
          exact hfirst.bind hothers

theorem flatMap_filter_eq {α β : Type} (keep : α → Bool) (f : α → List β) (l : List α)
    (h : ∀ a ∈ l, keep a = false → f a = []) : (l.filter keep).flatMap f = l.flatMap f := by
  induction l with
  | nil => rfl
  | cons a l ih =>
      have hrest := ih fun b hb => h b (List.mem_cons_of_mem _ hb)
      cases hkeep : keep a with
      | false =>
          rw [List.filter_cons_of_neg (by simp [hkeep]), List.flatMap_cons,
            h a List.mem_cons_self hkeep, List.nil_append, hrest]
      | true => rw [List.filter_cons_of_pos hkeep, List.flatMap_cons, List.flatMap_cons, hrest]

/-- Of all references of a project, `known` are those that the compilation was built with. The
readable ones among them have an assembly each, which is built from the image of the reference, and
no others have one. -/
structure Compilation.Covers (c : Compilation) (known all : List Reference) : Prop where
  initial : known <+: all
  readable : ∀ r ∈ all, (c.assemblyFor? r).isSome = true ↔ r ∈ known ∧ r.image.isOk = true
  ofImage : ∀ r ∈ all, ∀ a, c.assemblyFor? r = some a → a ∈ c.assemblies ∧
    ∃ image ordinal firstId, r.image = .ok image ∧
      a = Assembly.build c.id ordinal image.assemblyName (.metadata r.checksum) firstId
        image.declarations

section Covers

variable {id : CompilationId} {name : String} {documents : List (List Declaration)}
  {references all : List Reference}

/-- A compilation covers the references that it is built with, also if more are added later. -/
theorem Compilation.covers_build (hall : all.Pairwise fun r r' => r.sameText r' = false)
    (hsub : references <+: all) :
    (build id name documents references).Covers references all := by
  refine ⟨hsub, fun r hr => ⟨fun hsome => ?_, fun hknown => ?_⟩, fun r hr a hfor => ?_⟩
  · obtain ⟨a, hfor⟩ := Option.isSome_iff_exists.1 hsome
    exact readable_of_mem ((assemblyFor?_eq_some_iff hall hsub hr).1 hfor)
  · exact Option.isSome_iff_exists.2 (exists_assemblyFor? hknown.1 hknown.2)
  · have hentry := (assemblyFor?_eq_some_iff hall hsub hr).1 hfor
    obtain ⟨image, ordinal, firstId, himage, heq⟩ := mem_referenced hentry
    have hmem := List.mem_cons_of_mem (build id name documents references).source
      (List.mem_map_of_mem (f := Prod.snd) hentry)
    exact ⟨hmem, image, ordinal, firstId, himage, heq⟩

/-- A reference that cannot be read, or that was added later, has no matches. -/
theorem Compilation.Covers.referenceMatches_eq_nil {c : Compilation} {known : List Reference}
    (h : c.Covers known all) {r : Reference} (hr : r ∈ all)
    (hno : ¬(r ∈ known ∧ r.image.isOk = true)) : c.referenceMatches query filter r = [] := by
  have hnone : c.assemblyFor? r = none := by
    rw [← Option.not_isSome_iff_eq_none, h.readable r hr]
    exact hno
  rw [referenceMatches, hnone]

/-- Going through all references comes to going through the assemblies of references. -/
theorem flatMap_referenceMatches (hall : all.Pairwise fun r r' => r.sameText r' = false)
    (hsub : references <+: all) :
    all.flatMap ((Compilation.build id name documents references).referenceMatches query filter) =
      (Compilation.build id name documents references).referenced.flatMap fun entry =>
        entry.2.listedMatches query filter := by
  have hcovers : (Compilation.build id name documents references).Covers references all :=
    Compilation.covers_build hall hsub
  have hnodup := Reference.nodup_of_sameText hall
  obtain ⟨later, rfl⟩ := hsub
  -- references that were added later contribute nothing
  have hlater : later.flatMap ((Compilation.build id name documents references).referenceMatches
      query filter) = [] := by
    rw [List.flatMap_eq_nil_iff]
    intro r hr
    refine hcovers.referenceMatches_eq_nil (List.mem_append_right _ hr) fun hknown => ?_
    exact List.disjoint_of_nodup_append hnodup hknown.1 hr
  -- neither do unreadable ones, and each of the others contributes its own assembly
  have hunreadable : ∀ r ∈ references, r.image.isOk = false →
      (Compilation.build id name documents references).referenceMatches query filter r = [] := by
    intro r hr hno
    refine hcovers.referenceMatches_eq_nil (List.mem_append_left _ hr) fun hknown => ?_
    rw [hno] at hknown
    exact Bool.noConfusion hknown.2
  rw [List.flatMap_append, hlater, List.append_nil, ← flatMap_filter_eq _ _ _ hunreadable,
    ← Compilation.map_fst_referenced, List.flatMap_map]
  apply List.flatMap_congr
  intro entry hentry
  have hmem := List.mem_append_left later (Compilation.readable_of_mem hentry).1
  have hfor := (Compilation.assemblyFor?_eq_some_iff hall (List.prefix_append _ _) hmem).2 hentry
  rw [Compilation.referenceMatches, hfor]

end Covers

end References

/-! ## The whole search -/

section FindAll

variable (p : DocumentProject) (query : Query) (filter : Filter) {indexed : List Reference}

/-- What is found in the source and in the references are declared symbols of the assemblies,
each of them once. -/
theorem sublist_symbols (c : Compilation) :
    (c.sourceMatches query filter ++ c.referenced.flatMap fun entry =>
      entry.2.listedMatches query filter).Sublist (c.assemblies.flatMap Assembly.symbols) := by
  have hdeclared : ∀ (a : Assembly) (keep : Symbol → Bool),
      (a.declared.filter keep).Sublist a.symbols := fun a keep =>
    List.filter_sublist.trans (List.sublist_cons_self _ _)
  rw [Compilation.assemblies, List.flatMap_cons, List.flatMap_map]
  exact (hdeclared c.source _).append (List.Sublist.flatMap_right _ fun _ _ => hdeclared _ _)

/-- The compilation of a project covers the references that the project had when it was built, and
all of them if it is built now. -/
theorem exists_covers {s : Session κ}
    (hrefs : p.references.Pairwise fun r r' => r.sameText r' = false) (hkept : p.IsKeptIn s) :
    ∃ known, (p.compileIn s).1.Covers known p.references ∧
      (s.compiled.lookup p.id = none → known = p.references) := by
  cases hc : s.compiled.lookup p.id with
  | some c =>
      obtain ⟨id, name, documents, references, -, hsub, rfl⟩ := hkept c hc
      rw [DocumentProject.compileIn_of_kept hc]
      exact ⟨references, Compilation.covers_build hrefs hsub, fun h => absurd h (by simp)⟩
  | none =>
      rw [DocumentProject.compileIn_of_new hc]
      exact ⟨p.references, Compilation.covers_build hrefs List.prefix_rfl, fun _ => rfl⟩

/-- The session after the source has been searched still has, or still gives, the compilation. -/
theorem returns_source {s : Session κ} (hquery : query.kind ≠ .custom) (hs : s.token = .live)
    (hkept : p.IsKeptIn s) :
    ∃ s' : Session κ, Returns (collectSource p.toProject query filter none []) s
        ((p.compileIn s).1.sourceMatches query filter) s' ∧
      s'.token = .live ∧ p.compileIn s' = p.compileIn s := by
  refine ⟨_, returns_collectSource hquery hs hkept [], ?_⟩
  -- the compilation has been built unless the names ruled out a result
  split
  · exact ⟨by rw [DocumentProject.compileIn_token, hs], DocumentProject.compileIn_compileIn⟩
  · exact ⟨hs, rfl⟩

/-- With the compilation in the session, going through the references of the project finds the
matches in their assemblies. -/
theorem returns_references {s : Session κ}
    (hrefs : p.references.Pairwise fun r r' => r.sameText r' = false)
    (hquery : query.kind ≠ .custom) (hs : s.token = .live)
    (hdirectory : s.indexes.config.indexDirectory = none)
    (hbuilt : s.indexes.IsBuiltFrom indexed) (htell : ChecksumsTell (indexed ++ p.references))
    (hkept : p.IsKeptIn s) (found : List Symbol) :
    ∃ s', Returns (collectReferences (p.compileIn s).1 query filter p.references found)
        (p.compileIn s).2
        (found ++ p.references.flatMap ((p.compileIn s).1.referenceMatches query filter)) s' ∧
      (p.compileIn s).2.OnlyIndexesChange s' := by
  have hlive : (p.compileIn s).2.token = .live := by rw [DocumentProject.compileIn_token, hs]
  have hmemory : (p.compileIn s).2.indexes.config.indexDirectory = none := by
    rw [DocumentProject.compileIn_indexes, hdirectory]
  have hstill : (p.compileIn s).2.indexes.IsBuiltFrom (indexed ++ p.references) := by
    rw [DocumentProject.compileIn_indexes]
    exact hbuilt.mono (List.subset_append_left indexed p.references)
  obtain ⟨known, hcovers, -⟩ := exists_covers p hrefs hkept
  have hassembly : ∀ r ∈ p.references, ∀ a, (p.compileIn s).1.assemblyFor? r = some a →
      ∃ image id ordinal name origin firstId, r.image = .ok image ∧
        a = Assembly.build id ordinal name origin firstId image.declarations := by
    intro r hr a hfor
    obtain ⟨-, image, ordinal, firstId, himage, heq⟩ := hcovers.ofImage r hr a hfor
    exact ⟨image, _, _, _, _, _, himage, heq⟩
  obtain ⟨s', hreturns, hchange, -⟩ := returns_collectReferences hquery htell p.references
    (fun r hr => List.mem_append_right _ hr) hassembly (p.compileIn s).2 found hlive hmemory hstill
  exact ⟨s', hreturns, hchange⟩

/-- The search returns the matches in the source and in the references, with merged namespaces
in the place of others and without repetitions. -/
theorem returns_findAll {s : Session κ}
    (hrefs : p.references.Pairwise fun r r' => r.sameText r' = false)
    (hquery : query.kind ≠ .custom) (hs : s.token = .live)
    (hdirectory : s.indexes.config.indexDirectory = none)
    (hbuilt : s.indexes.IsBuiltFrom indexed) (htell : ChecksumsTell (indexed ++ p.references))
    (hkept : p.IsKeptIn s) :
    ∃ s', Returns (findAll p.toProject query filter) s
      (distinct ((p.compileIn s).1.normalize ((p.compileIn s).1.sourceMatches query filter ++
        p.references.flatMap ((p.compileIn s).1.referenceMatches query filter))))
      s' ∧ (p.compileIn s').1 = (p.compileIn s).1 := by
  have htoProject : (p.toProject : Project κ).references = p.references := rfl
  obtain ⟨s₁, hsource, hlive, hcompile⟩ := returns_source p query filter hquery hs hkept
  cases hearly : ((p.compileIn s).1.sourceMatches query filter).isEmpty && p.references.isEmpty with
  | true =>
      -- nothing is found in the source and there is nowhere else to look
      rw [Bool.and_eq_true, List.isEmpty_iff, List.isEmpty_iff] at hearly
      obtain ⟨hnone, hnorefs⟩ := hearly
      refine ⟨s₁, hsource.bind ?_, by rw [hcompile]⟩
      rw [hnone, htoProject, hnorefs]
      exact returns_pure []
  | false =>
      have hcompilation : Returns (Project.compilation p.toProject) s₁ (p.compileIn s).1
          (p.compileIn s).2 := by
        have hwait := DocumentProject.returns_compilation (p := p) hlive
        rw [hcompile] at hwait
        exact hwait
      obtain ⟨s₂, hreferences, hchange⟩ := returns_references p query filter hrefs hquery hs
        hdirectory hbuilt htell hkept ((p.compileIn s).1.sourceMatches query filter)
      -- going through the references leaves the compilation in the session
      have hlast : s₂.compiled.lookup p.id = some (p.compileIn s).1 := by
        rw [hchange.compiled]
        exact DocumentProject.lookup_compileIn
      refine ⟨s₂, hsource.bind ?_, by rw [DocumentProject.compileIn_of_kept hlast]⟩
      rw [htoProject, hearly, if_neg Bool.false_ne_true]
      exact hcompilation.bind (hreferences.bind (returns_pure _))

/-- **The search finds the matches in the source and then those in each reference.** Its result
has no repetitions and consists of symbols of the project's compilation; a namespace in it
stands for itself or has no merged namespace; and apart from namespaces it is the list of the
matches in the source, followed by the matches that can be listed in the assembly of each readable
reference. All readable references have an assembly if the compilation is built now. A compilation
that is kept has those of the references that the project had when it was built. -/
theorem findAll_eq_matches {s : Session κ}
    (hrefs : p.references.Pairwise fun r r' => r.sameText r' = false)
    (hquery : query.kind ≠ .custom) (hs : s.token = .live)
    (hdirectory : s.indexes.config.indexDirectory = none)
    (hbuilt : s.indexes.IsBuiltFrom indexed) (htell : ChecksumsTell (indexed ++ p.references))
    (hkept : p.IsKeptIn s) :
    ∃ found s', Returns (findAll p.toProject query filter) s found s' ∧
      (p.compileIn s').1 = (p.compileIn s).1 ∧
      found.Pairwise (fun x y => x.sameAs y = false) ∧
      (∀ x ∈ found, (p.compileIn s).1.owns x = true) ∧
      (∀ n ∈ found, n.kind.isNamespace = true →
        (p.compileIn s).1.canonical? n = some n ∨ (p.compileIn s).1.canonical? n = none) ∧
      (∃ known, (p.compileIn s).1.Covers known p.references ∧
        (s.compiled.lookup p.id = none → known = p.references)) ∧
      found.filter (fun x => !x.kind.isNamespace) =
        ((p.compileIn s).1.sourceMatches query filter).filter (fun x => !x.kind.isNamespace) ++
          (p.references.filter fun r => r.image.isOk).flatMap fun r =>
            ((p.compileIn s).1.referenceMatches query filter r).filter fun x =>
              !x.kind.isNamespace := by
  obtain ⟨s', hreturns, hcompile⟩ := returns_findAll p query filter hrefs hquery hs hdirectory
    hbuilt htell hkept
  obtain ⟨known, hcovers, hnew⟩ := exists_covers p hrefs hkept
  have hsublist := sublist_symbols query filter (p.compileIn s).1
  obtain ⟨id, name, documents, references, -, hsub, heq⟩ := hkept.compileIn_eq
  have hisBuilt : (p.compileIn s).1.IsBuilt := by
    rw [heq]
    exact Compilation.isBuilt_build
  have hmatches : p.references.flatMap ((p.compileIn s).1.referenceMatches query filter) =
      (p.compileIn s).1.referenced.flatMap fun entry => entry.2.listedMatches query filter := by
    rw [heq]
    exact flatMap_referenceMatches hrefs hsub
  rw [← hmatches] at hsublist
  -- what has been found is listed once in the assemblies, which is all that is needed of it
  obtain ⟨hpairwise, howned, hnamespaces, hothers⟩ := hisBuilt.distinct_normalize hsublist
  refine ⟨_, s', hreturns, hcompile, hpairwise, howned, hnamespaces, ⟨known, hcovers, hnew⟩, ?_⟩
  have hunreadable : ∀ r ∈ p.references, r.image.isOk = false →
      ((p.compileIn s).1.referenceMatches query filter r).filter (fun x => !x.kind.isNamespace) =
        [] := by
    intro r hr hno
    rw [hcovers.referenceMatches_eq_nil hr (by simp [hno]), List.filter_nil]
  rw [hothers, List.filter_append, List.filter_flatMap, flatMap_filter_eq _ _ _ hunreadable]

/-- A project with a method of its own and a reference to an image with an overload. -/
def overloadProject : DocumentProject :=
  ⟨⟨0⟩, "App", "App", [⟨⟨"run.txt"⟩, [⟨"Run", .method, 0, false, false, []⟩]⟩],
    [Index.overloadReference]⟩

/-- A session that has compiled the project before it had its reference. -/
def compiledEarly : Session Unit :=
  { Session.initial with
    compiled := [(⟨0⟩, .build ⟨0⟩ "App" overloadProject.trees [])]
    nextCompilation := 1 }

/-- The method of the project comes before the overload in the reference. If the project has been
compiled without the reference, only its own method is found. -/
theorem findAll_eq_matches_overloadProject :
    (∃ found s', Returns (findAll overloadProject.toProject (.exact "Run" false) .onlyMembers)
        Session.initial found s' ∧
      found.filter (fun x => !x.kind.isNamespace) =
        [⟨⟨0⟩, some 0, ⟨1, "Run", .method, 0, 0, false, false⟩, [.global 0]⟩,
          ⟨⟨0⟩, some 1, ⟨5, "Run", .method, 0, 1, false, false⟩,
            [⟨3, "Tools", .classType, 0, 0, false, false⟩, .global 2]⟩]) ∧
    ∃ found s', Returns (findAll overloadProject.toProject (.exact "Run" false) .onlyMembers)
        compiledEarly found s' ∧
      found.filter (fun x => !x.kind.isNamespace) =
        [⟨⟨0⟩, some 0, ⟨1, "Run", .method, 0, 0, false, false⟩, [.global 0]⟩] := by
  have htell : ChecksumsTell ([] ++ overloadProject.references) := by
    intro r hr r' hr' _ _ _
    rw [List.mem_singleton.1 hr, List.mem_singleton.1 hr']
  constructor
  · obtain ⟨found, s', hreturns, -, -, -, -, -, hothers⟩ :=
      findAll_eq_matches overloadProject (.exact "Run" false) .onlyMembers (s := Session.initial)
        (List.pairwise_singleton _ _) (by decide) rfl rfl
        (IndexStore.isBuiltFrom_empty .default []) htell
        (DocumentProject.isKeptIn_of_compiled_eq_nil overloadProject rfl)
    refine ⟨found, s', hreturns, ?_⟩
    rw [hothers]
    decide +kernel
  · have hkept : overloadProject.IsKeptIn compiledEarly := by
      intro c hc
      obtain rfl := Option.some.inj hc
      exact ⟨_, _, _, _, List.prefix_rfl, List.nil_prefix, rfl⟩
    obtain ⟨found, s', hreturns, -, -, -, -, -, hothers⟩ :=
      findAll_eq_matches overloadProject (.exact "Run" false) .onlyMembers (s := compiledEarly)
        (List.pairwise_singleton _ _) (by decide) rfl rfl
        (IndexStore.isBuiltFrom_empty .default []) htell hkept
    refine ⟨found, s', hreturns, ?_⟩
    rw [hothers]
    decide +kernel

end FindAll

end SymbolSearch
