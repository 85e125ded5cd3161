import SymbolSearch.Proofs.Merged.Reachable
import SymbolSearch.Proofs.Symbols

/-!
# How a compilation lays out its symbols

Building threads numbers, members and ordinals through all trees, and a namespace may be opened
again at any later place. `Assembly.LaysOut` says what comes out of it: numbers ascend, each symbol
is a member of its container and of nothing else, ordinals count like members, a container has each
namespace once, and the declarations that are no namespaces are all there, in order.

`Assembly.laysOut_build` shows this for an assembly built of any trees, and
`Compilation.laysOut_build_documents` for a whole compilation, whose symbols all have different
numbers.
-/

set_option autoImplicit false

namespace SymbolSearch

/-! ## What is declared -/

/-- What a declaration says of itself, without what is inside it. -/
structure Heading where
  name : String
  kind : Kind
  arity : UInt32
  implicit : Bool
  accessor : Bool
  deriving DecidableEq

/-- The heading of a declaration. -/
def Declaration.heading (d : Declaration) : Heading :=
  ⟨d.name, d.kind, d.arity, d.implicit, d.accessor⟩

/-- The heading of the declaration that a symbol was made for. -/
def Symbol.heading (s : Symbol) : Heading := ⟨s.name, s.kind, s.arity, s.isImplicit, s.isAccessor⟩

/-- The headings in a row of trees that are not of namespaces, each before those inside it. -/
def Declaration.headings (ds : List Declaration) : List Heading :=
  ((preorderList ds).filter fun d => !d.kind.isNamespace).map Declaration.heading

/-- The headings of the symbols that are no namespaces, in order. -/
def Symbol.headings (symbols : List Symbol) : List Heading :=
  (symbols.filter fun s => !s.kind.isNamespace).map Symbol.heading

theorem Declaration.headings_cons (name : String) (kind : Kind) (arity : UInt32)
    (implicit accessor : Bool) (children ds : List Declaration) :
    headings (⟨name, kind, arity, implicit, accessor, children⟩ :: ds) =
      (if kind.isNamespace then [] else [⟨name, kind, arity, implicit, accessor⟩]) ++
        headings children ++ headings ds := by
  cases hkind : kind.isNamespace with
  | false => simp [headings, hkind, heading]
  | true => simp [headings, hkind]

theorem Symbol.headings_append (symbols more : List Symbol) :
    headings (symbols ++ more) = headings symbols ++ headings more := by
  rw [headings, List.filter_append, List.map_append]
  rfl

namespace Assembly

/-- Declaring adds the heading of the declaration unless it is one of a namespace. -/
theorem headings_declare (firstId : Nat) (container : Symbol) (name : String) (kind : Kind)
    (arity : UInt32) (implicit accessor : Bool) (declared : List Symbol) :
    Symbol.headings (declare firstId container name kind arity implicit accessor declared).2 =
      Symbol.headings declared ++
        if kind.isNamespace then [] else [⟨name, kind, arity, implicit, accessor⟩] := by
  rcases declare_cases firstId container name kind arity implicit accessor declared with
    ⟨existing, hkind, -, heq⟩ | ⟨-, heq⟩
  · -- a namespace that is there already is not listed again
    rw [heq, if_pos hkind, List.append_nil]
  · rw [heq, Symbol.headings_append]
    congr 1
    cases hkind : kind.isNamespace with
    | false => simp [Symbol.headings, hkind, Symbol.heading, newSymbol, Symbol.name, Symbol.kind,
        Symbol.arity, Symbol.isImplicit, Symbol.isAccessor]
    | true => simp [Symbol.headings, hkind]

/-- Building a row of trees adds their headings, each before those inside it. -/
theorem headings_declareTrees (firstId : Nat) (ds : List Declaration) :
    ∀ (container : Symbol) (declared : List Symbol),
      Symbol.headings (declareTrees firstId container ds declared) =
        Symbol.headings declared ++ Declaration.headings ds := by
  induction ds using Declaration.forest_induction with
  | nil =>
      intro container declared
      exact (List.append_nil _).symm
  | cons name kind arity implicit accessor children rest ihChildren ihRest =>
      intro container declared
      rw [declareTrees_cons, ihRest, ihChildren, headings_declare, Declaration.headings_cons]
      simp only [List.append_assoc]

/-! ## Places -/

variable {a : Assembly}

/-- A symbol is a member of its container, once. -/
theorem countP_membersOf_container (h : a.IsGrown) {s c : Symbol} (hs : s ∈ a.declared)
    (hc : c ∈ a.symbols) (hcont : s.container? = some c) :
    (a.membersOf c).countP s.sameAs = 1 := by
  apply Symbol.countP_sameAs_eq_one (h.nodup_id.sublist ((a.membersOf_sublist c).map _))
  rw [membersOf_eq h hc]
  exact mem_membersIn.2 ⟨hs, Symbol.containerId?_eq hcont⟩

/-- A symbol is no member of anything but its container. -/
theorem countP_membersOf_other (h : a.IsGrown) {s c d : Symbol} (hs : s ∈ a.declared)
    (hc : c ∈ a.symbols) (hcont : s.container? = some c) (hother : d.sameAs c = false) :
    (a.membersOf d).countP s.sameAs = 0 := by
  rw [List.countP_eq_zero]
  intro m hm hsame
  rw [membersOf_eq_ite] at hm
  split at hm
  next hcompilation =>
    obtain ⟨hmem, hid⟩ := mem_membersIn.1 hm
    -- the member is `s` itself, so it has the container of `s`
    have heq : s = m := h.eq_of_id_eq (List.mem_cons_of_mem _ hs) (List.mem_cons_of_mem _ hmem)
      (Symbol.id_eq_of_sameAs hsame)
    rw [← heq, Symbol.containerId?_eq hcont, Option.some.injEq] at hid
    have hcowner : c.compilation = a.compilation := (h.owner c hc).1
    simp [Symbol.sameAs, hcompilation, hcowner, hid] at hother
  next => exact absurd hm List.not_mem_nil

/-- In ascending order, the position of a symbol is the number of lower ones. -/
theorem countP_lt_of_getElem? {l : List Symbol} (hl : l.Pairwise fun s t => s.id < t.id) {i : Nat}
    {s : Symbol} (hs : l[i]? = some s) : l.countP (fun m => m.id < s.id) = i := by
  induction l generalizing i with
  | nil => simp at hs
  | cons t l ih =>
      rw [List.pairwise_cons] at hl
      cases i with
      | zero =>
          rw [List.getElem?_cons_zero, Option.some.injEq] at hs
          subst hs
          rw [List.countP_eq_zero]
          intro m hm
          rcases List.mem_cons.1 hm with rfl | hm
          · simp
          · have hlt := hl.1 m hm
            simp only [decide_eq_true_eq]
            omega
      | succ i =>
          rw [List.getElem?_cons_succ] at hs
          have hlt : t.id < s.id := hl.1 s (List.mem_of_getElem? hs)
          rw [List.countP_cons, ih hl.2 hs, if_pos (decide_eq_true hlt)]

/-- The ordinal of a symbol is the number of like members before it. -/
theorem ordinal_eq_countP (h : a.IsGrown) {s c : Symbol} (hs : s ∈ a.declared)
    (hc : c ∈ a.symbols) (hcont : s.container? = some c) :
    s.ordinal = (a.membersOf c).countP fun m =>
      m.id < s.id && (m.name = s.name && m.kind = s.kind && m.arity = s.arity) := by
  have hascends : (membersIn a.declared c.id).Pairwise fun m n => m.id < n.id :=
    (ascends_declared h).pairwise.sublist List.filter_sublist
  have hposition := countP_lt_of_getElem? (hascends.filter _)
    (Grown.getElem?_ordinal h hs (Symbol.containerId?_eq hcont))
  rw [List.countP_filter] at hposition
  rw [membersOf_eq h hc, hposition]

/-! ## Assemblies -/

/-- The symbols of the assembly are laid out as the trees `roots` declare them. -/
structure LaysOut (a : Assembly) (roots : List Declaration) : Prop where
  ascending : a.declared.Pairwise fun s t => s.id < t.id
  /-- A symbol is a member of its container, once, and of nothing else. -/
  held : ∀ s ∈ a.declared, ∃ c ∈ a.symbols, s.container? = some c ∧
    (a.membersOf c).countP s.sameAs = 1 ∧
    ∀ d : Symbol, d.sameAs c = false → (a.membersOf d).countP s.sameAs = 0
  members_ascending : ∀ c : Symbol, (a.membersOf c).Pairwise fun s t => s.id < t.id
  /-- The ordinal counts the earlier members of the container that are alike. -/
  ordinal : ∀ s ∈ a.declared, ∀ c, s.container? = some c →
    s.ordinal = (a.membersOf c).countP fun m =>
      m.id < s.id && (m.name = s.name && m.kind = s.kind && m.arity = s.arity)
  namespace_once : ∀ c : Symbol, (a.membersOf c).Pairwise fun s t =>
    s.kind.isNamespace = true → t.kind.isNamespace = true → s.name ≠ t.name
  /-- Of the declarations that are no namespaces, none is lost or added. -/
  headings : Symbol.headings a.declared = Declaration.headings roots

/-- A container has no two namespaces of one name. -/
theorem pairwise_namespace_name (h : a.IsGrown) (c : Symbol) :
    (a.membersOf c).Pairwise fun s t =>
      s.kind.isNamespace = true → t.kind.isNamespace = true → s.name ≠ t.name := by
  rw [membersOf_eq_ite]
  split
  next =>
    have hnodup : (membersIn a.declared c.id).Nodup := h.nodup.filter _
    refine hnodup.imp_of_mem fun {s t} hs ht hne hsns htns hname => ?_
    obtain ⟨hsmem, hsid⟩ := mem_membersIn.1 hs
    obtain ⟨htmem, htid⟩ := mem_membersIn.1 ht
    exact hne (h.namespace_unique hsmem htmem hsns htns (hsid.trans htid.symm) hname)
  next => exact List.Pairwise.nil

/-- An assembly is laid out as the trees that it is built of declare. -/
theorem laysOut_build (compilation : CompilationId) (ordinal : Nat) (name : String)
    (origin : Origin) (firstId : Nat) (roots : List Declaration) :
    (build compilation ordinal name origin firstId roots).LaysOut roots := by
  have hgrown := isGrown_build compilation ordinal name origin firstId roots
  have hascends := (ascends_declared hgrown).pairwise
  refine ⟨hascends, ?_, ?_, ?_, pairwise_namespace_name hgrown, ?_⟩
  · intro s hs
    obtain ⟨c, hc, hcont, -⟩ := hgrown.exists_container s hs
    exact ⟨c, hc, hcont, countP_membersOf_container hgrown hs hc hcont,
      fun d hd => countP_membersOf_other hgrown hs hc hcont hd⟩
  · intro c
    exact hascends.sublist (membersOf_sublist _ c)
  · intro s hs c hcont
    obtain ⟨c', hc', hcont', -⟩ := hgrown.exists_container s hs
    rw [hcont', Option.some.injEq] at hcont
    subst hcont
    exact ordinal_eq_countP hgrown hs hc' hcont'
  · rw [declared_build]
    exact headings_declareTrees firstId roots _ []

end Assembly

/-! ## Compilations -/

namespace Compilation

/-- The symbols of the compilation are laid out as the documents and the images of the readable
references declare them, and no two of them have the same number. -/
structure LaysOut (c : Compilation) (documents : List (List Declaration))
    (references : List Reference) : Prop where
  nodup_id : (c.symbols.map Symbol.id).Nodup
  source : c.source.LaysOut documents.flatten
  readable : c.referenced.map Prod.fst = references.filter fun r => r.image.isOk
  referenced : ∀ entry ∈ c.referenced, ∃ image, entry.1.image = .ok image ∧
    entry.2.LaysOut image.declarations

/-- **A compilation is laid out as its documents and references declare.** -/
theorem laysOut_build_documents (id : CompilationId) (name : String)
    (documents : List (List Declaration)) (references : List Reference) :
    (build id name documents references).LaysOut documents references := by
  refine ⟨isBuilt_build.nodup_id_symbols, ?_, map_fst_referenced, ?_⟩
  · rw [source_build]
    exact Assembly.laysOut_build id 0 name .source 0 documents.flatten
  · rintro ⟨r, a⟩ hentry
    obtain ⟨image, ordinal, firstId, himage, rfl⟩ := mem_referenced hentry
    exact ⟨image, himage, Assembly.laysOut_build ..⟩

end Compilation

end SymbolSearch
