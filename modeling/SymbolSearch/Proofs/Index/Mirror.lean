import SymbolSearch.Proofs.Index.Nodes

/-!
# Building an index beside an assembly

The steps by which the building of an index and that of an assembly advance, each of which
keeps `Mirrors`, and the run over a row of trees (`mirrors_addTrees`).
-/

set_option autoImplicit false

namespace SymbolSearch

open Assembly

namespace Index

/-! ## Counting -/

namespace Counts

variable {held : Option Nat → Option Symbol} {declared : List Symbol} {met : List Likeness}

/-- A member of a container that is not held changes no count. -/
theorem append_member (h : Counts held declared met) {s : Symbol}
    (hs : ∀ p c, held p = some c → s.containerId? ≠ some c.id) :
    Counts held (declared ++ [s]) met := by
  -- no held container gets a member, so the counts speak of the same members as before
  constructor
  · intro p c hc name kind arity hkind
    rw [membersIn_append_singleton, if_neg (hs p c hc)]
    exact h.eq_members p c hc name kind arity hkind
  · intro p c hc name kind arity hkind hnone
    apply h.eq_zero p c hc name kind arity hkind
    rw [existingNamespace?_eq_none] at hnone ⊢
    exact fun m hm => hnone m (List.mem_append_left _ hm)
  · intro p c hc m hm hcont hkind
    rcases List.mem_append.1 hm with hm | hm
    · exact h.pos p c hc m hm hcont hkind
    · rw [List.mem_singleton.1 hm] at hcont
      exact absurd hcont (hs p c hc)

/-- Meeting a declaration of a parent that holds no symbol, or a namespace that the container
has already, keeps the agreement. -/
theorem meet (h : Counts held declared met) {like : Likeness}
    (hlike : ∀ c, held like.parent = some c →
      like.kind.isNamespace = true ∧ existingNamespace? declared c like.name ≠ none) :
    Counts held declared (like :: met) := by
  constructor
  · intro p c hc name kind arity hkind
    rw [List.count_cons_of_ne]
    · exact h.eq_members p c hc name kind arity hkind
    · rintro rfl
      rw [(hlike c hc).1] at hkind
      exact Bool.noConfusion hkind
  · intro p c hc name kind arity hkind hnone
    rw [List.count_cons_of_ne]
    · exact h.eq_zero p c hc name kind arity hkind hnone
    · rintro rfl
      exact (hlike c hc).2 hnone
  · intro p c hc s hs hcont hkind
    exact Nat.lt_of_lt_of_le (h.pos p c hc s hs hcont hkind) List.count_le_count_cons

/-- A declaration that both sides add to a held container. -/
theorem declare (h : Counts held declared met) {p : Option Nat} {c : Symbol} (hc : held p = some c)
    (hinj : ∀ q d, held q = some d → d.id = c.id → q = p) (id : Nat) (name : String)
    (kind : Kind) (arity : UInt32) (implicit accessor : Bool) :
    Counts held
      (declared ++ [newSymbol declared id c name kind arity implicit accessor])
      (⟨p, name, kind, arity⟩ :: met) := by
  constructor
  · intro q d hd name' kind' arity' hkind'
    rw [membersIn_append_singleton, newSymbol_containerId?, List.count_cons,
      h.eq_members q d hd name' kind' arity' hkind']
    -- only the container of the new symbol gains a member, and only its count grows
    by_cases hid : d.id = c.id
    · obtain rfl := hinj q d hd hid
      have hif : some c.id = some d.id := by rw [hid]
      rw [if_pos hif, List.countP_append, List.countP_singleton]
      simp only [Bool.and_eq_true, decide_eq_true_eq, beq_iff_eq, Likeness.mk.injEq, true_and]
      simp only [newSymbol_name, newSymbol_kind, newSymbol_arity, and_assoc]
    · have hne : (⟨p, name, kind, arity⟩ : Likeness) ≠ ⟨q, name', kind', arity'⟩ := by
        intro heq
        rw [Likeness.mk.injEq] at heq
        rw [← heq.1, hc, Option.some.injEq] at hd
        exact hid (by rw [hd])
      have hif : ¬ some c.id = some d.id := by
        rw [Option.some.injEq]
        exact Ne.symm hid
      rw [if_neg hif, if_neg (by rwa [beq_iff_eq]), Nat.add_zero]
  · intro q d hd name' kind' arity' hkind' hnone
    rw [existingNamespace?_eq_none] at hnone
    rw [List.count_cons_of_ne]
    · apply h.eq_zero q d hd name' kind' arity' hkind'
      rw [existingNamespace?_eq_none]
      exact fun m hm => hnone m (List.mem_append_left _ hm)
    · -- the new symbol is such a namespace, so there is one now
      rintro heq
      rw [Likeness.mk.injEq] at heq
      obtain ⟨rfl, rfl, rfl, -⟩ := heq
      rw [hc, Option.some.injEq] at hd
      subst hd
      exact hnone _ (List.mem_append_right _ (List.mem_singleton_self _)) rfl hkind' rfl
  · intro q d hd s hs hcont hkind'
    rcases List.mem_append.1 hs with hs | hs
    · exact Nat.lt_of_lt_of_le (h.pos q d hd s hs hcont hkind') List.count_le_count_cons
    · rw [List.mem_singleton] at hs
      subst hs
      rw [newSymbol_containerId?, Option.some.injEq] at hcont
      obtain rfl := hinj q d hd hcont.symm
      rw [newSymbol_name, newSymbol_kind, newSymbol_arity, List.count_cons_self]
      exact Nat.succ_pos _

/-- A position that nothing met so far has as its parent may hold a symbol without members. -/
theorem hold (h : Counts held declared met) {n : Nat} {s : Symbol}
    (hmet : ∀ like ∈ met, like.parent ≠ some n) (hs : membersIn declared s.id = []) :
    Counts (fun p => if p = some n then some s else held p) declared met := by
  -- nothing with this parent has been met
  have hcount : ∀ name kind arity, met.count ⟨some n, name, kind, arity⟩ = 0 := by
    intro name kind arity
    rw [List.count_eq_zero]
    exact fun hmem => hmet _ hmem rfl
  constructor
  · intro p c hc name kind arity hkind
    split at hc
    next hp =>
      rw [Option.some.injEq] at hc
      subst hp hc
      rw [hcount, hs, List.countP_nil]
    next => exact h.eq_members p c hc name kind arity hkind
  · intro p c hc name kind arity hkind hnone
    split at hc
    next hp =>
      subst hp
      exact hcount name kind arity
    next => exact h.eq_zero p c hc name kind arity hkind hnone
  · intro p c hc m hm hcont hkind
    split at hc
    next hp =>
      rw [Option.some.injEq] at hc
      subst hc
      have hmem := mem_membersIn.2 ⟨hm, hcont⟩
      rw [hs] at hmem
      exact absurd hmem List.not_mem_nil
    next => exact h.pos p c hc m hm hcont hkind

/-- The next ordinal in the index is that of the new symbol. -/
theorem count_eq_ordinal (h : Counts held declared met) {p : Option Nat} {c : Symbol}
    (hc : held p = some c) (id : Nat) (name : String) (kind : Kind) (arity : UInt32)
    (implicit accessor : Bool)
    (hnew : kind.isNamespace = true → existingNamespace? declared c name = none) :
    met.count ⟨p, name, kind, arity⟩ =
      (newSymbol declared id c name kind arity implicit accessor).ordinal := by
  cases hkind : kind.isNamespace with
  | false => exact h.eq_members p c hc name kind arity hkind
  -- a new namespace has the ordinal zero and has not been met
  | true =>
      rw [h.eq_zero p c hc name kind arity hkind (hnew hkind), newSymbol_ordinal, eq_comm,
        List.length_eq_zero_iff, List.filter_eq_nil_iff]
      intro m hm hlike
      rw [mem_membersIn] at hm
      simp only [Bool.and_eq_true, decide_eq_true_eq] at hlike
      exact existingNamespace?_eq_none.1 (hnew hkind) m hm.1 hm.2
        (by rw [hlike.1.2]; exact hkind) hlike.1.1

end Counts

/-! ## Positions and symbols -/

/-- A symbol that occurs once occurs at one position. -/
theorem position_unique {l : List (Option Symbol)} (h : (l.filterMap id).Nodup) {i j : Nat}
    {s : Symbol} (hi : l[i]? = some (some s)) (hj : l[j]? = some (some s)) : i = j := by
  induction l generalizing i j with
  | nil => simp at hi
  | cons a l ih =>
      have hnodup : (l.filterMap id).Nodup := by
        cases a with
        | none => exact h
        | some s' => exact (List.nodup_cons.1 h).2
      have hmem : ∀ k : Nat, l[k]? = some (some s) → s ∈ l.filterMap id := fun k hk =>
        List.mem_filterMap.2 ⟨some s, List.mem_of_getElem? hk, rfl⟩
      -- if one of the two positions is the first, the symbol is not among the others
      cases i with
      | zero =>
          cases j with
          | zero => rfl
          | succ j =>
              rw [List.getElem?_cons_zero, Option.some.injEq] at hi
              subst hi
              exact absurd (hmem j hj) (List.nodup_cons.1 h).1
      | succ i =>
          cases j with
          | zero =>
              rw [List.getElem?_cons_zero, Option.some.injEq] at hj
              subst hj
              exact absurd (hmem i hi) (List.nodup_cons.1 h).1
          | succ j => rw [ih hnodup hi hj]

namespace Mirrors

variable {g : Symbol} {declared : List Symbol} {t : Table} {images : List (Option Symbol)}

theorem mem_images (h : Mirrors g declared t images) {s : Symbol} :
    some s ∈ images ↔ s ∈ declared ∧ s.isListed = true := by
  rw [← List.mem_filter, ← h.listed, List.mem_filterMap]
  constructor
  · exact fun hs => ⟨some s, hs, rfl⟩
  · rintro ⟨image, himage, hs⟩
    rw [id] at hs
    exact hs ▸ himage

theorem holder_mem (h : Mirrors g declared t images) (hg : g.IsRoot) {p : Option Nat} {c : Symbol}
    (hc : holder g images p = some c) : c ∈ g :: declared ∧ c.isListed = true := by
  cases p with
  | none =>
      rw [holder, Option.some.injEq] at hc
      subst hc
      exact ⟨List.mem_cons_self, hg.isListed⟩
  | some i =>
      obtain ⟨hmem, hlisted⟩ := h.mem_images.1 (List.mem_of_getElem? (holder_eq_some.1 hc))
      exact ⟨List.mem_cons_of_mem _ hmem, hlisted⟩

/-- A symbol is held by one position. -/
theorem holder_unique (h : Mirrors g declared t images) (hgrown : Grown g declared)
    {p q : Option Nat} {c d : Symbol} (hc : holder g images p = some c)
    (hd : holder g images q = some d) (hid : d.id = c.id) : q = p := by
  -- the numbers of declared symbols come after that of `g`
  have hbelow : ∀ i e, holder g images (some i) = some e → g.id < e.id := by
    intro i e he
    exact (hgrown.id_bounds (h.mem_images.1 (List.mem_of_getElem? (holder_eq_some.1 he))).1).1
  cases p with
  | none =>
      rw [holder, Option.some.injEq] at hc
      cases q with
      | none => rfl
      | some j =>
          have := hbelow j d hd
          rw [hid, ← hc] at this
          omega
  | some i =>
      cases q with
      | none =>
          rw [holder, Option.some.injEq] at hd
          have := hbelow i c hc
          rw [← hid, ← hd] at this
          omega
      | some j =>
          rw [holder_eq_some] at hc hd
          have hcmem := (h.mem_images.1 (List.mem_of_getElem? hc)).1
          have hdmem := (h.mem_images.1 (List.mem_of_getElem? hd)).1
          -- two positions with one symbol: the listed symbols occur once in `images`
          have heq : d = c := hgrown.eq_of_id_eq (List.mem_cons_of_mem _ hdmem)
            (List.mem_cons_of_mem _ hcmem) hid
          have hnodup : (images.filterMap id).Nodup := by
            rw [h.listed]
            exact hgrown.nodup.filter _
          rw [position_unique hnodup hc (heq ▸ hd)]

/-- Every node has something that it stands for, or stands for no symbol. -/
theorem exists_image (h : Mirrors g declared t images) {i : Nat} {node : IndexedDeclaration}
    (hnode : t.nodes[i]? = some node) :
    ∃ image, images[i]? = some image ∧ Stands g declared images node image := by
  have hi : i < images.length := by
    rw [h.length_eq]
    exact (List.getElem?_eq_some_iff.1 hnode).1
  have himage : images[i]? = some images[i] := List.getElem?_eq_getElem hi
  exact ⟨images[i], himage, h.stands i node images[i] hnode himage⟩

/-- A namespace in the index with a parent that holds a symbol stands for a namespace of that
symbol, if this is listed, and for none otherwise. -/
theorem exists_namespace (h : Mirrors g declared t images) {p : Option Nat} {c : Symbol}
    {name : String} (hc : holder g images p = some c) {i : Nat} {node : IndexedDeclaration}
    (hnode : t.nodes[i]? = some node) (hparent : node.parent = p)
    (hkind : node.kind.isNamespace = true) (hname : node.name = name) :
    ∃ e ∈ declared, e.containerId? = some c.id ∧ e.kind.isNamespace = true ∧ e.name = name ∧
      images[i]? = some (if e.isListed then some e else none) := by
  obtain ⟨image, himage, hstands⟩ := h.exists_image hnode
  cases image with
  -- the node stands for a listed symbol, which is a namespace of the container
  | some s =>
      obtain ⟨d, hd, hcont, hsname, hskind, -, -⟩ := hstands
      rw [hparent, hc, Option.some.injEq] at hd
      subst hd
      obtain ⟨hsmem, hslisted⟩ := h.mem_images.1 (List.mem_of_getElem? himage)
      refine ⟨s, hsmem, Symbol.containerId?_eq hcont,
        (congrArg Kind.isNamespace hskind).trans hkind, Eq.trans hsname hname, ?_⟩
      rw [if_pos hslisted]
      exact himage
  | none =>
      -- the node is shadowed by a namespace that cannot be listed
      obtain ⟨e, hmem, hcont, hlisted, hekind, -, hename, -⟩ := hstands c (hparent ▸ hc)
      refine ⟨e, hmem, Symbol.containerId?_eq hcont, hekind, Eq.trans hename hname, ?_⟩
      rw [if_neg (by simp [hlisted])]
      exact himage

/-- The container has a namespace of each name once, so this is the one that is found. -/
theorem stands_namespace (h : Mirrors g declared t images) (hgrown : Grown g declared)
    {p : Option Nat} {c e : Symbol} {name : String} (hc : holder g images p = some c)
    (he : existingNamespace? declared c name = some e) {i : Nat} {node : IndexedDeclaration}
    (hnode : t.nodes[i]? = some node) (hparent : node.parent = p)
    (hkind : node.kind.isNamespace = true) (hname : node.name = name) :
    images[i]? = some (if e.isListed then some e else none) := by
  obtain ⟨hemem, hecont, hekind, hename⟩ := existingNamespace?_eq_some he
  obtain ⟨s, hs, hcont, hskind, hsname, himage⟩ :=
    h.exists_namespace hc hnode hparent hkind hname
  have hse : s = e := hgrown.namespace_unique hs hemem hskind hekind (by rw [hecont, hcont])
    (by rw [hename, hsname])
  rw [himage, hse]

/-- A namespace that the container does not have is not in the index either. -/
theorem findNamespace?_eq_none (h : Mirrors g declared t images) {p : Option Nat} {c : Symbol}
    {name : String} (hc : holder g images p = some c)
    (hnone : existingNamespace? declared c name = none) :
    t.findNamespace? p name = none := by
  rw [Index.findNamespace?_eq_none]
  intro node hnode hkind hparent hname
  obtain ⟨i, hi⟩ := List.getElem?_of_mem hnode
  obtain ⟨e, he, hcont, hekind, hename, -⟩ := h.exists_namespace hc hi hparent hkind hname
  exact existingNamespace?_eq_none.1 hnone e he hcont hekind hename

/-! ## Steps -/

/-- The parents of the nodes so far keep what they hold when nodes are added. -/
theorem holder_parent (h : Mirrors g declared t images) {i : Nat} {node : IndexedDeclaration}
    (hnode : t.nodes[i]? = some node) (more : List (Option Symbol)) :
    holder g (images ++ more) node.parent = holder g images node.parent := by
  refine holder_append_of_lt (fun p hp => ?_) more
  have hlt := h.parent_lt i node p hnode hp
  have hi := (List.getElem?_eq_some_iff.1 hnode).1
  rw [h.length_eq]
  omega

theorem stands_append (h : Mirrors g declared t images) {i : Nat} {node : IndexedDeclaration}
    {image : Option Symbol} (hnode : t.nodes[i]? = some node) (himage : images[i]? = some image)
    (moreDeclared : List Symbol) (moreImages : List (Option Symbol)) :
    Stands g (declared ++ moreDeclared) (images ++ moreImages) node image := by
  have hstands := h.stands i node image hnode himage
  -- what stands for a symbol needs the holder only, a shadowed node the hidden symbol too
  cases image with
  | some s =>
      obtain ⟨c, hc, hrest⟩ := hstands
      exact ⟨c, by rw [h.holder_parent hnode, hc], hrest⟩
  | none =>
      intro c hc
      rw [h.holder_parent hnode] at hc
      obtain ⟨hidden, hmem, hrest⟩ := hstands c hc
      exact ⟨hidden, List.mem_append_left _ hmem, hrest⟩

/-- The assembly alone declares a symbol that cannot be listed. -/
theorem append_hidden (h : Mirrors g declared t images) {s : Symbol}
    (hlisted : s.isListed = false)
    (hs : ∀ p c, holder g images p = some c → s.containerId? ≠ some c.id) :
    Mirrors g (declared ++ [s]) t images where
  length_eq := h.length_eq
  listed := by
    rw [List.filter_append, List.filter_cons_of_neg (by simp [hlisted]), List.filter_nil,
      List.append_nil]
    exact h.listed
  parent_lt := h.parent_lt
  stands := by
    intro i node image hnode himage
    simpa using h.stands_append hnode himage [s] []
  met_lt := h.met_lt
  counts := h.counts.append_member hs

/-- The index alone meets a declaration. -/
theorem meet (h : Mirrors g declared t images) {like : Likeness}
    (hlt : ∀ p, like.parent = some p → p < t.nodes.length)
    (hlike : ∀ c, holder g images like.parent = some c →
      like.kind.isNamespace = true ∧ existingNamespace? declared c like.name ≠ none) :
    Mirrors g declared (t.count like) images where
  length_eq := h.length_eq
  listed := h.listed
  parent_lt := h.parent_lt
  stands := h.stands
  met_lt := by
    intro other hother
    rcases List.mem_cons.1 hother with rfl | hother
    · exact hlt
    · exact h.met_lt other hother
  counts := h.counts.meet hlike

/-- Both sides advance, and the index adds a node. -/
theorem push (h : Mirrors g declared t images) {node : IndexedDeclaration}
    {image : Option Symbol} {more : List Symbol} {met : List Likeness}
    (hlisted : more.filter Symbol.isListed = image.toList)
    (hlt : ∀ p, node.parent = some p → p < t.nodes.length)
    (hstands : Stands g (declared ++ more) images node image)
    (hmet : ∀ like ∈ met, ∀ p, like.parent = some p → p < t.nodes.length)
    (hcounts : Counts (holder g (images ++ [image])) (declared ++ more) met) :
    Mirrors g (declared ++ more) ⟨t.nodes ++ [node], met⟩ (images ++ [image]) where
  length_eq := by simp [h.length_eq]
  listed := by
    rw [List.filterMap_append, List.filter_append, h.listed, hlisted]
    cases image <;> rfl
  parent_lt := by
    intro i other p hother hp
    rcases getElem?_concat_eq_some hother with hother | ⟨rfl, rfl⟩
    · exact h.parent_lt i other p hother hp
    · exact hlt p hp
  stands := by
    intro i other otherImage hother himage
    -- an earlier node keeps what it stands for, and the new one stands for `image`
    rcases getElem?_concat_eq_some hother with hother | ⟨rfl, rfl⟩
    · have hi := (List.getElem?_eq_some_iff.1 hother).1
      rw [List.getElem?_append_left (by rw [h.length_eq]; exact hi)] at himage
      exact h.stands_append hother himage more [image]
    · rw [← h.length_eq, List.getElem?_concat_length, Option.some.injEq] at himage
      subst himage
      have hholder : holder g (images ++ [image]) node.parent = holder g images node.parent :=
        holder_append_of_lt (by rw [h.length_eq]; exact hlt) [image]
      cases image with
      | some s =>
          obtain ⟨c, hc, hrest⟩ := hstands
          exact ⟨c, by rw [hholder, hc], hrest⟩
      | none =>
          intro c hc
          rw [hholder] at hc
          exact hstands c hc
  met_lt := by
    intro like hlike p hp
    have := hmet like hlike p hp
    simp only [List.length_append, List.length_singleton]
    omega
  counts := hcounts

theorem met_lt_cons (h : Mirrors g declared t images) {p : Option Nat} {c : Symbol}
    (hc : holder g images p = some c) (name : String) (kind : Kind) (arity : UInt32) :
    ∀ like ∈ (⟨p, name, kind, arity⟩ : Likeness) :: t.met, ∀ i,
      like.parent = some i → i < t.nodes.length := by
  intro like hlike i hi
  rcases List.mem_cons.1 hlike with rfl | hlike
  · subst hi
    rw [← h.length_eq]
    exact holder_lt hc
  · exact h.met_lt like hlike i hi

/-- Both sides add a declaration to a held container; it cannot be listed. -/
theorem declare_hidden (h : Mirrors g declared t images) (hgrown : Grown g declared)
    {p : Option Nat} {c : Symbol} (hc : holder g images p = some c) (id : Nat) (name : String)
    (kind : Kind) (arity : UInt32) (implicit accessor : Bool)
    (hlisted : (newSymbol declared id c name kind arity implicit accessor).isListed = false) :
    Mirrors g (declared ++ [newSymbol declared id c name kind arity implicit accessor])
      (t.count ⟨p, name, kind, arity⟩) images where
  length_eq := h.length_eq
  listed := by
    rw [List.filter_append, List.filter_cons_of_neg (by simp [hlisted]), List.filter_nil,
      List.append_nil]
    exact h.listed
  parent_lt := h.parent_lt
  stands := by
    intro i node image hnode himage
    simpa using h.stands_append hnode himage
      [newSymbol declared id c name kind arity implicit accessor] []
  met_lt := h.met_lt_cons hc name kind arity
  counts := h.counts.declare hc (fun _ _ hd hid => h.holder_unique hgrown hc hd hid) id name kind
    arity implicit accessor

/-- The index alone adds a node that stands for no symbol. -/
theorem push_ghost (h : Mirrors g declared t images) (node : IndexedDeclaration)
    (like : Likeness) (hlt : ∀ p, node.parent = some p → p < t.nodes.length)
    (hlikeLt : ∀ p, like.parent = some p → p < t.nodes.length)
    (hlike : ∀ c, holder g images like.parent = some c →
      like.kind.isNamespace = true ∧ existingNamespace? declared c like.name ≠ none)
    (hshadowed : ∀ c, holder g images node.parent = some c → IsShadowed declared c node) :
    Mirrors g declared ⟨t.nodes ++ [node], like :: t.met⟩ (images ++ [none]) := by
  -- the declaration is met first and then gets a node that stands for no symbol
  have hmeet := h.meet hlikeLt hlike
  have hpush : Mirrors g (declared ++ []) ⟨t.nodes ++ [node], like :: t.met⟩
      (images ++ [none]) := by
    refine hmeet.push rfl hlt ?_ hmeet.met_lt ?_
    · rw [List.append_nil]
      exact hshadowed
    · rw [holder_concat_none, List.append_nil]
      exact hmeet.counts
  rw [List.append_nil] at hpush
  exact hpush

/-- Both sides add a declaration to a held container, and it is listed. -/
theorem declare_listed (h : Mirrors g declared t images) (hgrown : Grown g declared)
    {p : Option Nat} {c : Symbol} (hc : holder g images p = some c) (hcmem : c ∈ g :: declared)
    (name : String) (kind : Kind) (arity : UInt32) (implicit accessor : Bool)
    (hnew : kind.isNamespace = true → existingNamespace? declared c name = none)
    (hlisted : (newSymbol declared (g.id + 1 + declared.length) c name kind arity implicit
      accessor).isListed = true) :
    Mirrors g
      (declared ++ [newSymbol declared (g.id + 1 + declared.length) c name kind arity implicit
        accessor])
      ⟨t.nodes ++ [⟨name, kind, arity, t.met.count ⟨p, name, kind, arity⟩, p⟩],
        ⟨p, name, kind, arity⟩ :: t.met⟩
      (images ++ [some (newSymbol declared (g.id + 1 + declared.length) c name kind arity implicit
        accessor)]) := by
  have hmet := h.met_lt_cons hc name kind arity
  refine h.push ?_ (hmet _ List.mem_cons_self) ?_ hmet ?_
  · rw [List.filter_cons_of_pos hlisted]
    rfl
  · exact ⟨c, hc, rfl, rfl, rfl, rfl,
      (h.counts.count_eq_ordinal hc _ name kind arity implicit accessor hnew).symm⟩
  · have hcounts := h.counts.declare hc
      (fun _ _ hd hid => h.holder_unique hgrown hc hd hid) (g.id + 1 + declared.length) name kind
      arity implicit accessor
    -- the new symbol has no members yet, so its node may hold it
    have hfresh : membersIn (declared ++ [newSymbol declared (g.id + 1 + declared.length) c name
        kind arity implicit accessor]) (g.id + 1 + declared.length) = [] := by
      rw [membersIn_append_singleton, newSymbol_containerId?, if_neg, hgrown.membersIn_next]
      rw [Option.some.injEq]
      rcases List.mem_cons.1 hcmem with rfl | hcmem
      · omega
      · have := hgrown.id_bounds hcmem
        omega
    have hhold := hcounts.hold (n := images.length)
      (s := newSymbol declared (g.id + 1 + declared.length) c name kind arity implicit accessor)
      (fun like hlike hparent => by
        have := hmet like hlike _ hparent
        rw [h.length_eq] at this
        omega) hfresh
    have hholder : holder g (images ++ [some (newSymbol declared (g.id + 1 + declared.length) c
        name kind arity implicit accessor)]) = fun q => if q = some images.length then
          some (newSymbol declared (g.id + 1 + declared.length) c name kind arity implicit
            accessor) else holder g images q := by
      funext q
      exact holder_concat_some _ q
    rw [hholder]
    exact hhold

end Mirrors

/-! ## Runs -/

section Run

variable {g : Symbol} {declared : List Symbol} {t : Table} {images : List (Option Symbol)}

/-- Below a container that cannot be listed the assembly goes on alone. -/
theorem mirrors_declareTrees_hidden (hg : g.IsRoot) (hgrown : Grown g declared)
    (h : Mirrors g declared t images) {c : Symbol} (hc : c ∈ declared)
    (hlisted : c.isListed = false) (ds : List Declaration) :
    Mirrors g (declareTrees g.id c ds declared) t images := by
  refine (declareTrees_induction
    (P := fun declared => Grown g declared ∧ Mirrors g declared t images)
    (Q := fun declared c => c ∈ declared ∧ c.isListed = false) ?_ ds c declared ⟨hgrown, h⟩
    ⟨hc, hlisted⟩).1.2
  intro c name kind arity implicit accessor declared hP hQ
  obtain ⟨hgrown, h⟩ := hP
  obtain ⟨hc, hlisted⟩ := hQ
  have hgrown' := (grown_declare hgrown (List.mem_cons_of_mem _ hc) name kind arity implicit
    accessor).1
  rcases declare_cases g.id c name kind arity implicit accessor declared with
    ⟨e, -, he, heq⟩ | ⟨-, heq⟩
  · -- a namespace met again is below the container and cannot be listed either
    obtain ⟨hemem, hecont, -, -⟩ := existingNamespace?_eq_some he
    have hcont := hgrown.container?_of_containerId? hemem (List.mem_cons_of_mem _ hc) hecont
    rw [heq] at hgrown' ⊢
    exact ⟨⟨hgrown', h⟩, ⟨hemem, by rw [Symbol.isListed_eq hcont, hlisted, Bool.and_false]⟩,
      fun _ hother => hother⟩
  · have hnew : (newSymbol declared (g.id + 1 + declared.length) c name kind arity implicit
        accessor).isListed = false := by
      rw [newSymbol_isListed, hlisted, Bool.and_false]
    rw [heq] at hgrown' ⊢
    refine ⟨⟨hgrown', h.append_hidden hnew ?_⟩,
      ⟨List.mem_append_right _ (List.mem_singleton_self _), hnew⟩,
      fun other hother => ⟨List.mem_append_left _ hother.1, hother.2⟩⟩
    -- the container is not held: what is held is listed
    intro p d hd hid
    rw [newSymbol_containerId?, Option.some.injEq] at hid
    obtain ⟨hdmem, hdlisted⟩ := h.holder_mem hg hd
    rw [hgrown.eq_of_id_eq (List.mem_cons_of_mem _ hc) hdmem hid, hdlisted] at hlisted
    exact Bool.noConfusion hlisted

/-- The index goes on alone below a position: it adds nodes that stand for no symbol. -/
def AddsGhosts (g : Symbol) (declared : List Symbol) (ds : List Declaration) : Prop :=
  ∀ (t : Table) (images : List (Option Symbol)) (i : Nat), Mirrors g declared t images →
    images[i]? = some none →
    ∃ n, Mirrors g declared (addTrees (some i) ds t) (images ++ List.replicate n none)

/-- A tree that only the index adds: its root is new there and stands for no symbol. -/
theorem mirrors_addTree_new {children : List Declaration}
    (hchildren : AddsGhosts g declared children) (h : Mirrors g declared t images)
    {p : Option Nat} {name : String} {kind : Kind} {arity : UInt32} {implicit accessor : Bool}
    (hlt : ∀ i, p = some i → i < t.nodes.length)
    (hnew : kind.isNamespace = true → t.findNamespace? p name = none)
    (hlike : ∀ c, holder g images p = some c →
      kind.isNamespace = true ∧ existingNamespace? declared c name ≠ none)
    (hshadowed : ∀ c, holder g images p = some c →
      IsShadowed declared c ⟨name, kind, arity, t.met.count ⟨p, name, kind, arity⟩, p⟩) :
    ∃ n, Mirrors g declared (addTree p ⟨name, kind, arity, implicit, accessor, children⟩ t)
      (images ++ List.replicate n none) := by
  cases hlisted : (!implicit && !accessor && kind.isDeclarable) with
  | false =>
      rw [addTree_skipped arity children hnew hlisted]
      exact ⟨0, by simpa using h.meet hlt hlike⟩
  | true =>
      rw [addTree_pushed arity children hnew hlisted]
      have hpush := h.push_ghost ⟨name, kind, arity, t.met.count ⟨p, name, kind, arity⟩, p⟩
        ⟨p, name, kind, arity⟩ hlt hlt hlike hshadowed
      -- everything below the new node is added to it, and nothing of it stands for a symbol
      obtain ⟨n, hn⟩ := hchildren _ _ t.nodes.length hpush (by
        rw [← h.length_eq, List.getElem?_concat_length])
      refine ⟨n + 1, ?_⟩
      rw [List.append_assoc, List.singleton_append, ← List.replicate_succ] at hn
      exact hn

/-- Below a node that stands for no symbol the index goes on alone. -/
theorem addsGhosts (g : Symbol) (declared : List Symbol) (ds : List Declaration) :
    AddsGhosts g declared ds := by
  induction ds using Declaration.forest_induction with
  | nil =>
      intro t images i h _
      exact ⟨0, by simpa using h⟩
  | cons name kind arity implicit accessor children rest ihChildren ihRest =>
      intro t images i h hi
      have hlt : i < images.length := (List.getElem?_eq_some_iff.1 hi).1
      -- the position holds no symbol, so what has it as its parent is free of any condition
      have hghost : ∀ c, holder g images (some i) ≠ some c := by
        intro c hc
        rw [holder_eq_some, hi] at hc
        simp at hc
      have hfirst : ∃ n, Mirrors g declared
          (addTree (some i) ⟨name, kind, arity, implicit, accessor, children⟩ t)
          (images ++ List.replicate n none) := by
        -- the head is new below the position, or it is a namespace that was added there before
        cases hfind : (if kind.isNamespace then t.findNamespace? (some i) name else none) with
        | none =>
            refine mirrors_addTree_new ihChildren h ?_ ?_ (fun c hc => absurd hc (hghost c))
              (fun c hc => absurd hc (hghost c))
            · intro j hj
              rw [Option.some.injEq] at hj
              rw [← hj, ← h.length_eq]
              exact hlt
            · intro hkind
              rw [if_pos hkind] at hfind
              exact hfind
        | some j =>
            have hkind : kind.isNamespace = true := by
              by_contra hne
              rw [if_neg hne] at hfind
              simp at hfind
            rw [if_pos hkind] at hfind
            rw [addTree_found arity children hkind hfind]
            apply ihChildren t images j h
            -- the namespace found has the same parent, so it stands for no symbol either
            obtain ⟨node, hnode, -, hparent, -⟩ := findNamespace?_eq_some hfind
            obtain ⟨image, himage, hstands⟩ := h.exists_image hnode
            cases image with
            | none => exact himage
            | some s =>
                obtain ⟨c, hc, -⟩ := hstands
                rw [hparent] at hc
                exact absurd hc (hghost c)
      obtain ⟨n, hn⟩ := hfirst
      obtain ⟨m, hm⟩ := ihRest _ _ i hn (by rw [List.getElem?_append_left hlt, hi])
      refine ⟨n + m, ?_⟩
      rw [List.append_assoc, List.replicate_append_replicate] at hm
      exact hm

/-- A namespace that the assembly has, but that cannot be listed, shadows later ones. -/
theorem mirrors_addTree_shadowed (hgrown : Grown g declared) (h : Mirrors g declared t images)
    {p : Option Nat} {c e : Symbol} {name : String} {kind : Kind} (hc : holder g images p = some c)
    (hcmem : c ∈ g :: declared) (hkind : kind.isNamespace = true)
    (he : existingNamespace? declared c name = some e) (helisted : e.isListed = false)
    (arity : UInt32) (implicit accessor : Bool) (children : List Declaration) :
    ∃ n, Mirrors g declared (addTree p ⟨name, kind, arity, implicit, accessor, children⟩ t)
      (images ++ List.replicate n none) := by
  obtain ⟨hemem, hecont, hekind, hename⟩ := existingNamespace?_eq_some he
  cases hfind : t.findNamespace? p name with
  | some i =>
      rw [addTree_found arity children hkind hfind]
      obtain ⟨node, hnode, hnkind, hparent, hnname⟩ := findNamespace?_eq_some hfind
      apply addsGhosts g declared children t images i h
      rw [h.stands_namespace hgrown hc he hnode hparent hnkind hnname, helisted]
      rfl
  | none =>
      refine mirrors_addTree_new (addsGhosts g declared children) h ?_ (fun _ => hfind) ?_ ?_
      · rintro i rfl
        rw [← h.length_eq]
        exact holder_lt hc
      · intro d hd
        rw [hc, Option.some.injEq] at hd
        rw [← hd, he]
        exact ⟨hkind, by simp⟩
      · intro d hd
        rw [hc, Option.some.injEq] at hd
        subst hd
        refine ⟨e, hemem, hgrown.container?_of_containerId? hemem hcmem hecont, helisted, hekind,
          hkind, hename, ?_⟩
        -- with the same arity the hidden namespace has been met, so the node has a later ordinal
        rintro rfl
        have hpos := h.counts.pos p c hc e hemem hecont hekind
        rw [hename, Kind.isNamespace_iff.1 hekind] at hpos
        rw [Kind.isNamespace_iff.1 hkind]
        exact hpos

/-- A listed namespace that the assembly has is in the index. -/
theorem findNamespace?_of_isListed (hgrown : Grown g declared) (h : Mirrors g declared t images)
    {p : Option Nat} {c e : Symbol} {name : String} (hc : holder g images p = some c)
    (he : existingNamespace? declared c name = some e) (helisted : e.isListed = true) :
    ∃ i, t.findNamespace? p name = some i ∧ images[i]? = some (some e) := by
  obtain ⟨hemem, hecont, hekind, hename⟩ := existingNamespace?_eq_some he
  cases hfind : t.findNamespace? p name with
  | some i =>
      obtain ⟨node, hnode, hnkind, hparent, hnname⟩ := findNamespace?_eq_some hfind
      refine ⟨i, rfl, ?_⟩
      rw [h.stands_namespace hgrown hc he hnode hparent hnkind hnname, helisted]
      rfl
  | none =>
      -- the node that stands for the namespace would be found
      obtain ⟨i, hi⟩ := List.getElem?_of_mem (h.mem_images.2 ⟨hemem, helisted⟩)
      have hlt : i < t.nodes.length := by
        rw [← h.length_eq]
        exact (List.getElem?_eq_some_iff.1 hi).1
      have hnode := List.getElem?_eq_getElem hlt
      obtain ⟨d, hd, hcont, hname, hnkind, -, -⟩ := h.stands i _ _ hnode hi
      have hdc : c.id = d.id := by
        rw [Symbol.containerId?_eq hcont, Option.some.injEq] at hecont
        exact hecont.symm
      refine absurd ?_ ((findNamespace?_eq_none.1 hfind) _ (List.getElem_mem hlt) ?_
        (h.holder_unique hgrown hc hd hdc.symm))
      · rw [← hname]
        exact hename
      · rw [← hnkind]
        exact hekind

/-- **An index and an assembly built from the same trees mirror each other.** -/
theorem mirrors_addTrees (hg : g.IsRoot) (ds : List Declaration) :
    ∀ (declared : List Symbol) (t : Table) (images : List (Option Symbol)) (p : Option Nat)
      (c : Symbol), Grown g declared → Mirrors g declared t images →
      holder g images p = some c →
      ∃ more, Mirrors g (declareTrees g.id c ds declared) (addTrees p ds t) (images ++ more) := by
  induction ds using Declaration.forest_induction with
  | nil =>
      intro declared t images p c _ h _
      exact ⟨[], by simpa using h⟩
  | cons name kind arity implicit accessor children rest ihChildren ihRest =>
      intro declared t images p c hgrown h hc
      obtain ⟨hcmem, hclisted⟩ := h.holder_mem hg hc
      have hnext := grown_declare hgrown hcmem name kind arity implicit accessor
      have hlast := (grown_declareTrees hnext.1 hnext.2.1 children).1
      rw [declareTrees_cons, addTrees_cons]
      -- it suffices to follow the first tree
      suffices hfirst : ∃ more, Mirrors g
          (declareTrees g.id (declare g.id c name kind arity implicit accessor declared).1 children
            (declare g.id c name kind arity implicit accessor declared).2)
          (addTree p ⟨name, kind, arity, implicit, accessor, children⟩ t) (images ++ more) by
        obtain ⟨more, hmore⟩ := hfirst
        obtain ⟨last, hrest⟩ := ihRest _ _ _ p c hlast hmore (holder_append hc more)
        exact ⟨more ++ last, by rwa [← List.append_assoc]⟩
      rcases declare_cases g.id c name kind arity implicit accessor declared with
        ⟨e, hkind, he, heq⟩ | ⟨hnew, heq⟩
      · -- a namespace that the assembly has already
        rw [heq]
        cases helisted : e.isListed with
        | true =>
            obtain ⟨i, hfind, hi⟩ := findNamespace?_of_isListed hgrown h hc he helisted
            rw [addTree_found arity children hkind hfind]
            exact ihChildren declared t images (some i) e hgrown h (holder_eq_some.2 hi)
        -- the assembly adds to the namespace that is hidden, the index makes nodes of its own
        | false =>
            obtain ⟨n, hn⟩ := mirrors_addTree_shadowed hgrown h hc hcmem hkind he helisted arity
              implicit accessor children
            exact ⟨_, mirrors_declareTrees_hidden hg hgrown hn (existingNamespace?_eq_some he).1
              helisted children⟩
      · -- a new symbol
        rw [heq] at hnext ⊢
        have hfind : kind.isNamespace = true → t.findNamespace? p name = none :=
          fun hkind => h.findNamespace?_eq_none hc (hnew hkind)
        have hslisted := newSymbol_isListed declared (g.id + 1 + declared.length) c name kind arity
          implicit accessor
        rw [hclisted, Bool.and_true] at hslisted
        cases hlistable : (!implicit && !accessor && kind.isDeclarable) with
        -- the declaration is hidden: only the assembly enters it
        | false =>
            rw [hlistable] at hslisted
            rw [addTree_skipped arity children hfind hlistable]
            refine ⟨[], ?_⟩
            rw [List.append_nil]
            exact mirrors_declareTrees_hidden hg hnext.1
              (h.declare_hidden hgrown hc _ name kind arity implicit accessor hslisted)
              (List.mem_append_right _ (List.mem_singleton_self _)) hslisted children
        -- the declaration is listed: both sides enter it
        | true =>
            rw [hlistable] at hslisted
            rw [addTree_pushed arity children hfind hlistable]
            obtain ⟨more, hmore⟩ := ihChildren _ _ _ (some t.nodes.length) _ hnext.1
              (h.declare_listed hgrown hc hcmem name kind arity implicit accessor hnew hslisted)
              (by rw [holder_concat_some, if_pos (by rw [h.length_eq])])
            exact ⟨_ :: more, by rwa [List.append_assoc, List.singleton_append] at hmore⟩

end Run

end Index

end SymbolSearch
