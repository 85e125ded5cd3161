import SymbolSearch.Merged
import SymbolSearch.Proofs.Assembly.Growth

/-!
# Walks through namespaces

`reachable` goes through the members of a namespace and enters the namespaces among them. It
visits symbols in another order than that of declaration, but each container's members in
order and once (`membersIn_reachable_self`, `membersIn_reachable`, `nodup_reachable`), and it
never visits a symbol before its container (`Walk`, `walk_reachable`).

For an assembly the symbols visited from its global namespace on are those whose containers are
all namespaces (`Assembly.mem_exposed`).
-/

set_option autoImplicit false

namespace SymbolSearch

open Assembly

/-! ## What is visited -/

theorem reachable_cons_member {k : Nat} {s : Symbol} (h : s.containerId? = some k)
    (rest : List Symbol) :
    reachable k (s :: rest) =
      s :: ((if s.kind.isNamespace then reachable s.id rest else []) ++ reachable k rest) := by
  simp [reachable, h]

theorem reachable_cons_other {k : Nat} {s : Symbol} (h : s.containerId? ≠ some k)
    (rest : List Symbol) : reachable k (s :: rest) = reachable k rest := by
  simp [reachable, h]

/-- From a member on, a walk visits the member, what is inside it if it is a namespace, and what
comes later. -/
theorem mem_reachable_cons_member {k : Nat} {s : Symbol} (h : s.containerId? = some k)
    {rest : List Symbol} {u : Symbol} :
    u ∈ reachable k (s :: rest) ↔
      u = s ∨ (s.kind.isNamespace = true ∧ u ∈ reachable s.id rest) ∨ u ∈ reachable k rest := by
  rw [reachable_cons_member h, List.mem_cons, List.mem_append]
  cases s.kind.isNamespace with
  | false => simp
  | true => simp

theorem mem_of_mem_reachable {l : List Symbol} {k : Nat} {s : Symbol} (h : s ∈ reachable k l) :
    s ∈ l := by
  induction l generalizing k with
  | nil => exact h
  | cons a l ih =>
      by_cases ha : a.containerId? = some k
      · rcases (mem_reachable_cons_member ha).1 h with rfl | ⟨-, h⟩ | h
        · exact List.mem_cons_self
        · exact List.mem_cons_of_mem _ (ih h)
        · exact List.mem_cons_of_mem _ (ih h)
      · rw [reachable_cons_other ha] at h
        exact List.mem_cons_of_mem _ (ih h)

/-- What is visited is a member of the namespace where the walk starts, or of a namespace that
is visited. -/
theorem container_of_mem_reachable {l : List Symbol} {k : Nat} {s : Symbol}
    (h : s ∈ reachable k l) :
    s.containerId? = some k ∨
      ∃ u ∈ reachable k l, u.kind.isNamespace = true ∧ s.containerId? = some u.id := by
  induction l generalizing k with
  | nil => exact absurd h List.not_mem_nil
  | cons a l ih =>
      by_cases ha : a.containerId? = some k
      · simp only [mem_reachable_cons_member ha] at h ⊢
        rcases h with rfl | ⟨hkind, h⟩ | h
        · exact Or.inl ha
        · -- inside the namespace `a` the walk starts from `a`, which is visited itself
          apply Or.inr
          rcases ih h with hcont | ⟨u, hu, hns, hcont⟩
          · exact ⟨a, Or.inl rfl, hkind, hcont⟩
          · exact ⟨u, Or.inr (Or.inl ⟨hkind, hu⟩), hns, hcont⟩
        · rcases ih h with hcont | ⟨u, hu, hns, hcont⟩
          · exact Or.inl hcont
          · exact Or.inr ⟨u, Or.inr (Or.inr hu), hns, hcont⟩
      · rw [reachable_cons_other ha] at h ⊢
        exact ih h

theorem membersIn_reachable_eq_nil {l : List Symbol} {k j : Nat} (hne : j ≠ k)
    (hnot : ∀ u ∈ reachable k l, u.id ≠ j) : membersIn (reachable k l) j = [] := by
  rw [membersIn, List.filter_eq_nil_iff]
  intro s hs hj
  rw [decide_eq_true_eq] at hj
  -- a visited symbol is in the start or in a visited namespace, and `j` is neither
  rcases container_of_mem_reachable hs with hcont | ⟨u, hu, -, hcont⟩
  · rw [hj, Option.some.injEq] at hcont
    exact hne hcont
  · rw [hj, Option.some.injEq] at hcont
    exact hnot u hu hcont.symm

/-! ## Numbered symbols -/

/-- The symbols are numbered in ascending order from after `k` on, and containers before their
members. -/
structure Ascends (k : Nat) (l : List Symbol) : Prop where
  lt : ∀ s ∈ l, k < s.id
  pairwise : l.Pairwise fun s t => s.id < t.id
  container_lt : ∀ s ∈ l, ∀ j, s.containerId? = some j → j < s.id

namespace Ascends

variable {k : Nat} {s : Symbol} {l : List Symbol}

theorem tail (h : Ascends k (s :: l)) : Ascends k l where
  lt := fun t ht => h.lt t (List.mem_cons_of_mem _ ht)
  pairwise := (List.pairwise_cons.1 h.pairwise).2
  container_lt := fun t ht => h.container_lt t (List.mem_cons_of_mem _ ht)

theorem tail_head (h : Ascends k (s :: l)) : Ascends s.id l where
  lt := (List.pairwise_cons.1 h.pairwise).1
  pairwise := (List.pairwise_cons.1 h.pairwise).2
  container_lt := fun t ht => h.container_lt t (List.mem_cons_of_mem _ ht)

end Ascends

/-- Walks from different starts have no symbol in common. -/
theorem reachable_disjoint {l : List Symbol} {k j : Nat} (hk : Ascends k l) (hj : Ascends j l)
    (hne : k ≠ j) : ∀ u ∈ reachable k l, ∀ w ∈ reachable j l, u.id ≠ w.id := by
  induction l generalizing k j with
  | nil => exact fun u hu => absurd hu List.not_mem_nil
  | cons s l ih =>
      have hafter : ∀ {i : Nat}, ∀ w ∈ reachable i l, s.id < w.id :=
        fun w hw => hk.tail_head.lt w (mem_of_mem_reachable hw)
      have hks := hk.lt s List.mem_cons_self
      have hjs := hj.lt s List.mem_cons_self
      intro u hu w hw
      by_cases hsk : s.containerId? = some k
      · -- a symbol has one container, so only one of the two walks visits `s`
        have hsj : s.containerId? ≠ some j := by
          rw [hsk]
          exact fun h => hne (Option.some.inj h)
        rw [reachable_cons_other hsj] at hw
        rcases (mem_reachable_cons_member hsk).1 hu with rfl | ⟨-, hu⟩ | hu
        · exact Nat.ne_of_lt (hafter w hw)
        · exact ih hk.tail_head hj.tail (by omega) u hu w hw
        · exact ih hk.tail hj.tail hne u hu w hw
      · rw [reachable_cons_other hsk] at hu
        by_cases hsj : s.containerId? = some j
        · rcases (mem_reachable_cons_member hsj).1 hw with rfl | ⟨-, hw⟩ | hw
          · exact Nat.ne_of_gt (hafter u hu)
          · exact ih hk.tail hj.tail_head (by omega) u hu w hw
          · exact ih hk.tail hj.tail hne u hu w hw
        · rw [reachable_cons_other hsj] at hw
          exact ih hk.tail hj.tail hne u hu w hw

/-- Nothing is visited twice. -/
theorem nodup_reachable {l : List Symbol} {k : Nat} (h : Ascends k l) : (reachable k l).Nodup := by
  induction l generalizing k with
  | nil => exact List.nodup_nil
  | cons s l ih =>
      by_cases hs : s.containerId? = some k
      · have hks := h.lt s List.mem_cons_self
        have hafter : ∀ {i : Nat}, s ∉ reachable i l := fun hmem =>
          Nat.lt_irrefl _ (h.tail_head.lt s (mem_of_mem_reachable hmem))
        rw [reachable_cons_member hs, List.nodup_cons, List.mem_append, List.nodup_append]
        -- what is inside `s` and what comes after it are walks from different starts
        split
        · refine ⟨?_, ih h.tail_head, ih h.tail, ?_⟩
          · rintro (hmem | hmem)
            · exact hafter hmem
            · exact hafter hmem
          · rintro u hu w hw rfl
            exact reachable_disjoint h.tail_head h.tail (by omega) u hu u hw rfl
        · refine ⟨?_, List.nodup_nil, ih h.tail, ?_⟩
          · rintro (hmem | hmem)
            · exact absurd hmem List.not_mem_nil
            · exact hafter hmem
          · exact fun u hu => absurd hu List.not_mem_nil
      · rw [reachable_cons_other hs]
        exact ih h.tail

/-- The members of the start are visited in order. -/
theorem membersIn_reachable_self {l : List Symbol} {k : Nat} (h : Ascends k l) :
    membersIn (reachable k l) k = membersIn l k := by
  induction l generalizing k with
  | nil => rfl
  | cons s l ih =>
      by_cases hs : s.containerId? = some k
      · -- nothing inside `s` is a member of the start
        have hinner : membersIn (if s.kind.isNamespace then reachable s.id l else []) k = [] := by
          split
          · apply membersIn_reachable_eq_nil (Nat.ne_of_lt (h.lt s List.mem_cons_self))
            intro u hu
            exact Nat.ne_of_gt (h.tail.lt u (mem_of_mem_reachable hu))
          · rfl
        rw [reachable_cons_member hs, membersIn_cons, membersIn_cons, if_pos hs, if_pos hs,
          membersIn_append, hinner, List.nil_append, ih h.tail]
      · rw [reachable_cons_other hs, membersIn_cons, if_neg hs, ih h.tail]

/-- The members of a namespace that is visited are visited in order. -/
theorem membersIn_reachable {l : List Symbol} {k : Nat} (h : Ascends k l) :
    ∀ u ∈ reachable k l, u.kind.isNamespace = true →
      membersIn (reachable k l) u.id = membersIn l u.id := by
  induction l generalizing k with
  | nil => exact fun u hu => absurd hu List.not_mem_nil
  | cons s l ih =>
      intro u hu hns
      have hks := h.lt s List.mem_cons_self
      by_cases hs : s.containerId? = some k
      · have hku : k < u.id := h.lt u (mem_of_mem_reachable hu)
        -- `s` itself is a member of the start and not of `u`
        have hsu : s.containerId? ≠ some u.id := by
          rw [hs, Ne, Option.some.injEq]
          omega
        rw [reachable_cons_member hs, membersIn_cons, membersIn_cons, if_neg hsu, if_neg hsu,
          membersIn_append]
        rcases (mem_reachable_cons_member hs).1 hu with rfl | ⟨hkind, hu⟩ | hu
        · -- the namespace is entered now, and nothing visited later is inside it
          have houter : membersIn (reachable k l) u.id = [] := by
            apply membersIn_reachable_eq_nil (Nat.ne_of_gt hku)
            intro w hw
            exact Nat.ne_of_gt (h.tail_head.lt w (mem_of_mem_reachable hw))
          rw [if_pos hns, membersIn_reachable_self h.tail_head, houter, List.append_nil]
        · -- the namespace is inside `s`, and what comes after `s` is not
          have houter : membersIn (reachable k l) u.id = [] := by
            apply membersIn_reachable_eq_nil (Nat.ne_of_gt hku)
            intro w hw
            exact reachable_disjoint h.tail h.tail_head (by omega) w hw u hu
          rw [if_pos hkind, ih h.tail_head u hu hns, houter, List.append_nil]
        · -- the namespace comes after `s`, and what is inside `s` is not inside it
          have hinner : membersIn (if s.kind.isNamespace then reachable s.id l else []) u.id =
              [] := by
            split
            · apply membersIn_reachable_eq_nil
              · exact Nat.ne_of_gt (h.tail_head.lt u (mem_of_mem_reachable hu))
              · intro w hw
                exact reachable_disjoint h.tail_head h.tail (by omega) w hw u hu
            · rfl
          rw [hinner, List.nil_append, ih h.tail u hu hns]
      · rw [reachable_cons_other hs] at hu ⊢
        have hsu : s.containerId? ≠ some u.id := by
          intro hcont
          have hlt := h.container_lt s List.mem_cons_self _ hcont
          have hgt := h.tail_head.lt u (mem_of_mem_reachable hu)
          omega
        rw [membersIn_cons, if_neg hsu, ih h.tail u hu hns]

/-! ## The order of a walk -/

/-- Symbols in an order in which each one is a member of the namespace `g` or of an earlier
namespace. -/
inductive Walk (g : Symbol) : List Symbol → Prop where
  | nil : Walk g []
  | snoc {visited : List Symbol} {c s : Symbol} : Walk g visited → c ∈ g :: visited →
      c.kind.isNamespace = true → s.containerId? = some c.id → Walk g (visited ++ [s])

/-- A walk may go on with everything reachable from a namespace that it has visited. -/
theorem Walk.append_reachable {g : Symbol} (l : List Symbol) :
    ∀ (visited : List Symbol) (c : Symbol), Walk g visited → c ∈ g :: visited →
      c.kind.isNamespace = true → Walk g (visited ++ reachable c.id l) := by
  induction l with
  | nil =>
      intro visited c h _ _
      rw [reachable, List.append_nil]
      exact h
  | cons s l ih =>
      intro visited c h hc hns
      by_cases hs : s.containerId? = some c.id
      · have hnext : Walk g (visited ++ [s]) := h.snoc hc hns hs
        rw [reachable_cons_member hs, ← List.singleton_append, ← List.append_assoc,
          ← List.append_assoc]
        -- `s` is visited next; if it is a namespace, the walk through it comes first
        split
        next hkind =>
          apply ih _ c (ih _ s hnext _ hkind) _ hns
          · exact List.mem_cons_of_mem _ (List.mem_append_right _ (List.mem_singleton_self s))
          · rw [List.append_assoc]
            exact mem_cons_append_left hc _
        next =>
          rw [List.append_nil]
          exact ih _ c hnext (mem_cons_append_left hc _) hns
      · rw [reachable_cons_other hs]
        exact ih visited c h hc hns

/-- Whatever a walk visits is a member of the namespace `g` or of a namespace that it visits. -/
theorem Walk.exists_container {g : Symbol} {visited : List Symbol} (h : Walk g visited) :
    ∀ u ∈ visited, ∃ d ∈ g :: visited, d.kind.isNamespace = true ∧
      u.containerId? = some d.id := by
  induction h with
  | nil => exact fun u hu => absurd hu List.not_mem_nil
  | snoc _ hc hns hcont ih =>
      intro u hu
      rcases List.mem_append.1 hu with hu | hu
      · obtain ⟨d, hd, hdns, hdcont⟩ := ih u hu
        exact ⟨d, mem_cons_append_left hd _, hdns, hdcont⟩
      · rw [List.mem_singleton.1 hu]
        exact ⟨_, mem_cons_append_left hc _, hns, hcont⟩

/-! ## Walks through an assembly -/

namespace Assembly

/-- The symbols that a walk from the global namespace on visits. Merged namespaces are made of
them. -/
def exposed (a : Assembly) : List Symbol := reachable a.firstId a.declared

variable {a : Assembly}

theorem ascends_declared (h : a.IsGrown) : Ascends a.firstId a.declared where
  lt := fun s hs => (Grown.id_bounds h hs).1
  pairwise := by
    rw [← List.pairwise_map (f := Symbol.id) (R := fun i j => i < j), Grown.map_id h]
    exact List.pairwise_lt_range'
  container_lt := fun s hs j hj => Grown.containerId?_lt h hs hj

theorem mem_declared_of_exposed {s : Symbol} (hs : s ∈ a.exposed) : s ∈ a.declared :=
  mem_of_mem_reachable hs

theorem mem_symbols_of_exposed {c : Symbol} (hc : c ∈ a.globalNamespace :: a.exposed) :
    c ∈ a.globalNamespace :: a.declared := by
  rcases List.mem_cons.1 hc with rfl | hc
  · exact List.mem_cons_self
  · exact List.mem_cons_of_mem _ (mem_declared_of_exposed hc)

theorem nodup_exposed (h : a.IsGrown) : a.exposed.Nodup := nodup_reachable (ascends_declared h)

theorem walk_exposed (a : Assembly) : Walk a.globalNamespace a.exposed := by
  have hwalk := Walk.append_reachable (g := a.globalNamespace) a.declared [] a.globalNamespace
    Walk.nil List.mem_cons_self rfl
  rw [List.nil_append] at hwalk
  exact hwalk

/-- The exposed members of an exposed namespace are all its members, in order. -/
theorem membersIn_exposed (h : a.IsGrown) {c : Symbol} (hc : c ∈ a.globalNamespace :: a.exposed)
    (hns : c.kind.isNamespace = true) : membersIn a.exposed c.id = membersIn a.declared c.id := by
  rcases List.mem_cons.1 hc with rfl | hc
  · exact membersIn_reachable_self (ascends_declared h)
  · exact membersIn_reachable (ascends_declared h) c hc hns

/-- The container of an exposed symbol is an exposed namespace. -/
theorem container_of_exposed (h : a.IsGrown) {s : Symbol} (hs : s ∈ a.exposed) :
    ∃ c ∈ a.globalNamespace :: a.exposed, c.kind.isNamespace = true ∧ s.container? = some c := by
  have hmem := mem_declared_of_exposed hs
  rcases container_of_mem_reachable hs with hcont | ⟨c, hc, hns, hcont⟩
  · exact ⟨a.globalNamespace, List.mem_cons_self, rfl,
      Grown.container?_of_containerId? h hmem List.mem_cons_self hcont⟩
  · exact ⟨c, List.mem_cons_of_mem _ hc, hns, Grown.container?_of_containerId? h hmem
      (List.mem_cons_of_mem _ (mem_declared_of_exposed hc)) hcont⟩

theorem isNamespace_of_container (h : a.IsGrown) {s c : Symbol}
    (hs : s ∈ a.globalNamespace :: a.exposed) (hcont : s.container? = some c) :
    c ∈ a.globalNamespace :: a.exposed ∧ c.kind.isNamespace = true := by
  rcases List.mem_cons.1 hs with rfl | hs
  · simp at hcont
  · obtain ⟨d, hd, hns, hdcont⟩ := container_of_exposed h hs
    rw [hcont, Option.some.injEq] at hdcont
    rw [hdcont]
    exact ⟨hd, hns⟩

/-- A member of an exposed namespace is exposed. -/
theorem exposed_of_container (h : a.IsGrown) {s c : Symbol} (hs : s ∈ a.declared)
    (hc : c ∈ a.globalNamespace :: a.exposed) (hns : c.kind.isNamespace = true)
    (hcont : s.container? = some c) : s ∈ a.exposed := by
  have hmem : s ∈ membersIn a.exposed c.id := by
    rw [membersIn_exposed h hc hns]
    exact mem_membersIn.2 ⟨hs, Symbol.containerId?_eq hcont⟩
  exact (mem_membersIn.1 hmem).1

/-- A symbol whose containers are all namespaces is exposed. -/
theorem mem_exposed (h : a.IsGrown) : ∀ s ∈ a.globalNamespace :: a.declared,
    (∀ node ∈ s.above, node.kind.isNamespace = true) → s ∈ a.globalNamespace :: a.exposed := by
  refine Grown.container_induction h ?_ ?_
  · exact fun _ => List.mem_cons_self
  · -- all containers of `c` are containers of `s`, and `c` is one itself
    intro s hs c hc hcont ih hall
    rw [Symbol.above_eq hcont, Symbol.lineage_eq] at hall
    have hcmem := ih fun node hnode => hall node (List.mem_cons_of_mem _ hnode)
    have hns : c.kind.isNamespace = true := hall c.node List.mem_cons_self
    exact List.mem_cons_of_mem _ (exposed_of_container h hs hcmem hns hcont)

end Assembly

end SymbolSearch
