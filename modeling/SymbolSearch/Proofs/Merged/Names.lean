import SymbolSearch.Proofs.Merged.Reachable

/-!
# Qualified names

Merged namespaces are found by qualified names. If the names of namespaces are not empty and
have no full stop in them (`IsPlain`), a qualified name tells the names that it is made of
(`intercalate_injective`), and these tell the namespace within its assembly
(`Assembly.eq_of_qualifiedName_eq`).
-/

set_option autoImplicit false

namespace SymbolSearch

/-- A name that is not empty and has no full stop in it. -/
def IsPlain (name : String) : Prop := name ≠ "" ∧ '.' ∉ name.toList

instance (name : String) : Decidable (IsPlain name) := inferInstanceAs (Decidable (_ ∧ _))

/-! ## Joining names -/

/-- Names without full stops can be read off the text in which they are joined by full stops. -/
theorem splitOn_intercalate {names : List String} (hnames : ∀ n ∈ names, '.' ∉ n.toList)
    (hne : names ≠ []) :
    (String.intercalate "." names).toList.splitOn '.' = names.map String.toList := by
  rw [String.toList_intercalate]
  apply List.splitOn_intercalate '.'
  · intro l hl
    obtain ⟨n, hn, rfl⟩ := List.mem_map.1 hl
    exact hnames n hn
  · rw [Ne, List.map_eq_nil_iff]
    exact hne

/-- The joined text tells names without full stops, if there are any. -/
theorem intercalate_injective_of_ne_nil {names names' : List String}
    (hnames : ∀ n ∈ names, '.' ∉ n.toList) (hnames' : ∀ n ∈ names', '.' ∉ n.toList)
    (hne : names ≠ []) (hne' : names' ≠ [])
    (h : String.intercalate "." names = String.intercalate "." names') : names = names' := by
  have hsplit := splitOn_intercalate hnames hne
  rw [h, splitOn_intercalate hnames' hne'] at hsplit
  exact (List.map_injective_iff.2 (fun _ _ => String.toList_injective) hsplit).symm

/-- No plain names are joined to the empty text. -/
theorem intercalate_ne_empty {names : List String} (hnames : ∀ n ∈ names, IsPlain n)
    (hne : names ≠ []) : String.intercalate "." names ≠ "" := by
  intro hempty
  -- the empty text is one empty name, which is not plain
  have hsingle : names = [""] :=
    intercalate_injective_of_ne_nil (fun n hn => (hnames n hn).2) (by simp) hne (by simp) hempty
  rw [hsingle] at hnames
  exact (hnames "" List.mem_cons_self).1 rfl

theorem intercalate_injective {names names' : List String} (hnames : ∀ n ∈ names, IsPlain n)
    (hnames' : ∀ n ∈ names', IsPlain n)
    (h : String.intercalate "." names = String.intercalate "." names') : names = names' := by
  -- the empty list has to be told apart first, since it is joined like a list of one empty name
  by_cases hne : names = []
  · subst hne
    by_contra hne'
    exact intercalate_ne_empty hnames' (Ne.symm hne') h.symm
  · by_cases hne' : names' = []
    · subst hne'
      exact absurd h (intercalate_ne_empty hnames hne)
    · exact intercalate_injective_of_ne_nil (fun n hn => (hnames n hn).2)
        (fun n hn => (hnames' n hn).2) hne hne' h

/-! ## Paths of names -/

/-- The names from the outermost container below the global namespace down to the symbol. -/
def Symbol.path (s : Symbol) : List String := (belowGlobal s.lineage).reverse.map Node.name

theorem Symbol.path_of_container {s c : Symbol} (h : s.container? = some c) :
    s.path = c.path ++ [s.name] := by
  rw [Symbol.path, Symbol.belowGlobal_lineage h, List.reverse_cons, List.map_append]
  rfl

namespace Assembly

variable {a : Assembly}

/-- The namespaces of the assembly have plain names and no type parameters. -/
def IsWellNamed (a : Assembly) : Prop :=
  ∀ s ∈ a.declared, s.kind.isNamespace = true → IsPlain s.name ∧ s.arity = 0

/-- Plain names of namespaces in trees are plain names of namespaces in an assembly. -/
theorem isWellNamed_build (id : CompilationId) (ordinal : Nat) (name : String)
    (origin : Origin) (firstId : Nat) {roots : List Declaration}
    (h : ∀ d ∈ Declaration.preorderList roots, d.kind.isNamespace = true →
      IsPlain d.name ∧ d.arity = 0) :
    (build id ordinal name origin firstId roots).IsWellNamed := by
  intro s hs hns
  rw [declared_build] at hs
  rcases exists_declaration roots _ [] s hs with hs | ⟨d, hd, hname, hkind, harity⟩
  · exact absurd hs List.not_mem_nil
  · rw [← hname, ← harity]
    rw [← hkind] at hns
    exact h d hd hns

@[simp] theorem path_globalNamespace : a.globalNamespace.path = [] := rfl

/-- The containers of exposed namespaces are namespaces, so their names are plain too. -/
theorem isPlain_of_mem_path (h : a.IsGrown) (hnamed : a.IsWellNamed) :
    ∀ c ∈ a.globalNamespace :: a.declared, c ∈ a.globalNamespace :: a.exposed →
      c.kind.isNamespace = true → ∀ n ∈ c.path, IsPlain n := by
  refine Grown.container_induction h ?_ ?_
  · intro _ _ n hn
    exact absurd hn List.not_mem_nil
  · intro s hs c _ hcont ih hexposed hns n hn
    rw [Symbol.path_of_container hcont, List.mem_append, List.mem_singleton] at hn
    -- a name on the path is that of a container or of the namespace itself
    rcases hn with hn | rfl
    · obtain ⟨hcmem, hcns⟩ := isNamespace_of_container h hexposed hcont
      exact ih hcmem hcns n hn
    · exact (hnamed s hs hns).1

/-- The names on the way to an exposed namespace tell it. -/
theorem eq_of_path_eq (h : a.IsGrown) :
    ∀ c ∈ a.globalNamespace :: a.declared, c ∈ a.globalNamespace :: a.exposed →
      c.kind.isNamespace = true → ∀ d ∈ a.globalNamespace :: a.exposed,
        d.kind.isNamespace = true → c.path = d.path → c = d := by
  refine Grown.container_induction h ?_ ?_
  · intro _ _ d hd _ hpath
    rcases List.mem_cons.1 hd with rfl | hd
    · rfl
    · obtain ⟨e, -, -, hcont⟩ := container_of_exposed h hd
      -- a path is not empty below the global namespace
      rw [Symbol.path_of_container hcont] at hpath
      simp at hpath
  · intro s hs c _ hcont ih hexposed hns d hd hdns hpath
    rw [Symbol.path_of_container hcont] at hpath
    rcases List.mem_cons.1 hd with rfl | hd
    · simp at hpath
    · obtain ⟨e, he, hens, hecont⟩ := container_of_exposed h hd
      rw [Symbol.path_of_container hecont] at hpath
      obtain ⟨hpath, hname⟩ := List.append_inj' hpath rfl
      -- the containers are the same, and a container has each namespace once
      obtain ⟨hcmem, hcns⟩ := isNamespace_of_container h hexposed hcont
      have hsame : c = e := ih hcmem hcns e he hens hpath
      have hcontainers : s.containerId? = d.containerId? := by
        rw [Symbol.containerId?_eq hcont, Symbol.containerId?_eq hecont, hsame]
      exact Grown.namespace_unique h hs (mem_declared_of_exposed hd) hns hdns hcontainers
        (List.singleton_inj.1 hname)

/-- The qualified name of an exposed namespace tells it. -/
theorem eq_of_qualifiedName_eq (h : a.IsGrown) (hnamed : a.IsWellNamed) {c d : Symbol}
    (hc : c ∈ a.globalNamespace :: a.exposed) (hcns : c.kind.isNamespace = true)
    (hd : d ∈ a.globalNamespace :: a.exposed) (hdns : d.kind.isNamespace = true)
    (hname : c.qualifiedName = d.qualifiedName) : c = d := by
  have hcmem := mem_symbols_of_exposed hc
  have hdmem := mem_symbols_of_exposed hd
  apply eq_of_path_eq h c hcmem hc hcns d hd hdns
  exact intercalate_injective (isPlain_of_mem_path h hnamed c hcmem hc hcns)
    (isPlain_of_mem_path h hnamed d hdmem hd hdns) hname

end Assembly

end SymbolSearch
