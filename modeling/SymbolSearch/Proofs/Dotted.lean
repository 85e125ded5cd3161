import SymbolSearch.Proofs.Collect
import SymbolSearch.Proofs.Merged.Names
import SymbolSearch.Proofs.Text.Case
import SymbolSearch.Proofs.Text.Pieces

/-!
# Dotted patterns

A dotted pattern is read into names. It finds the selected source symbols whose path, that is their
own name behind those of their containers, ends in these names, except for letter case
(`Symbol.endsIn`, `returns_findDotted`). The search looks for the last name and then walks up the
containers; the global namespace, which has no name, ends the walk (`insideOf_iff_prefix`).

Names without full stops and without white space around them are read back from the text in which
they are joined, in any case of ASCII letters (`lower_patternNames`). So a symbol with such names on
its path is found by every dotted end of its qualified name.
-/

set_option autoImplicit false

namespace SymbolSearch

open Search

variable {κ : Type}

/-! ## Containers -/

/-- The path of the symbol ends in the given names, except for letter case. -/
def Symbol.endsIn (s : Symbol) (names : List String) : Bool :=
  decide (names.map Text.lower <:+ s.path.map Text.lower)

theorem belowGlobal_cons (node : Node) (above : List Node) :
    belowGlobal (node :: above) =
      if node.kind.isNamespace && above.isEmpty then [] else node :: belowGlobal above := by
  cases above with
  | nil =>
      rw [List.isEmpty_nil, Bool.and_true]
      rfl
  | cons more above =>
      rw [List.isEmpty_cons, Bool.and_false, if_neg Bool.false_ne_true]
      rfl

/-- The walk up the containers compares names until one of them is not there. -/
theorem insideOf_iff_prefix (above : List Node) (names : List String) :
    insideOf above names = true ↔
      names.map Text.lower <+: (belowGlobal above).map fun node => Text.lower node.name := by
  induction names generalizing above with
  | nil =>
      rw [insideOf]
      exact iff_of_true rfl List.nil_prefix
  | cons name names ih =>
      cases above with
      | nil =>
          rw [insideOf]
          exact iff_of_false Bool.false_ne_true (by simp [belowGlobal])
      | cons node above =>
          rw [insideOf, belowGlobal_cons]
          cases hglobal : node.kind.isNamespace && above.isEmpty with
          | true => simp
          | false =>
              simp only [Bool.not_false, Bool.true_and, Bool.and_eq_true, decide_eq_true_eq, ih,
                Bool.false_eq_true, if_false, List.map_cons, List.cons_prefix_cons]
              rw [@eq_comm String]

/-- Whether a declared symbol has the last of some names, and its containers those before it. -/
theorem Symbol.endsIn_eq {s c : Symbol} (hcont : s.container? = some c)
    {names containers : List String} {name : String} (hnames : names.reverse = name :: containers) :
    s.endsIn names =
      (decide (Text.lower name = Text.lower s.name) && insideOf s.above containers) := by
  have hpath : s.path.map Text.lower =
      ((s.node :: belowGlobal s.above).map fun node => Text.lower node.name).reverse := by
    rw [Symbol.path, Symbol.belowGlobal_lineage hcont, Symbol.above_eq hcont, List.map_map,
      List.map_reverse]
    rfl
  rw [Bool.eq_iff_iff, Symbol.endsIn, decide_eq_true_iff, hpath, ← List.reverse_prefix,
    List.reverse_reverse, ← List.map_reverse, hnames, Bool.and_eq_true, decide_eq_true_iff,
    insideOf_iff_prefix, List.map_cons, List.map_cons, List.cons_prefix_cons]
  rfl

/-! ## Searching -/

theorem patternNames_ne_nil (pattern : String) : patternNames pattern ≠ [] := by
  rw [patternNames, Ne, List.map_eq_nil_iff]
  exact Text.splitAt_ne_nil _ _

theorem readDotted_of_empty {pattern : String} (h : [] ∈ patternNames pattern) :
    readDotted pattern = .error (.invalidPattern pattern "empty name segment") := by
  rw [readDotted, if_pos]
  exact List.any_eq_true.2 ⟨[], h, rfl⟩

theorem readDotted_of_names {pattern : String} (h : [] ∉ patternNames pattern) :
    ∃ name containers, readDotted pattern = .ok (name, containers) ∧
      ((patternNames pattern).map String.ofList).reverse = name :: containers := by
  have hany : (patternNames pattern).any List.isEmpty = false := by
    rw [List.any_eq_false]
    intro piece hpiece hempty
    rw [List.isEmpty_iff] at hempty
    exact h (hempty ▸ hpiece)
  cases hnames : (patternNames pattern).reverse.map String.ofList with
  | nil =>
      rw [List.map_eq_nil_iff, List.reverse_eq_nil_iff] at hnames
      exact absurd hnames (patternNames_ne_nil pattern)
  | cons name containers =>
      refine ⟨name, containers, ?_, ?_⟩
      · simp only [readDotted, hany, Bool.false_eq_true, if_false, hnames]
      · rw [← List.map_reverse, hnames]

variable {p : DocumentProject} {s : Session κ}

/-- A pattern with an empty name is refused before anything is searched. -/
theorem run_findDotted_of_empty {pattern : String} (h : [] ∈ patternNames pattern) (filter : Filter)
    (p : DocumentProject) (s : Session κ) :
    (findDotted p.toProject pattern filter).run.run s =
      (.error (.invalidPattern pattern "empty name segment"), s) := by
  rw [findDotted, readDotted_of_empty h]
  rfl

/-- Of the symbols with the last name, those are left whose containers have the names before it. -/
theorem Compilation.filter_insideOf_sourceMatches {c : Compilation} (hgrown : c.source.IsGrown)
    {names containers : List String} {name : String} (hnames : names.reverse = name :: containers)
    (filter : Filter) :
    (c.sourceMatches (.exact name true) filter).filter (fun m => insideOf m.above containers) =
      c.source.declared.filter fun m => m.isIncluded filter && m.endsIn names := by
  rw [Compilation.sourceMatches, List.filter_filter]
  apply List.filter_congr
  intro m hm
  obtain ⟨d, -, hcont, -⟩ := Assembly.Grown.exists_container hgrown m hm
  rw [Symbol.endsIn_eq hcont hnames, Query.matchesName, if_pos rfl]
  ac_rfl

/-- A pattern without empty names finds the selected source symbols whose paths end in its names. -/
theorem returns_findDotted (filter : Filter) (hs : s.token = .live) (hkept : p.IsKeptIn s)
    {pattern : String} (h : [] ∉ patternNames pattern) :
    ∃ s', Returns (findDotted p.toProject pattern filter) s
      ((p.compileIn s).1.source.declared.filter fun m =>
        m.isIncluded filter && m.endsIn ((patternNames pattern).map String.ofList)) s' := by
  obtain ⟨name, containers, hread, hnames⟩ := readDotted_of_names h
  have hcollect : Returns (collectSource p.toProject (.exact name true) filter none []) s _ _ :=
    returns_collectSource (by simp [Query.kind]) hs hkept []
  have hgrown : (p.compileIn s).1.source.IsGrown := by
    obtain ⟨id, name, documents, references, -, -, heq⟩ := hkept.compileIn_eq
    rw [heq]
    exact Assembly.isGrown_build _ _ _ _ _ _
  rw [List.nil_append] at hcollect
  rw [findDotted, hread, ← Compilation.filter_insideOf_sourceMatches hgrown hnames filter]
  exact ⟨_, hcollect.bind (returns_pure _)⟩

/-! ## Names read back -/

/-- A name that is not empty, has no full stop in it and no white space around it. -/
def IsPatternName (name : String) : Prop := IsPlain name ∧ Text.trim name.toList = name.toList

instance (name : String) : Decidable (IsPatternName name) := inferInstanceAs (Decidable (_ ∧ _))

/-- Names are read back from the text in which they are joined. -/
theorem patternNames_intercalate {names : List String} (h : ∀ n ∈ names, IsPatternName n)
    (hne : names ≠ []) :
    patternNames (String.intercalate "." names) = names.map String.toList := by
  have htrimmed : ∀ piece ∈ names.map String.toList, piece ≠ [] ∧ Text.trim piece = piece := by
    intro piece hpiece
    obtain ⟨n, hn, rfl⟩ := List.mem_map.1 hpiece
    exact ⟨mt String.toList_eq_nil_iff.1 (h n hn).1.1, (h n hn).2⟩
  have hdots : ∀ piece ∈ names.map String.toList, '.' ∉ piece := by
    intro piece hpiece
    obtain ⟨n, hn, rfl⟩ := List.mem_map.1 hpiece
    exact (h n hn).1.2
  have hjoin : (String.intercalate "." names).toList =
      ['.'].intercalate (names.map String.toList) := String.toList_intercalate
  rw [patternNames, hjoin, Text.trim_intercalate _ htrimmed,
    Text.splitAt_intercalate hdots (mt List.map_eq_nil_iff.1 hne)]
  conv_rhs => rw [← List.map_id (names.map String.toList)]
  exact List.map_congr_left fun piece hpiece => (htrimmed piece hpiece).2

/-- Reading a pattern does not see the case of ASCII letters. -/
theorem map_toLower_patternNames {pattern pattern' : String}
    (h : pattern.toList.map Char.toLower = pattern'.toList.map Char.toLower) :
    (patternNames pattern).map (List.map Char.toLower) =
      (patternNames pattern').map (List.map Char.toLower) := by
  have hspace : ∀ c : Char, Text.isWhiteSpace c.toLower = Text.isWhiteSpace c :=
    Text.apply_toLower Text.isWhiteSpace (by decide)
  have hdot : ∀ c : Char, c.toLower = '.' ↔ c = '.' := Text.toLower_eq_iff (by decide)
  have hread : ∀ text : String, (patternNames text).map (List.map Char.toLower) =
      (Text.splitAt '.' (Text.trim (text.toList.map Char.toLower))).map Text.trim := by
    intro text
    rw [Text.trim_map hspace, Text.splitAt_map hdot, patternNames, List.map_map, List.map_map]
    exact List.map_congr_left fun piece _ => (Text.trim_map hspace piece).symm
  rw [hread, hread, h]

/-- In any case of ASCII letters, a text of joined names is read as the names, except for letter
case. -/
theorem lower_patternNames {names : List String} (h : ∀ n ∈ names, IsPatternName n)
    (hne : names ≠ []) {pattern : String} (hpattern : pattern.toList.map Char.toLower =
      (String.intercalate "." names).toList.map Char.toLower) :
    [] ∉ patternNames pattern ∧
      ((patternNames pattern).map String.ofList).map Text.lower = names.map Text.lower := by
  have hread := map_toLower_patternNames hpattern
  rw [patternNames_intercalate h hne] at hread
  constructor
  · intro hmem
    have hempty : [] ∈ (names.map String.toList).map (List.map Char.toLower) :=
      hread ▸ List.mem_map.2 ⟨[], hmem, rfl⟩
    obtain ⟨piece, hpiece, hnil⟩ := List.mem_map.1 hempty
    obtain ⟨n, hn, rfl⟩ := List.mem_map.1 hpiece
    exact (h n hn).1.1 (String.toList_eq_nil_iff.1 (List.map_eq_nil_iff.1 hnil))
  · have hlower : ∀ pieces : List (List Char), (pieces.map String.ofList).map Text.lower =
        (pieces.map (List.map Char.toLower)).map fun piece =>
          String.ofList (Text.lowerChars piece) := by
      intro pieces
      rw [List.map_map, List.map_map]
      apply List.map_congr_left
      intro piece _
      simp only [Function.comp_apply, Text.lower, String.toList_ofList,
        Text.lowerChars_map_toLower]
    have hnames : (names.map String.toList).map String.ofList = names := by
      rw [List.map_map]
      exact List.map_id'' (fun n => String.ofList_toList) names
    rw [hlower, hread, ← hlower, hnames]

/-! ## What patterns find -/

/-- **A dotted pattern finds what lies at the end of a path.** If one of its names is empty it is
refused. Otherwise it finds, in order, the declared source symbols that belong into results and
whose paths end in its names, except for letter case. So a symbol with well-formed names on its path
is found by every dotted end of its qualified name, in any case of ASCII letters. -/
theorem findDotted_finds (p : DocumentProject) (filter : Filter) {s : Session κ}
    (hs : s.token = .live) (hkept : p.IsKeptIn s) :
    (∀ pattern : String, [] ∈ patternNames pattern →
      (findDotted p.toProject pattern filter).run.run s =
        (.error (.invalidPattern pattern "empty name segment"), s)) ∧
    (∀ pattern : String, [] ∉ patternNames pattern →
      ∃ s', Returns (findDotted p.toProject pattern filter) s
        ((p.compileIn s).1.source.declared.filter fun m =>
          m.isIncluded filter && m.endsIn ((patternNames pattern).map String.ofList)) s') ∧
    ∀ m ∈ (p.compileIn s).1.source.declared, m.isIncluded filter = true →
      (∀ name ∈ m.path, IsPatternName name) → ∀ names : List String, names ≠ [] →
        names <:+ m.path → ∀ pattern : String, pattern.toList.map Char.toLower =
          (String.intercalate "." names).toList.map Char.toLower →
        ∃ found s', Returns (findDotted p.toProject pattern filter) s found s' ∧ m ∈ found := by
  refine ⟨fun pattern h => run_findDotted_of_empty h filter p s,
    fun pattern h => returns_findDotted filter hs hkept h, ?_⟩
  intro m hm hincluded hpath names hne hsuffix pattern hpattern
  obtain ⟨hnames, hlower⟩ :=
    lower_patternNames (fun n hn => hpath n (hsuffix.subset hn)) hne hpattern
  obtain ⟨s', hreturns⟩ := returns_findDotted filter hs hkept hnames
  refine ⟨_, s', hreturns, List.mem_filter.2 ⟨hm, ?_⟩⟩
  rw [hincluded, Bool.true_and, Symbol.endsIn, decide_eq_true_iff, hlower]
  exact hsuffix.map _

/-- A project with a type in a namespace, and another type with a method of the same name. -/
def collectionsProject : DocumentProject :=
  ⟨⟨0⟩, "App", "App", [⟨⟨"list.txt"⟩, [⟨"Collections", .nameSpace, 0, false, false,
    [⟨"List", .classType, 1, false, false, [⟨"Add", .method, 0, false, false, []⟩]⟩,
      ⟨"Set", .classType, 1, false, false, [⟨"Add", .method, 0, false, false, []⟩]⟩]⟩]⟩], []⟩

/-- An empty name is refused, the container picks one of the two methods, and the type is found in
its namespace in another case. -/
theorem findDotted_finds_collectionsProject :
    (findDotted collectionsProject.toProject "List..Add" .all).run.run Session.initial =
        (.error (.invalidPattern "List..Add" "empty name segment"), Session.initial) ∧
      (∃ found s', Returns (findDotted collectionsProject.toProject " list . ADD " .all)
          Session.initial found s' ∧
        found.map Symbol.qualifiedName = ["Collections.List.Add"]) ∧
      ∃ found s', Returns (findDotted collectionsProject.toProject "cOLLECTIONS.lIST" .all)
          Session.initial found s' ∧
        ∃ m ∈ found, m.qualifiedName = "Collections.List" := by
  obtain ⟨hrefused, hfinds, hfound⟩ := findDotted_finds collectionsProject .all
    (s := Session.initial) rfl (DocumentProject.isKeptIn_of_compiled_eq_nil collectionsProject rfl)
  refine ⟨hrefused _ (by decide), ?_, ?_⟩
  · obtain ⟨s', hreturns⟩ := hfinds " list . ADD " (by decide)
    exact ⟨_, s', hreturns, by decide⟩
  · obtain ⟨found, s', hreturns, hmem⟩ := hfound _ (List.mem_of_getElem? (i := 1) rfl) rfl
      (by decide) ["Collections", "List"] (by decide) (by decide) "cOLLECTIONS.lIST" (by decide)
    exact ⟨found, s', hreturns, _, hmem, by decide⟩

end SymbolSearch
