import SymbolSearch.Bytes.Digest
import SymbolSearch.Path
import SymbolSearch.Proofs.Text.Pieces

/-!
# Paths of files in a directory

If a file name is joined to a path, it is the last name of the new path (`Path.names_join`). With
another extension, only this name is another one (`Path.exists_names_withExtension`). A checksum is
a text of hexadecimal digits, so with an extension behind it it is a file name
(`Bytes.isFileName_checksum`).
-/

set_option autoImplicit false

namespace SymbolSearch

/-! ## Names -/

/-- A name that a file in a directory can have. -/
structure Path.IsFileName (name : String) : Prop where
  ne_empty : name ≠ ""
  no_slash : '/' ∉ name.toList
  ne_dot : name ≠ "."
  ne_dots : name ≠ ".."

namespace Path

variable {p : Path} {name : String}

theorem names_append_slash (text name : String) (hname : IsFileName name) :
    (⟨text ++ "/" ++ name⟩ : Path).names = (⟨text⟩ : Path).names ++ [name] := by
  have hsplit : Text.splitAt '/' (text ++ "/" ++ name).toList =
      Text.splitAt '/' text.toList ++ [name.toList] := by
    rw [String.toList_append, String.toList_append, List.append_assoc,
      ← Text.splitAt_of_notMem hname.no_slash]
    exact Text.splitAt_append_cons '/' text.toList name.toList
  have hkept : (String.ofList name.toList) ≠ "" := by
    rw [String.ofList_toList]
    exact hname.ne_empty
  rw [names, names, hsplit, List.map_append, List.filter_append, List.map_singleton,
    List.filter_cons_of_pos (by simpa using hkept), List.filter_nil, String.ofList_toList]

/-- A slash at the end does not count. -/
theorem names_slash (text : String) : (⟨text ++ "/"⟩ : Path).names = (⟨text⟩ : Path).names := by
  have hsplit : Text.splitAt '/' (text ++ "/").toList = Text.splitAt '/' text.toList ++ [[]] := by
    rw [String.toList_append]
    exact Text.splitAt_append_cons '/' text.toList []
  rw [names, names, hsplit, List.map_append, List.filter_append]
  simp

theorem names_of_isFileName (hname : IsFileName name) : (⟨name⟩ : Path).names = [name] := by
  have hkept : (String.ofList name.toList) ≠ "" := by
    rw [String.ofList_toList]
    exact hname.ne_empty
  rw [names, Text.splitAt_of_notMem hname.no_slash, List.map_singleton,
    List.filter_cons_of_pos (by simpa using hkept), List.filter_nil, String.ofList_toList]

theorem exists_of_endsInSlash (h : p.endsInSlash = true) : ∃ text, p = ⟨text ++ "/"⟩ := by
  rw [endsInSlash, decide_eq_true_iff, List.getLast?_eq_some_iff] at h
  obtain ⟨start, hstart⟩ := h
  refine ⟨String.ofList start, ?_⟩
  have htext : p.text = String.ofList start ++ "/" := by
    rw [← String.toList_inj, hstart, String.toList_append, String.toList_ofList]
    rfl
  rw [← htext]

/-- A file name that is joined to a path is the last name. -/
theorem names_join (p : Path) (hname : IsFileName name) :
    (p.join ⟨name⟩).names = p.names ++ [name] := by
  have hrelative : (⟨name⟩ : Path).isAbsolute = false := by
    rw [isAbsolute, decide_eq_false_iff_not]
    intro hhead
    exact hname.no_slash (List.mem_of_mem_head? hhead)
  obtain ⟨text⟩ := p
  rw [join, hrelative, Bool.false_or]
  by_cases hempty : text = ""
  · subst hempty
    exact names_of_isFileName hname
  rw [if_neg (by simpa using hempty)]
  cases hslash : endsInSlash ⟨text⟩ with
  | false =>
      rw [if_neg Bool.false_ne_true]
      exact names_append_slash text name hname
  | true =>
      -- the name is put behind the slash that is there
      obtain ⟨start, hstart⟩ := exists_of_endsInSlash hslash
      rw [if_pos rfl, hstart, names_append_slash start name hname, names_slash]

/-! ## Extensions -/

/-- The last component of a path is its last name, if a file can have this name. -/
theorem getLast?_components {names : List String} (hnames : p.names = names ++ [name])
    (hname : IsFileName name) : p.components.getLast? = some name := by
  rw [components, hnames, List.filter_append, List.filter_cons_of_pos (by simpa using hname.ne_dot),
    List.filter_nil, ← List.append_assoc, List.getLast?_concat]

theorem fileName?_eq {names : List String} (hnames : p.names = names ++ [name])
    (hname : IsFileName name) : p.fileName? = some name := by
  have hslash : name ≠ "/" := by
    rintro rfl
    exact hname.no_slash (by decide)
  rw [fileName?, getLast?_components hnames hname, Option.filter_some_pos]
  simp [hslash, hname.ne_dot, hname.ne_dots]

theorem exists_parent {names : List String} (hnames : p.names = names ++ [name])
    (hname : IsFileName name) : ∃ parent, p.parent? = some parent := by
  have hlast := getLast?_components hnames hname
  have hne : ¬ (p.components = [] || p.components = ["/"]) = true := by
    intro hroot
    rw [Bool.or_eq_true, decide_eq_true_iff, decide_eq_true_iff] at hroot
    rcases hroot with hroot | hroot
    · rw [hroot] at hlast
      cases hlast
    · rw [hroot, List.getLast?_singleton, Option.some.injEq] at hlast
      exact hname.no_slash (by rw [← hlast]; decide)
  exact ⟨_, by rw [parent?, if_neg hne]⟩

/-- The stem of a name is what stands before its extension. -/
theorem stem_append {start extension : String} (hstart : start ≠ "")
    (hextension : '.' ∉ extension.toList) : stem (start ++ "." ++ extension) = start := by
  have hreversed : (start ++ "." ++ extension).toList.reverse =
      extension.toList.reverse ++ '.' :: start.toList.reverse := by
    simp
  have hdrop : (extension.toList.reverse ++ '.' :: start.toList.reverse).dropWhile (· ≠ '.') =
      '.' :: start.toList.reverse := by
    rw [List.dropWhile_append_of_pos, List.dropWhile_cons_of_neg (by simp)]
    intro c hc
    rw [List.mem_reverse] at hc
    rw [decide_eq_true_iff]
    rintro rfl
    exact hextension hc
  have hne : start.toList.reverse.isEmpty = false := by simpa using hstart
  rw [stem, hreversed, hdrop]
  simp only [hne, Bool.false_eq_true, if_false, List.reverse_reverse, String.ofList_toList]

/-- With another extension, the last name is another one. -/
theorem exists_names_withExtension {names : List String} {start extension extension' : String}
    (hnames : p.names = names ++ [start ++ "." ++ extension])
    (hname : IsFileName (start ++ "." ++ extension)) (hstart : start ≠ "") (hdot : start ≠ ".")
    (hextension : '.' ∉ extension.toList) (hname' : IsFileName (start ++ "." ++ extension')) :
    ∃ names', (p.withExtension extension').names = names' ++ [start ++ "." ++ extension'] := by
  obtain ⟨parent, hparent⟩ := exists_parent hnames hname
  refine ⟨parent.names, ?_⟩
  rw [withExtension, fileName?_eq hnames hname, hparent]
  simp only [stem_append hstart hextension, hdot, decide_false, Bool.false_and, Bool.false_eq_true,
    if_false]
  exact names_join parent hname'

end Path

/-! ## Checksums -/

namespace Bytes

theorem hexDigit_ne : ∀ n < 16, Text.hexDigit n ≠ '/' ∧ Text.hexDigit n ≠ '.' := by
  decide

theorem notMem_checksum (bytes : List UInt8) :
    '/' ∉ (checksum bytes).toList ∧ '.' ∉ (checksum bytes).toList := by
  have hdigits : ∀ c ∈ (checksum bytes).toList, c ≠ '/' ∧ c ≠ '.' := by
    intro c hc
    rw [checksum, hexText, String.toList_ofList, List.mem_flatMap] at hc
    obtain ⟨b, -, hc⟩ := hc
    have hb := b.toNat_lt
    simp only [List.mem_cons, List.not_mem_nil, or_false] at hc
    rcases hc with rfl | rfl
    · exact hexDigit_ne _ (by omega)
    · exact hexDigit_ne _ (by omega)
  exact ⟨fun h => (hdigits _ h).1 rfl, fun h => (hdigits _ h).2 rfl⟩

theorem length_bigEndian (n value : Nat) : (bigEndian n value).length = n := by
  induction n generalizing value with
  | zero => rfl
  | succ n ih => rw [bigEndian, List.length_append, ih, List.length_singleton]

theorem digest_ne_nil (message : List UInt8) : digest message ≠ [] := by
  intro hnil
  rw [digest, List.flatMap_eq_nil_iff] at hnil
  have hlength := congrArg List.length (hnil _ List.mem_cons_self)
  rw [length_bigEndian] at hlength
  exact absurd hlength (by decide)

theorem checksum_ne_empty (bytes : List UInt8) : checksum bytes ≠ "" := by
  intro hempty
  rw [checksum, hexText] at hempty
  have hnil : (digest bytes).flatMap (fun b =>
      [Text.hexDigit (b.toNat / 16), Text.hexDigit (b.toNat % 16)]) = [] := by
    rw [← String.toList_ofList (l := List.flatMap _ _), hempty]
    rfl
  cases hdigest : digest bytes with
  | nil => exact digest_ne_nil bytes hdigest
  | cons b rest =>
      rw [hdigest, List.flatMap_cons] at hnil
      cases hnil

theorem checksum_ne_dot (bytes : List UInt8) : checksum bytes ≠ "." := by
  intro hdot
  apply (notMem_checksum bytes).2
  rw [hdot]
  decide

/-- A checksum with an extension is a file name. -/
theorem isFileName_checksum (bytes : List UInt8) {extension : String}
    (hextension : '/' ∉ extension.toList) :
    Path.IsFileName (checksum bytes ++ "." ++ extension) := by
  obtain ⟨hslash, hdot⟩ := notMem_checksum bytes
  -- the first character is a digit
  obtain ⟨c, cs, hfirst⟩ : ∃ c cs, (checksum bytes).toList = c :: cs := by
    apply List.exists_cons_of_ne_nil
    intro hnil
    apply checksum_ne_empty bytes
    rw [← String.toList_inj, hnil]
    rfl
  have hne : ∀ text : String, text.toList.head? = some '.' ∨ text.toList = [] →
      checksum bytes ++ "." ++ extension ≠ text := by
    rintro text htext rfl
    rw [String.toList_append, String.toList_append, hfirst] at htext
    rcases htext with htext | htext
    · obtain rfl : c = '.' := Option.some.inj htext
      exact hdot (by rw [hfirst]; exact List.mem_cons_self)
    · cases htext
  refine ⟨hne "" (.inr rfl), ?_, hne "." (.inl rfl), hne ".." (.inl rfl)⟩
  rw [String.toList_append, String.toList_append, List.mem_append, List.mem_append, not_or, not_or]
  exact ⟨⟨hslash, by decide⟩, hextension⟩

end Bytes

end SymbolSearch
