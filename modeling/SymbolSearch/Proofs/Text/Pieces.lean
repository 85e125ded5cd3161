import SymbolSearch.Text.Occurrence
import SymbolSearch.Text.Property
import Mathlib.Data.List.Basic

/-!
# Pieces of a text

Cutting a text at a separator undoes joining pieces that have no separator in them
(`splitAt_intercalate`). Trimming leaves a text alone exactly if there is no white space at either
end (`trim_eq_self_iff`), so a join of trimmed pieces is trimmed (`trim_intercalate`). Both commute
with maps of characters that do not touch the separator or the white space (`splitAt_map`,
`trim_map`).
-/

set_option autoImplicit false

namespace SymbolSearch.Text

/-! ## Cutting -/

theorem splitAt_ne_nil (separator : Char) (text : List Char) : splitAt separator text ≠ [] := by
  cases text with
  | nil => exact List.cons_ne_nil _ _
  | cons c cs =>
      rw [splitAt]
      split
      · exact List.cons_ne_nil _ _
      · split
        · exact List.cons_ne_nil _ _
        · exact List.cons_ne_nil _ _

/-- A text is cut where the separator stands. -/
theorem splitAt_append_cons (separator : Char) (before after : List Char) :
    splitAt separator (before ++ separator :: after) =
      splitAt separator before ++ splitAt separator after := by
  induction before with
  | nil => simp [splitAt]
  | cons c cs ih =>
      rw [List.cons_append, splitAt, splitAt, ih]
      by_cases hc : c = separator
      · rw [if_pos hc, if_pos hc, List.cons_append]
      · rw [if_neg hc, if_neg hc]
        -- the first piece is longer by the character
        cases hpieces : splitAt separator cs with
        | nil => exact absurd hpieces (splitAt_ne_nil separator cs)
        | cons piece pieces => simp only [List.cons_append]

theorem splitAt_of_notMem {separator : Char} {text : List Char} (h : separator ∉ text) :
    splitAt separator text = [text] := by
  induction text with
  | nil => rfl
  | cons c cs ih =>
      rw [List.mem_cons, not_or] at h
      rw [splitAt, if_neg (Ne.symm h.1), ih h.2]

theorem splitAt_map {separator : Char} {f : Char → Char}
    (hf : ∀ c, f c = separator ↔ c = separator) (text : List Char) :
    splitAt separator (text.map f) = (splitAt separator text).map (List.map f) := by
  induction text with
  | nil => rfl
  | cons c cs ih =>
      rw [List.map_cons, splitAt, splitAt, ih]
      by_cases hc : c = separator
      · rw [if_pos hc, if_pos ((hf c).2 hc)]
        rfl
      · rw [if_neg hc, if_neg (mt (hf c).1 hc)]
        cases hpieces : splitAt separator cs with
        | nil => exact absurd hpieces (splitAt_ne_nil separator cs)
        | cons piece pieces => rfl

/-- Cutting undoes joining. -/
theorem splitAt_intercalate {separator : Char} {pieces : List (List Char)}
    (h : ∀ p ∈ pieces, separator ∉ p) (hne : pieces ≠ []) :
    splitAt separator ([separator].intercalate pieces) = pieces := by
  induction pieces with
  | nil => exact absurd rfl hne
  | cons p ps ih =>
      have hp := splitAt_of_notMem (h p List.mem_cons_self)
      cases ps with
      | nil => rw [List.intercalate_singleton, hp]
      | cons q qs =>
          rw [List.intercalate_cons_cons, List.append_assoc, List.singleton_append,
            splitAt_append_cons, hp, List.singleton_append,
            ih (fun r hr => h r (List.mem_cons_of_mem _ hr)) (List.cons_ne_nil _ _)]

/-! ## Trimming -/

theorem trimStart_eq_dropWhile (text : List Char) :
    trimStart text = text.dropWhile isWhiteSpace := by
  induction text with
  | nil => rfl
  | cons c cs ih =>
      rw [trimStart, List.dropWhile_cons, ih]

theorem trim_map {f : Char → Char} (hf : ∀ c, isWhiteSpace (f c) = isWhiteSpace c)
    (text : List Char) : trim (text.map f) = (trim text).map f := by
  have hcomp : isWhiteSpace ∘ f = isWhiteSpace := funext hf
  simp only [trim, trimStart_eq_dropWhile, List.dropWhile_map, hcomp, ← List.map_reverse]

theorem trimStart_suffix (text : List Char) : trimStart text <:+ text := by
  rw [trimStart_eq_dropWhile]
  exact List.dropWhile_suffix _

theorem trimStart_eq_self_iff (text : List Char) :
    trimStart text = text ↔ ∀ c, text.head? = some c → isWhiteSpace c = false := by
  cases text with
  | nil => exact iff_of_true rfl (fun c hc => nomatch hc)
  | cons c cs =>
      simp only [List.head?_cons, Option.some.injEq, forall_eq']
      rw [trimStart]
      cases hc : isWhiteSpace c with
      | false => exact iff_of_true rfl rfl
      | true =>
          -- what is left is shorter
          refine iff_of_false (fun heq => ?_) Bool.noConfusion
          have hlength := (trimStart_suffix cs).length_le
          rw [if_pos rfl] at heq
          rw [heq, List.length_cons] at hlength
          omega

/-- Trimming leaves a text alone exactly if there is no white space at its ends. -/
theorem trim_eq_self_iff (text : List Char) :
    trim text = text ↔ (∀ c, text.head? = some c → isWhiteSpace c = false) ∧
      ∀ c, text.getLast? = some c → isWhiteSpace c = false := by
  rw [← trimStart_eq_self_iff, ← List.head?_reverse, ← trimStart_eq_self_iff]
  constructor
  · intro h
    -- both passes have to keep the length
    have hback := (trimStart_suffix (trimStart text).reverse).length_le
    have hfront := trimStart_suffix text
    have hlength : (trim text).length = text.length := by rw [h]
    rw [trim, List.length_reverse] at hlength
    rw [List.length_reverse] at hback
    have hstart : trimStart text = text :=
      hfront.eq_of_length (Nat.le_antisymm hfront.length_le (hlength ▸ hback))
    rw [trim, hstart] at h
    exact ⟨hstart, List.reverse_eq_iff.1 h⟩
  · rintro ⟨hstart, hend⟩
    rw [trim, hstart, hend, List.reverse_reverse]

theorem intercalate_ne_nil (separator : List Char) {p : List Char} (h : p ≠ [])
    (ps : List (List Char)) :
    separator.intercalate (p :: ps) ≠ [] := by
  cases ps with
  | nil => rwa [List.intercalate_singleton]
  | cons q qs =>
      rw [List.intercalate_cons_cons, List.append_assoc]
      exact List.append_ne_nil_of_left_ne_nil h _

/-- A join begins as one of its pieces and ends as one of them. -/
theorem ends_intercalate (separator : List Char) {pieces : List (List Char)}
    (h : ∀ p ∈ pieces, p ≠ []) (hne : pieces ≠ []) :
    (∃ p ∈ pieces, (separator.intercalate pieces).head? = p.head?) ∧
      ∃ p ∈ pieces, (separator.intercalate pieces).getLast? = p.getLast? := by
  induction pieces with
  | nil => exact absurd rfl hne
  | cons p ps ih =>
      cases ps with
      | nil =>
          rw [List.intercalate_singleton]
          exact ⟨⟨p, List.mem_cons_self, rfl⟩, ⟨p, List.mem_cons_self, rfl⟩⟩
      | cons q qs =>
          have hrest := intercalate_ne_nil separator
            (h q (List.mem_cons_of_mem _ List.mem_cons_self)) qs
          obtain ⟨-, r, hr, hlast⟩ :=
            ih (fun r hr => h r (List.mem_cons_of_mem _ hr)) (List.cons_ne_nil _ _)
          rw [List.intercalate_cons_cons]
          refine ⟨⟨p, List.mem_cons_self, ?_⟩, ⟨r, List.mem_cons_of_mem _ hr, ?_⟩⟩
          · rw [List.append_assoc, List.head?_append_of_ne_nil p (h p List.mem_cons_self)]
          · rw [List.getLast?_append_of_ne_nil _ hrest, hlast]

/-- A join of pieces without white space at their ends has none at its own. -/
theorem trim_intercalate (separator : List Char) {pieces : List (List Char)}
    (h : ∀ p ∈ pieces, p ≠ [] ∧ trim p = p) :
    trim (separator.intercalate pieces) = separator.intercalate pieces := by
  by_cases hne : pieces = []
  · rw [hne]
    rfl
  obtain ⟨⟨p, hp, hhead⟩, ⟨q, hq, hlast⟩⟩ := ends_intercalate separator
    (fun p hp => (h p hp).1) hne
  rw [trim_eq_self_iff, hhead, hlast]
  exact ⟨((trim_eq_self_iff p).1 (h p hp).2).1, ((trim_eq_self_iff q).1 (h q hq).2).2⟩

end SymbolSearch.Text
