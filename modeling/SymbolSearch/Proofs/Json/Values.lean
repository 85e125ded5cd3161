import SymbolSearch.Proofs.Json.Texts
import Mathlib.Data.List.Basic

/-!
# Reading written values

A reader `Reader.Reads` a written form when it takes the value from it, behind any blanks and in
front of whatever may follow a value (`Reader.IsEnd`). Texts, truth values, natural numbers below
`2 ^ 64` and optional values are read in this sense.
-/

set_option autoImplicit false

namespace SymbolSearch.Json

namespace Reader

variable {α β : Type}

/-! ## Steps of a reader -/

/-- Behind a step that has succeeded the next one goes on with what is left. -/
theorem bind_of_ok {r : Reader α} {f : α → Reader β} {cs rest : List Char} {a : α}
    (h : r cs = .ok (a, rest)) : (r >>= f) cs = f a rest := by
  change (r cs >>= fun p => f p.1 p.2) = f a rest
  rw [h]
  rfl

/-- The first character behind blanks is looked at. -/
theorem peek_append {blanks : List Char} (hblanks : ∀ b ∈ blanks, isBlank b = true) {c : Char}
    (hc : isBlank c = false) (cs : List Char) :
    peek (blanks ++ c :: cs) = .ok (some c, c :: cs) := by
  rw [peek, List.dropWhile_append_of_pos hblanks, List.dropWhile_cons, hc,
    if_neg Bool.false_ne_true]
  rfl

theorem valueStart_append {blanks : List Char} (hblanks : ∀ b ∈ blanks, isBlank b = true)
    {c : Char} (hc : isBlank c = false) (cs : List Char) :
    valueStart (blanks ++ c :: cs) = .ok (c, c :: cs) := by
  rw [valueStart, bind_of_ok (peek_append hblanks hc cs)]
  rfl

theorem skip_cons (c : Char) (cs : List Char) : skip (c :: cs) = .ok ((), cs) := rfl

/-- What may follow a written value: nothing at all, the next member or the line of the closing
brace. -/
def IsEnd : List Char → Prop
  | [] => True
  | c :: _ => c = ',' ∨ c = '\n'

/-- The reader takes `a` from what is written of it, behind blanks and in front of an end. -/
def Reads (r : Reader α) (written : List Char) (a : α) : Prop :=
  ∀ blanks rest, (∀ b ∈ blanks, isBlank b = true) → IsEnd rest →
    r (blanks ++ (written ++ rest)) = .ok (a, rest)

/-- A reader that looks at the first character of a value passes over blanks. -/
theorem reads_of_valueStart {f : Char → Reader α} {c : Char} {written : List Char} {a : α}
    (hc : isBlank c = false)
    (h : ∀ rest, IsEnd rest → f c (c :: (written ++ rest)) = .ok (a, rest)) :
    (valueStart >>= f).Reads (c :: written) a := by
  intro blanks rest hblanks hrest
  rw [List.cons_append, bind_of_ok (valueStart_append hblanks hc (written ++ rest))]
  exact h rest hrest

/-! ## Texts and truth values -/

theorem toList_writeText (s : String) :
    (writeText s).toList = '"' :: (s.toList.flatMap writeChar ++ ['"']) := by
  rw [writeText, String.toList_ofList, List.cons_append]

theorem reads_text (s : String) : text.Reads (writeText s).toList s := by
  rw [toList_writeText, text]
  refine reads_of_valueStart rfl fun rest _ => ?_
  rw [if_pos rfl, bind_of_ok (skip_cons _ _), List.append_assoc]
  exact textRest_writeText s rest

theorem keyword_append (word rest : List Char) : keyword word (word ++ rest) = .ok ((), rest) := by
  induction word with
  | nil => rfl
  | cons w word ih =>
      rw [List.cons_append, keyword]
      simp only [if_true, ih]

theorem reads_bool (b : Bool) : bool.Reads (writeBool b).toList b := by
  rw [bool]
  cases b with
  | true =>
      have hwritten : (writeBool true).toList = ['t', 'r', 'u', 'e'] := by decide
      rw [hwritten]
      refine reads_of_valueStart rfl fun rest _ => ?_
      rw [if_pos rfl, bind_of_ok (skip_cons _ _), bind_of_ok (keyword_append ['r', 'u', 'e'] rest)]
      rfl
  | false =>
      have hwritten : (writeBool false).toList = ['f', 'a', 'l', 's', 'e'] := by decide
      rw [hwritten]
      refine reads_of_valueStart rfl fun rest _ => ?_
      rw [if_neg (by decide), if_pos rfl, bind_of_ok (skip_cons _ _),
        bind_of_ok (keyword_append ['a', 'l', 's', 'e'] rest)]
      rfl

/-! ## Natural numbers -/

/-- Only the number zero is written with a zero in front. -/
theorem exists_toDigits_cons {n : Nat} (hn : n ≠ 0) :
    ∃ c cs, Nat.toDigits 10 n = c :: cs ∧ c ≠ '0' := by
  induction n using Nat.strongRecOn with
  | _ n ih =>
    rw [Nat.toDigits_eq_if (by decide)]
    split
    · exact ⟨n.digitChar, [], rfl, mt Nat.digitChar_eq_zero.1 hn⟩
    · obtain ⟨c, cs, hdigits, hc⟩ := ih (n / 10) (by omega) (by omega)
      exact ⟨c, cs ++ [(n % 10).digitChar], by rw [hdigits, List.cons_append], hc⟩

theorem le_ofDigitChars (ds : List Char) (n : Nat) : n ≤ Nat.ofDigitChars 10 ds n := by
  induction ds generalizing n with
  | nil => exact Nat.le_refl n
  | cons d ds ih =>
      rw [Nat.ofDigitChars_cons]
      exact Nat.le_trans (by omega) (ih _)

/-- All digits of a number below `2 ^ 64` are kept. -/
theorem keepDigits_eq {ds : List Char} {n : Nat} (h : Nat.ofDigitChars 10 ds n < UInt64.size) :
    keepDigits n ds = (Nat.ofDigitChars 10 ds n, []) := by
  induction ds generalizing n with
  | nil => rfl
  | cons d ds ih =>
      have hstep : Nat.ofDigitChars 10 (d :: ds) n =
          Nat.ofDigitChars 10 ds (n * 10 + digitValue d) := by
        rw [Nat.ofDigitChars_cons, Nat.mul_comm, digitValue]
      rw [hstep] at h ⊢
      have hkeep : n * 10 + digitValue d < 0x10000000000000000 :=
        Nat.lt_of_le_of_lt (le_ofDigitChars ds _) h
      rw [keepDigits, if_pos hkeep, ih h]

/-- A number ends where a value may end. -/
theorem IsEnd.span_digits {rest : List Char} (hrest : IsEnd rest) :
    rest.takeWhile isDigit = [] ∧ rest.dropWhile isDigit = rest ∧
      (rest.head?.map isDigit).getD false = false := by
  cases rest with
  | nil => exact ⟨rfl, rfl, rfl⟩
  | cons e rest => rcases hrest with rfl | rfl <;> exact ⟨rfl, rfl, rfl⟩

/-- Neither a fraction nor an exponent begins where a value may end. -/
theorem IsEnd.no_fraction {rest : List Char} (hrest : IsEnd rest) :
    fraction? rest = .ok (none, rest) ∧ exponent? rest = .ok (none, rest) := by
  cases rest with
  | nil => exact ⟨rfl, rfl⟩
  | cons e rest => rcases hrest with rfl | rfl <;> exact ⟨rfl, rfl⟩

theorem wholeDigits_toDigits (n : Nat) {rest : List Char} (hrest : IsEnd rest) :
    wholeDigits (Nat.toDigits 10 n ++ rest) = .ok (Nat.toDigits 10 n, rest) := by
  obtain ⟨htake, hdrop, hhead⟩ := hrest.span_digits
  by_cases hn : n = 0
  · subst hn
    rw [Nat.toDigits_zero, List.singleton_append, wholeDigits, if_pos rfl, hhead]
    rfl
  · obtain ⟨c, cs, hdigits, hc⟩ := exists_toDigits_cons hn
    have hall : ∀ d ∈ c :: cs, isDigit d = true := by
      intro d hd
      rw [← hdigits] at hd
      exact Nat.isDigit_of_mem_toDigits (by decide) (by decide) hd
    have hcs : ∀ d ∈ cs, isDigit d = true := fun d hd => hall d (List.mem_cons_of_mem _ hd)
    rw [hdigits, List.cons_append, wholeDigits, if_neg hc, if_pos (hall c List.mem_cons_self),
      List.takeWhile_append_of_pos hcs, List.dropWhile_append_of_pos hcs, htake, hdrop,
      List.append_nil]

theorem unsignedNumber_toDigits {n : Nat} (hn : n < UInt64.size) {rest : List Char}
    (hrest : IsEnd rest) :
    unsignedNumber true (Nat.toDigits 10 n ++ rest) = .ok (.natural n, rest) := by
  obtain ⟨hfraction, hexponent⟩ := hrest.no_fraction
  rw [unsignedNumber, bind_of_ok (wholeDigits_toDigits n hrest), bind_of_ok hfraction,
    bind_of_ok hexponent]
  have hvalue : Nat.ofDigitChars 10 (Nat.toDigits 10 n) 0 = n := Nat.ofDigitChars_ten_toDigits
  rw [keepDigits_eq (by rw [hvalue]; exact hn), hvalue]
  rfl

theorem reads_natural {limit n : Nat} (hlimit : n < limit) (hn : n < UInt64.size) :
    (natural limit).Reads (toString n).toList n := by
  rw [Nat.toString_eq_repr, Nat.toList_repr]
  obtain ⟨c, cs, hdigits⟩ := List.exists_cons_of_ne_nil (Nat.toDigits_ne_nil (n := n) (b := 10))
  have hc : isDigit c = true := by
    apply Nat.isDigit_of_mem_toDigits (b := 10) (n := n) (by decide) (by decide)
    rw [hdigits]
    exact List.mem_cons_self
  have hblank : isBlank c = false := by
    rw [Bool.eq_false_iff]
    intro hblank
    simp only [isBlank, Bool.or_eq_true, decide_eq_true_eq] at hblank
    rcases hblank with ((rfl | rfl) | rfl) | rfl <;> exact absurd hc (by decide)
  have hminus : c ≠ '-' := by
    rintro rfl
    exact absurd hc (by decide)
  rw [hdigits, natural]
  refine reads_of_valueStart hblank fun rest hrest => ?_
  have hnumber : numberAt c (c :: (cs ++ rest)) = .ok (.natural n, rest) := by
    rw [numberAt, if_neg hminus, ← List.cons_append, ← hdigits]
    exact unsignedNumber_toDigits hn hrest
  rw [if_pos (by rw [hc, Bool.or_true]), bind_of_ok hnumber]
  simp only [hlimit, if_true]
  rfl

/-! ## Optional values -/

/-- An optional value is read if its written form cannot be taken for `null`. -/
theorem reads_option {value : Reader α} {write : α → String} {o : Option α}
    (h : ∀ a ∈ o, value.Reads (write a).toList a ∧
      ∃ c cs, (write a).toList = c :: cs ∧ isBlank c = false ∧ c ≠ 'n') :
    (option value).Reads (writeOption write o).toList o := by
  intro blanks rest hblanks hrest
  rw [option]
  cases o with
  | none =>
      have hwritten : "null".toList = ['n', 'u', 'l', 'l'] := by decide
      rw [writeOption, hwritten, List.cons_append, bind_of_ok (peek_append hblanks rfl _)]
      change (skip >>= fun _ => _) _ = _
      rw [bind_of_ok (skip_cons _ _), bind_of_ok (keyword_append ['u', 'l', 'l'] rest)]
      rfl
  | some a =>
      obtain ⟨hreads, c, cs, hwritten, hblank, hc⟩ := h a rfl
      have hvalue := hreads [] rest (by simp) hrest
      rw [hwritten, List.nil_append, List.cons_append] at hvalue
      rw [writeOption, hwritten, List.cons_append, bind_of_ok (peek_append hblanks hblank _)]
      calc _ = (value >>= fun a => pure (some a)) (c :: (cs ++ rest)) := by
            refine congrFun ?_ _
            split
            · next hnull => exact absurd (Option.some.inj hnull) hc
            · rfl
        _ = .ok (some a, rest) := by
            rw [bind_of_ok hvalue]
            rfl

end Reader

end SymbolSearch.Json
