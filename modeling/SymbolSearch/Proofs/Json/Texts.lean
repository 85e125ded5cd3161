import SymbolSearch.Json.Reader
import SymbolSearch.Json.Writer

/-!
# Reading written texts

A character of a text is written as itself or as an escape that stands for it
(`writeChar_cases`), so a reader that is given a written text takes the text and stops behind its
closing quote, whatever comes there (`Reader.textRest_writeText`).
-/

set_option autoImplicit false

namespace SymbolSearch.Json

open Reader

theorem hexValue?_hexDigit : ∀ n < 16, Text.hexValue? (Text.hexDigit n) = some n := by decide

theorem lt_blank_iff {c : Char} : c < ' ' ↔ c.toNat < 32 := Iff.rfl

namespace Reader

/-- A written control character is read back from its four hexadecimal digits. -/
theorem escaped_control {c : Char} (hc : c < ' ') (rest : List Char) :
    escaped ('u' :: '0' :: '0' :: Text.hexDigit (c.toNat / 16) :: Text.hexDigit (c.toNat % 16) ::
      rest) = .ok (c, rest) := by
  rw [lt_blank_iff] at hc
  have hhigh := hexValue?_hexDigit (c.toNat / 16) (by omega)
  have hlow := hexValue?_hexDigit (c.toNat % 16) (by omega)
  have hzero : Text.hexValue? '0' = some 0 := by decide
  have hquad : hexQuad ('0' :: '0' :: Text.hexDigit (c.toNat / 16) ::
      Text.hexDigit (c.toNat % 16) :: rest) = .ok (c.toNat, rest) := by
    rw [hexQuad, hzero, hhigh, hlow]
    simp only [Except.ok.injEq, Prod.mk.injEq, and_true]
    omega
  have hunit : codeUnits c.toNat rest = .ok (c, rest) := by
    unfold codeUnits
    rw [if_neg (by simp; omega), if_pos (by simp; omega), Char.ofNat_toNat]
  rw [escaped]
  simp only [Char.reduceEq, decide_false, Bool.false_or, Bool.false_eq_true, if_false, if_true,
    hquad, hunit]

end Reader

/-- A character is written as an escape that stands for it, or as itself if it is none of those
that need an escape. -/
theorem writeChar_cases (c : Char) :
    (∃ escape, writeChar c = '\\' :: escape ∧
      ∀ rest, escaped (escape ++ rest) = .ok (c, rest)) ∨
    (writeChar c = [c] ∧ c ≠ '"' ∧ c ≠ '\\' ∧ ¬ c < ' ') := by
  rw [writeChar]
  by_cases hquote : c = '"'
  · subst hquote
    exact Or.inl ⟨['"'], rfl, fun rest => rfl⟩
  rw [if_neg hquote]
  by_cases hbackslash : c = '\\'
  · subst hbackslash
    exact Or.inl ⟨['\\'], rfl, fun rest => rfl⟩
  rw [if_neg hbackslash]
  by_cases hb : c = '\x08'
  · subst hb
    exact Or.inl ⟨['b'], rfl, fun rest => rfl⟩
  rw [if_neg hb]
  by_cases hf : c = '\x0c'
  · subst hf
    exact Or.inl ⟨['f'], rfl, fun rest => rfl⟩
  rw [if_neg hf]
  by_cases hn : c = '\n'
  · subst hn
    exact Or.inl ⟨['n'], rfl, fun rest => rfl⟩
  rw [if_neg hn]
  by_cases hr : c = '\r'
  · subst hr
    exact Or.inl ⟨['r'], rfl, fun rest => rfl⟩
  rw [if_neg hr]
  by_cases ht : c = '\t'
  · subst ht
    exact Or.inl ⟨['t'], rfl, fun rest => rfl⟩
  rw [if_neg ht]
  by_cases hcontrol : c < ' '
  · rw [if_pos hcontrol]
    exact Or.inl ⟨_, rfl, fun rest => escaped_control hcontrol rest⟩
  · rw [if_neg hcontrol]
    exact Or.inr ⟨rfl, hquote, hbackslash, hcontrol⟩

namespace Reader

/-- The characters of a written text are read one after the other. The induction is on these
characters, each of which takes one step of the reader. -/
theorem quotedRest_writeChars (chars : List Char) {fuel : Nat} (hfuel : chars.length < fuel)
    (rest : List Char) :
    quotedRest fuel (chars.flatMap writeChar ++ '"' :: rest) = .ok (chars, rest) := by
  induction chars generalizing fuel with
  | nil =>
      obtain ⟨fuel, rfl⟩ := Nat.exists_eq_add_one_of_ne_zero (Nat.ne_of_gt hfuel)
      rfl
  | cons c chars ih =>
      obtain ⟨fuel, rfl⟩ := Nat.exists_eq_add_one_of_ne_zero (Nat.ne_zero_of_lt hfuel)
      have hrest := ih (Nat.lt_of_succ_lt_succ hfuel)
      rw [List.flatMap_cons, List.append_assoc]
      rcases writeChar_cases c with
        ⟨escape, hwritten, hescape⟩ | ⟨hwritten, hquote, hbackslash, hshown⟩
      · rw [hwritten, List.cons_append, quotedRest, if_neg (by decide), if_pos rfl, hescape]
        simp only [hrest]
      · rw [hwritten, List.singleton_append, quotedRest, if_neg hquote, if_neg hbackslash,
          if_neg hshown]
        simp only [hrest]

theorem length_le_flatMap_writeChar (chars : List Char) :
    chars.length ≤ (chars.flatMap writeChar).length := by
  induction chars with
  | nil => exact Nat.le_refl 0
  | cons c chars ih =>
      have hpos : 0 < (writeChar c).length := by
        rcases writeChar_cases c with ⟨escape, hwritten, -⟩ | ⟨hwritten, -⟩ <;> simp [hwritten]
      rw [List.flatMap_cons, List.length_append, List.length_cons]
      omega

/-- A written text is read back behind its opening quote. -/
theorem textRest_writeText (s : String) (rest : List Char) :
    textRest (s.toList.flatMap writeChar ++ '"' :: rest) = .ok (s, rest) := by
  have hlength := length_le_flatMap_writeChar s.toList
  rw [textRest, quotedRest_writeChars s.toList _ rest]
  · simp only [String.ofList_toList]
  · rw [List.length_append, List.length_cons]
    omega

end Reader

end SymbolSearch.Json
