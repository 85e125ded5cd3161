import SymbolSearch.Bytes.Codec
import Mathlib.Data.String.Basic

/-!
# The order of texts

Texts are ordered character by character, and characters by their code points. This is the order of
the bytes of texts in UTF-8 (`le_iff_utf8_le`): of two characters the smaller one has fewer bytes
and a smaller first byte, or equally many, which differ first in a digit of the code points.
-/

set_option autoImplicit false

namespace SymbolSearch.Bytes

/-! ## Characters -/

theorem cons_ofNat_lt {a b : Nat} (as bs : List UInt8) (hb : b < 256) (h : a < b) :
    UInt8.ofNat a :: as < UInt8.ofNat b :: bs := by
  rw [List.cons_lt_cons_iff, UInt8.lt_iff_toNat_lt,
    UInt8.toNat_ofNat_of_lt' (show a < UInt8.size from Nat.lt_trans h hb),
    UInt8.toNat_ofNat_of_lt' (show b < UInt8.size from hb)]
  exact .inl h

theorem cons_ofNat_lt_of_le {a b : Nat} {as bs : List UInt8} (hb : b < 256) (hle : a ≤ b)
    (h : a = b → as < bs) : UInt8.ofNat a :: as < UInt8.ofNat b :: bs := by
  rcases Nat.lt_or_eq_of_le hle with hlt | rfl
  · exact cons_ofNat_lt as bs hb hlt
  · rw [List.cons_lt_cons_iff]
    exact .inr ⟨rfl, h rfl⟩

/-- The bytes of a code point behind the first one: its last digits in base 64. -/
def trailing : (count code : Nat) → List UInt8
  | 0, _ => []
  | count + 1, code => UInt8.ofNat (code / 64 ^ count % 64 + 128) :: trailing count code

/-- The number of bytes behind the first one. -/
def trailingCount (code : Nat) : Nat :=
  if code ≤ 127 then 0 else if code ≤ 2047 then 1 else if code ≤ 65535 then 2 else 3

/-- The least first byte in front of so many others. -/
def leadingMark : (count : Nat) → Nat
  | 0 => 0
  | 1 => 192
  | 2 => 224
  | 3 => 240
  | _ => 248

/-- The first byte of a code point: the mark and the remaining digits. -/
def leading (code : Nat) : Nat :=
  code / 64 ^ trailingCount code + leadingMark (trailingCount code)

theorem toNat_val_lt (c : Char) : c.val.toNat < 1114112 := by
  rcases c.valid with hc | hc
  · exact Nat.lt_trans hc (by decide)
  · exact hc.2

theorem utf8EncodeChar_eq (c : Char) :
    String.utf8EncodeChar c = UInt8.ofNat (leading c.val.toNat) ::
      trailing (trailingCount c.val.toNat) c.val.toNat := by
  have hcode := toNat_val_lt c
  simp only [String.utf8EncodeChar, leading, trailingCount]
  generalize c.val.toNat = code at hcode
  -- the remaining digits fit into the first byte
  split
  next => simp [trailing, leadingMark]
  next =>
    split
    next => rw [Nat.mod_eq_of_lt (by omega)]; simp [trailing, leadingMark]
    next =>
      split
      next => rw [Nat.mod_eq_of_lt (by omega)]; simp [trailing, leadingMark]
      next => rw [Nat.mod_eq_of_lt (by omega)]; simp [trailing, leadingMark]

/-- The first byte tells how many others there are. -/
theorem leading_bounds {code : Nat} (h : code < 1114112) :
    leadingMark (trailingCount code) ≤ leading code ∧
      leading code < leadingMark (trailingCount code + 1) := by
  refine ⟨Nat.le_add_left _ _, ?_⟩
  simp only [leading, trailingCount]
  split
  next => simp only [leadingMark]; omega
  next =>
    split
    next => simp only [leadingMark]; omega
    next =>
      split
      next => simp only [leadingMark]; omega
      next => simp only [leadingMark]; omega

theorem trailingCount_mono {a b : Nat} (h : a ≤ b) : trailingCount a ≤ trailingCount b := by
  simp only [trailingCount]
  grind

theorem trailingCount_le (code : Nat) : trailingCount code ≤ 3 := by
  simp only [trailingCount]
  grind

theorem leadingMark_succ_le : ∀ j ≤ 3, ∀ i < j, leadingMark (i + 1) ≤ leadingMark j := by decide

theorem leading_lt {code : Nat} (h : code < 1114112) : leading code < 256 := by
  have hmark : ∀ i ≤ 3, leadingMark (i + 1) ≤ 256 := by decide
  exact Nat.lt_of_lt_of_le (leading_bounds h).2 (hmark _ (trailingCount_le code))

/-- Of two code points with the same first digits the smaller one has smaller last digits. -/
theorem trailing_append_lt {count a b : Nat} (h : a < b)
    (hdigits : a / 64 ^ count = b / 64 ^ count) (as bs : List UInt8) :
    trailing count a ++ as < trailing count b ++ bs := by
  induction count with
  | zero =>
      rw [Nat.pow_zero, Nat.div_one, Nat.div_one] at hdigits
      exact absurd hdigits (Nat.ne_of_lt h)
  | succ count ih =>
      rw [Nat.pow_succ, ← Nat.div_div_eq_div_mul, ← Nat.div_div_eq_div_mul] at hdigits
      have hle : a / 64 ^ count ≤ b / 64 ^ count := Nat.div_le_div_right (Nat.le_of_lt h)
      exact cons_ofNat_lt_of_le (by omega) (by omega) fun hdigit => ih (by omega)

/-- A smaller character has smaller bytes, whatever follows. -/
theorem utf8EncodeChar_append_lt {c d : Char} (h : c < d) (as bs : List UInt8) :
    String.utf8EncodeChar c ++ as < String.utf8EncodeChar d ++ bs := by
  have hlt : c.val.toNat < d.val.toNat := h
  have hc := toNat_val_lt c
  have hd := toNat_val_lt d
  rw [utf8EncodeChar_eq, utf8EncodeChar_eq, List.cons_append, List.cons_append]
  generalize c.val.toNat = a at hlt hc ⊢
  generalize d.val.toNat = b at hlt hd ⊢
  rcases Nat.lt_or_eq_of_le (trailingCount_mono (Nat.le_of_lt hlt)) with hcount | hcount
  · -- with fewer bytes comes a smaller first byte
    refine cons_ofNat_lt _ _ (leading_lt hd) ?_
    calc leading a < leadingMark (trailingCount a + 1) := (leading_bounds hc).2
      _ ≤ leadingMark (trailingCount b) := leadingMark_succ_le _ (trailingCount_le b) _ hcount
      _ ≤ leading b := (leading_bounds hd).1
  · have hle : a / 64 ^ trailingCount b ≤ b / 64 ^ trailingCount b :=
      Nat.div_le_div_right (Nat.le_of_lt hlt)
    refine cons_ofNat_lt_of_le (leading_lt hd) ?_ fun hleading => ?_
    · rw [leading, leading, hcount]
      exact Nat.add_le_add_right hle _
    · rw [leading, leading, hcount, Nat.add_right_cancel_iff] at hleading
      rw [hcount]
      exact trailing_append_lt hlt hleading as bs

/-! ## Texts -/

theorem flatMap_utf8EncodeChar_lt {cs ds : List Char} (h : cs < ds) :
    cs.flatMap String.utf8EncodeChar < ds.flatMap String.utf8EncodeChar := by
  induction cs generalizing ds with
  | nil =>
      cases ds with
      | nil => exact absurd h (List.lt_irrefl [])
      | cons d ds =>
          -- a character has a byte
          obtain ⟨b, bs, hbytes⟩ :=
            List.exists_cons_of_ne_nil (String.utf8EncodeChar_ne_nil (c := d))
          rw [List.flatMap_cons, hbytes]
          exact List.nil_lt_cons b _
  | cons c cs ih =>
      cases ds with
      | nil => exact absurd h (List.not_lt_nil _)
      | cons d ds =>
          rw [List.flatMap_cons, List.flatMap_cons]
          rcases List.cons_lt_cons_iff.1 h with hlt | ⟨rfl, hlt⟩
          · exact utf8EncodeChar_append_lt hlt _ _
          · exact List.append_left_lt (ih hlt)

theorem utf8_eq_flatMap (s : String) : utf8 s = s.toList.flatMap String.utf8EncodeChar := by
  conv_lhs => rw [← String.ofList_toList (s := s)]
  rw [utf8, String.toByteArray_ofList, List.utf8Encode, List.data_toByteArray, List.toList_toArray]

theorem utf8_lt {s t : String} (h : s < t) : utf8 s < utf8 t := by
  rw [utf8_eq_flatMap, utf8_eq_flatMap]
  exact flatMap_utf8EncodeChar_lt (String.lt_iff_toList_lt.1 h)

/-- Texts are ordered as their bytes. -/
theorem le_iff_utf8_le {s t : String} : s ≤ t ↔ utf8 s ≤ utf8 t := by
  constructor
  · intro hle
    rcases lt_or_eq_of_le hle with hlt | rfl
    · exact List.le_of_lt (utf8_lt hlt)
    · exact List.le_refl _
  · intro hle
    by_contra hnot
    exact hle (utf8_lt (not_le.1 hnot))

end SymbolSearch.Bytes
