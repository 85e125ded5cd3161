import Mathlib.Tactic.Ring
import SymbolSearch.Bytes.Codec

/-!
# Decoders invert encoders

A decoder `Decoder.Reads` an encoder when it takes a value from the front of a sequence of bytes
just if the bytes begin with the encoding of the value, and the value is one that can be encoded:
a number that fits the width, a text or a list whose length does. So nothing else decodes to a
value, and bytes after the encoding are left over. Each primitive of the format is shown to be
read in this sense; formats that are put together of them follow with `Decoder.bind_eq_ok_iff`.
-/

set_option autoImplicit false

namespace SymbolSearch.Bytes

/-- A text whose number of bytes fits 64 bits, as that of every text in memory does. -/
def IsSizedText (s : String) : Prop := (utf8 s).length < 2 ^ 64

instance (s : String) : Decidable (IsSizedText s) := inferInstanceAs (Decidable (_ < _))

theorem fromUTF8?_utf8 (s : String) : String.fromUTF8? ⟨(utf8 s).toArray⟩ = some s := by
  have hbytes : (⟨(utf8 s).toArray⟩ : ByteArray) = s.toByteArray := rfl
  rw [hbytes, String.fromUTF8?, dif_pos s.isValidUTF8]
  rfl

namespace Decoder

variable {α β : Type}

/-- The decoder takes exactly the values that are valid, each from its encoding at the front and
from nothing else. -/
def Reads (d : Decoder α) (encode : α → List UInt8) (valid : α → Prop) : Prop :=
  ∀ bytes a rest, d bytes = .ok (a, rest) ↔ valid a ∧ bytes = encode a ++ rest

/-! ## Steps of a decoder -/

theorem pure_eq_ok_iff {a b : α} {bytes rest : List UInt8} :
    (pure a : Decoder α) bytes = .ok (b, rest) ↔ a = b ∧ bytes = rest := by
  change Except.ok (a, bytes) = Except.ok (b, rest) ↔ _
  rw [Except.ok.injEq, Prod.mk.injEq]

theorem fail_ne_ok {e : DecodeError} {bytes : List UInt8} {result : α × List UInt8} :
    (fail e : Decoder α) bytes ≠ .ok result := nofun

/-- A step takes the front of the bytes, and the next one goes on with the others. -/
theorem bind_eq_ok_iff {d : Decoder α} {f : α → Decoder β} {bytes rest : List UInt8} {b : β} :
    (d >>= f) bytes = .ok (b, rest) ↔
      ∃ a more, d bytes = .ok (a, more) ∧ f a more = .ok (b, rest) := by
  change (d bytes >>= fun p => f p.1 p.2) = .ok (b, rest) ↔ _
  cases h : d bytes with
  | error e =>
      constructor
      · intro herror
        exact nomatch herror
      · rintro ⟨a, more, hok, -⟩
        exact nomatch hok
  | ok p =>
      constructor
      · intro hb
        exact ⟨p.1, p.2, rfl, hb⟩
      · rintro ⟨a, more, hok, hb⟩
        obtain rfl := Except.ok.inj hok
        exact hb

/-! ## Numbers and truth values -/

theorem byte_eq_ok_iff {bytes rest : List UInt8} {b : UInt8} :
    byte bytes = .ok (b, rest) ↔ bytes = b :: rest := by
  cases bytes with
  | nil => simp [byte]
  | cons first others => simp [byte]

theorem reads_word (width : Nat) : (word width).Reads (encodeWord width) (· < 256 ^ width) := by
  induction width with
  | zero =>
      intro bytes n rest
      simp only [word, pure_eq_ok_iff, pow_zero, Nat.lt_one_iff, encodeWord, List.nil_append]
      exact and_congr_left' eq_comm
  | succ width ih =>
      intro bytes n rest
      simp only [word, bind_eq_ok_iff, byte_eq_ok_iff, pure_eq_ok_iff, ih _ _ _, encodeWord,
        List.cons_append, pow_succ]
      constructor
      · -- the digits of the number are the bytes that were read
        rintro ⟨low, _, rfl, high, _, ⟨hhigh, rfl⟩, rfl, rfl⟩
        have hlow : low.toNat < 256 := UInt8.toNat_lt low
        rw [Nat.add_mul_mod_self_left, Nat.mod_eq_of_lt hlow, UInt8.ofNat_toNat,
          Nat.add_mul_div_left _ _ (by norm_num), Nat.div_eq_of_lt hlow, Nat.zero_add]
        exact ⟨by omega, rfl⟩
      · rintro ⟨hn, rfl⟩
        have hhigh : n / 256 < 256 ^ width := Nat.div_lt_of_lt_mul (by omega)
        have hlow : (UInt8.ofNat (n % 256)).toNat = n % 256 :=
          UInt8.toNat_ofNat_of_lt (Nat.mod_lt _ (by norm_num))
        refine ⟨_, _, rfl, n / 256, rest, ⟨hhigh, rfl⟩, ?_, rfl⟩
        rw [hlow]
        exact Nat.mod_add_div n 256

theorem reads_word32 : word32.Reads encode32 (· < 2 ^ 32) := reads_word 4

theorem reads_word64 : word64.Reads encode64 (· < 2 ^ 64) := reads_word 8

theorem reads_bool : bool.Reads encodeBool fun _ => True := by
  intro bytes b rest
  simp only [bool, bind_eq_ok_iff, byte_eq_ok_iff, true_and]
  constructor
  · rintro ⟨tag, more, rfl, hb⟩
    by_cases hzero : tag = 0
    · rw [if_pos hzero, pure_eq_ok_iff] at hb
      rw [← hb.1, ← hb.2, hzero]
      rfl
    · rw [if_neg hzero] at hb
      by_cases hone : tag = 1
      · rw [if_pos hone, pure_eq_ok_iff] at hb
        rw [← hb.1, ← hb.2, hone]
        rfl
      · rw [if_neg hone] at hb
        exact absurd hb fail_ne_ok
  · rintro rfl
    cases b with
    | false => exact ⟨0, rest, rfl, rfl⟩
    | true => exact ⟨1, rest, rfl, rfl⟩

/-! ## Texts -/

theorem textOfUtf8_eq_ok_iff {bytes : List UInt8} {s : String} :
    textOfUtf8 bytes = .ok s ↔ bytes = utf8 s := by
  rw [textOfUtf8]
  constructor
  · intro h
    split at h
    · next t ht =>
      rw [← Except.ok.inj h]
      rw [String.fromUTF8?] at ht
      split at ht
      · rw [← Option.some.inj ht]
        rfl
      · exact nomatch ht
    · exact nomatch h
  · rintro rfl
    rw [fromUTF8?_utf8]

theorem reads_text : text.Reads encodeText IsSizedText := by
  intro bytes s rest
  simp only [text, bind_eq_ok_iff, reads_word64 _ _ _, encodeText, List.append_assoc]
  constructor
  · rintro ⟨length, more, ⟨hlength, rfl⟩, hs⟩
    by_cases hshort : more.length < length
    · rw [if_pos hshort] at hs
      exact nomatch hs
    · rw [if_neg hshort] at hs
      cases htext : textOfUtf8 (more.take length) with
      | error e =>
          rw [htext] at hs
          exact nomatch hs
      | ok t =>
          rw [htext] at hs
          obtain ⟨rfl, rfl⟩ := Prod.mk.inj (Except.ok.inj hs)
          have hbytes := textOfUtf8_eq_ok_iff.1 htext
          -- as many bytes were taken as the number before them says
          have hcount : (utf8 t).length = length := by
            rw [← hbytes, List.length_take]
            omega
          rw [IsSizedText, hcount, ← hbytes, List.take_append_drop]
          exact ⟨hlength, rfl⟩
  · rintro ⟨hsized, rfl⟩
    refine ⟨_, _, ⟨hsized, rfl⟩, ?_⟩
    have henough : ¬ (utf8 s ++ rest).length < (utf8 s).length := by simp
    rw [if_neg henough, List.take_left, List.drop_left, textOfUtf8_eq_ok_iff.2 rfl]
    rfl

/-! ## Lists and optional values -/

section Items

variable {item : Decoder α} {encode : α → List UInt8} {valid : α → Prop}

theorem times_eq_ok_iff (h : item.Reads encode valid) {n : Nat} {bytes rest : List UInt8}
    {items : List α} :
    times item n bytes = .ok (items, rest) ↔
      items.length = n ∧ (∀ a ∈ items, valid a) ∧ bytes = items.flatMap encode ++ rest := by
  induction n generalizing bytes rest items with
  | zero =>
      rw [times, pure_eq_ok_iff, List.length_eq_zero_iff]
      constructor
      · rintro ⟨rfl, rfl⟩
        exact ⟨rfl, fun _ ha => absurd ha List.not_mem_nil, rfl⟩
      · rintro ⟨rfl, -, rfl⟩
        exact ⟨rfl, rfl⟩
  | succ n ih =>
      simp only [times, bind_eq_ok_iff, pure_eq_ok_iff, h _ _ _, ih]
      constructor
      · rintro ⟨a, _, ⟨ha, rfl⟩, others, _, ⟨hlength, hvalid, rfl⟩, rfl, rfl⟩
        refine ⟨congrArg Nat.succ hlength, List.forall_mem_cons.2 ⟨ha, hvalid⟩, ?_⟩
        rw [List.flatMap_cons, List.append_assoc]
      · rintro ⟨hlength, hvalid, rfl⟩
        obtain ⟨a, others, rfl⟩ := List.exists_cons_of_length_eq_add_one hlength
        obtain ⟨ha, hothers⟩ := List.forall_mem_cons.1 hvalid
        refine ⟨a, _, ⟨ha, ?_⟩, others, rest, ⟨Nat.succ.inj hlength, hothers, rfl⟩, rfl, rfl⟩
        rw [List.flatMap_cons, List.append_assoc]

theorem reads_list (h : item.Reads encode valid) :
    (list item).Reads (encodeList encode) fun items =>
      items.length < 2 ^ 64 ∧ ∀ a ∈ items, valid a := by
  intro bytes items rest
  simp only [list, bind_eq_ok_iff, reads_word64 _ _ _, times_eq_ok_iff h, encodeList,
    List.append_assoc]
  constructor
  · rintro ⟨_, _, ⟨hlength, rfl⟩, rfl, hvalid, rfl⟩
    exact ⟨⟨hlength, hvalid⟩, rfl⟩
  · rintro ⟨⟨hlength, hvalid⟩, rfl⟩
    exact ⟨_, _, ⟨hlength, rfl⟩, rfl, hvalid, rfl⟩

theorem reads_option (h : item.Reads encode valid) :
    (option item).Reads (encodeOption encode) fun o => ∀ a ∈ o, valid a := by
  intro bytes o rest
  simp only [option, bind_eq_ok_iff, byte_eq_ok_iff]
  constructor
  · rintro ⟨tag, more, rfl, ho⟩
    by_cases hzero : tag = 0
    · rw [if_pos hzero, pure_eq_ok_iff] at ho
      obtain ⟨rfl, rfl⟩ := ho
      rw [hzero]
      exact ⟨fun _ ha => absurd ha (Option.not_mem_none _), rfl⟩
    · rw [if_neg hzero] at ho
      by_cases hone : tag = 1
      · rw [if_pos hone] at ho
        simp only [bind_eq_ok_iff, pure_eq_ok_iff, h _ _ _] at ho
        obtain ⟨a, _, ⟨ha, rfl⟩, rfl, rfl⟩ := ho
        rw [hone]
        exact ⟨fun b hb => Option.some.inj hb ▸ ha, rfl⟩
      · rw [if_neg hone] at ho
        exact absurd ho fail_ne_ok
  · rintro ⟨hvalid, rfl⟩
    cases o with
    | none => exact ⟨0, rest, rfl, rfl⟩
    | some a =>
        refine ⟨1, encode a ++ rest, rfl, ?_⟩
        rw [if_neg (by decide), if_pos rfl, bind_eq_ok_iff]
        exact ⟨a, rest, (h _ _ _).2 ⟨hvalid a rfl, rfl⟩, rfl⟩

end Items

end Decoder

end SymbolSearch.Bytes
