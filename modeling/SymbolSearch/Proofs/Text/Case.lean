import SymbolSearch.Query
import Mathlib.Data.List.Infix

/-!
# Lower case of a part of a text

The lowercase form of a text depends on what stands around it, because a capital sigma ends a word
or does not (`lowerWithin`). A text whose capital sigmas are all told by their neighbours inside of
it (`TellsSigmas`) has the same lowercase form in every place. In any other text a letter put in
front of it or behind it changes a sigma, and the number of the sigmas tells that the former
lowercase form stands nowhere in the new one (`infix_lowerChars_iff`).

So a query for a part of a name that ignores letter case accepts what the same query with letter
case accepts exactly if the text that it looks for tells its sigmas
(`Query.substring_widens_iff`). Letters of ASCII have the same lowercase form in either case
(`lowerChars_map_toLower`).
-/

set_option autoImplicit false

namespace SymbolSearch.Text

theorem occursIn_iff_infix (needle text : List Char) :
    occursIn needle text = true ↔ needle <:+: text := by
  induction text with
  | nil => rw [occursIn, List.isEmpty_iff, List.infix_nil]
  | cons c cs ih =>
      rw [occursIn, Bool.or_eq_true, List.isPrefixOf_iff_prefix, ih, List.infix_cons_iff]

/-! ## Lower case in a place -/

/-- The lowercase form of a text that stands between `before`, nearest character first, and
`after`. -/
def lowerWithin (before after : List Char) : List Char → List Char
  | [] => []
  | c :: cs =>
      (if c = 'Σ' then [lowerSigma before (cs ++ after)] else lowerChar c)
        ++ lowerWithin (c :: before) after cs

theorem lowerChars_eq_lowerWithin (cs : List Char) : lowerChars cs = lowerWithin [] [] cs := by
  have hfrom : ∀ before, lowerFrom before cs = lowerWithin before [] cs := by
    induction cs with
    | nil => exact fun _ => rfl
    | cons c cs ih =>
        intro before
        rw [lowerFrom, lowerWithin, ih, List.append_nil]
  exact hfrom []

theorem lowerWithin_append (before after cs ds : List Char) :
    lowerWithin before after (cs ++ ds) =
      lowerWithin before (ds ++ after) cs ++ lowerWithin (cs.reverse ++ before) after ds := by
  induction cs generalizing before with
  | nil => rfl
  | cons c cs ih =>
      rw [List.cons_append, lowerWithin, lowerWithin, ih, List.append_assoc, List.append_assoc,
        List.reverse_cons, List.append_assoc, List.singleton_append]

/-! ## Neighbours of a sigma -/

/-- The nearest character that the search for a cased neighbour does not pass over. -/
def neighbour? (cs : List Char) : Option Char := cs.find? fun c => !isCaseIgnorable c

theorem meetsCased_eq (cs : List Char) : meetsCased cs = (neighbour? cs).any isCased := by
  induction cs with
  | nil => rfl
  | cons c cs ih =>
      rw [meetsCased, ih, neighbour?, neighbour?]
      cases hc : isCaseIgnorable c with
      | true => rw [List.find?_cons_of_neg (by simp [hc]), if_pos rfl]
      | false => rw [List.find?_cons_of_pos (by simp [hc]), if_neg Bool.false_ne_true]; rfl

theorem neighbour?_append (cs ds : List Char) :
    neighbour? (cs ++ ds) = (neighbour? cs).or (neighbour? ds) :=
  List.find?_append

/-- The characters `before` a capital sigma, nearest first, and those `after` it tell its lowercase
form, whatever stands farther out: each side has a neighbour that counts, or the only neighbour
rules out the end of a word. -/
def tellsSigma (before after : List Char) : Bool :=
  match neighbour? before, neighbour? after with
  | some _, some _ => true
  | some c, none => !isCased c
  | none, some c => isCased c
  | none, none => false

/-- Every capital sigma of a text is told by its neighbours inside of the text. -/
def TellsSigmas (text : List Char) : Prop :=
  ∀ before after, text = before ++ 'Σ' :: after → tellsSigma before.reverse after = true

variable (before after more : List Char)

theorem lowerSigma_of_tellsSigma {before after : List Char} (h : tellsSigma before after = true)
    (more more' : List Char) :
    lowerSigma (before ++ more) (after ++ more') = lowerSigma before after := by
  simp only [lowerSigma, meetsCased_eq, neighbour?_append]
  unfold tellsSigma at h
  split at h
  next hbefore hafter => rw [hbefore, hafter, Option.some_or, Option.some_or]
  next hbefore hafter =>
    -- a neighbour before it that is not cased rules out the end of a word
    rw [Bool.not_eq_true'] at h
    rw [hbefore, Option.some_or, Option.any_some, h, Bool.false_and, Bool.false_and]
  next hbefore hafter =>
    rw [hafter, Option.some_or, Option.any_some, h, Bool.not_true, Bool.and_false, Bool.and_false]
  next => exact Bool.noConfusion h

/-- More characters before it make no final sigma a common one. -/
theorem lowerSigma_of_append_before (h : lowerSigma (before ++ more) after = 'σ') :
    lowerSigma before after = 'σ' := by
  simp only [lowerSigma, meetsCased_eq, neighbour?_append] at h ⊢
  cases hbefore : neighbour? before with
  | none => rfl
  | some c =>
      rw [hbefore] at h
      exact h

/-- More characters after it make no common sigma a final one. -/
theorem lowerSigma_of_append_after (h : lowerSigma before (after ++ more) = 'ς') :
    lowerSigma before after = 'ς' := by
  simp only [lowerSigma, meetsCased_eq, neighbour?_append] at h ⊢
  cases hafter : neighbour? after with
  | none =>
      rw [hafter] at h
      cases hbefore : (neighbour? before).any isCased with
      | true => rfl
      | false =>
          rw [hbefore] at h
          exact h
  | some c =>
      rw [hafter] at h
      exact h

theorem neighbour?_letter : neighbour? ['a'] = some 'a' := by
  decide

theorem isCased_letter : isCased 'a' = true := by
  decide

/-- If a sigma is not told by its neighbours, a letter farther out changes it: one before it makes
it final, or one after it makes it common. -/
theorem lowerSigma_letter {before after : List Char} (h : tellsSigma before after = false) :
    (lowerSigma before after = 'σ' ∧ lowerSigma (before ++ ['a']) after = 'ς') ∨
      (lowerSigma before after = 'ς' ∧ lowerSigma before (after ++ ['a']) = 'σ') := by
  simp only [lowerSigma, meetsCased_eq, neighbour?_append, neighbour?_letter]
  unfold tellsSigma at h
  split at h
  next => exact Bool.noConfusion h
  next c hbefore hafter =>
    rw [Bool.not_eq_false'] at h
    rw [hbefore, hafter]
    right
    simp [h, isCased_letter]
  next c hbefore hafter =>
    rw [hbefore, hafter]
    left
    simp [h, isCased_letter]
  next hbefore hafter =>
    rw [hbefore, hafter]
    left
    simp [isCased_letter]

/-! ## Texts that tell their sigmas -/

/-- A text that tells its sigmas has the same lowercase form in every place. -/
theorem lowerWithin_of_tells (before after : List Char) {cs : List Char}
    (h : ∀ x y, cs = x ++ 'Σ' :: y → tellsSigma (x.reverse ++ before) (y ++ after) = true)
    (more more' : List Char) :
    lowerWithin (before ++ more) (after ++ more') cs = lowerWithin before after cs := by
  induction cs generalizing before with
  | nil => rfl
  | cons c cs ih =>
      have htail : ∀ x y, cs = x ++ 'Σ' :: y →
          tellsSigma (x.reverse ++ (c :: before)) (y ++ after) = true := by
        intro x y hcs
        have hsplit := h (c :: x) y (by rw [hcs, List.cons_append])
        rwa [List.reverse_cons, List.append_assoc, List.singleton_append] at hsplit
      rw [lowerWithin, lowerWithin, ← List.cons_append, ih (c :: before) htail]
      split
      next hc =>
        subst hc
        have htold : tellsSigma before (cs ++ after) = true := h [] cs rfl
        rw [← List.append_assoc, lowerSigma_of_tellsSigma htold]
      next => rfl

theorem infix_lowerChars_of_tellsSigmas {text candidate : List Char} (h : TellsSigmas text)
    (hpart : text <:+: candidate) : lowerChars text <:+: lowerChars candidate := by
  obtain ⟨before, after, rfl⟩ := hpart
  have hsame : lowerWithin before.reverse after text = lowerWithin [] [] text := by
    refine lowerWithin_of_tells [] [] (fun x y hsplit => ?_) before.reverse after
    rw [List.append_nil, List.append_nil]
    exact h x y hsplit
  refine ⟨lowerWithin [] (text ++ after) before,
    lowerWithin (text.reverse ++ before.reverse) [] after, ?_⟩
  rw [lowerChars_eq_lowerWithin, lowerChars_eq_lowerWithin, List.append_assoc before,
    lowerWithin_append, lowerWithin_append]
  simp only [List.append_nil, hsame, List.append_assoc]

/-! ## Texts that do not -/

section Count

variable {more more' : List Char} {t : Char}
  (h : ∀ before after, lowerSigma (before ++ more) (after ++ more') = t →
    lowerSigma before after = t)

include h

/-- If what stands farther out makes no sigma a `t`, there are no more of them. -/
theorem count_lowerWithin_le (before after cs : List Char) :
    (lowerWithin (before ++ more) (after ++ more') cs).count t ≤
      (lowerWithin before after cs).count t := by
  induction cs generalizing before with
  | nil => exact Nat.le_refl _
  | cons c cs ih =>
      rw [lowerWithin, lowerWithin, List.count_append, List.count_append]
      refine Nat.add_le_add ?_ (ih (c :: before))
      split
      next =>
        rw [List.count_singleton, List.count_singleton, ← List.append_assoc]
        split
        next hnew => rw [if_pos (by simpa using h before (cs ++ after) (by simpa using hnew))]
        next => exact Nat.zero_le _
      next => exact Nat.le_refl _

/-- If moreover one sigma is no `t` any more, there are fewer of them. -/
theorem count_lowerWithin_lt (x y : List Char) (hold : lowerSigma x.reverse y = t)
    (hnew : lowerSigma (x.reverse ++ more) (y ++ more') ≠ t) :
    (lowerWithin more more' (x ++ 'Σ' :: y)).count t <
      (lowerWithin [] [] (x ++ 'Σ' :: y)).count t := by
  have hfront := count_lowerWithin_le h [] ('Σ' :: y) x
  have hback := count_lowerWithin_le h ('Σ' :: x.reverse) [] y
  rw [List.nil_append] at hfront
  rw [List.cons_append, List.nil_append] at hback
  have hlost : [lowerSigma (x.reverse ++ more) (y ++ more')].count t = 0 :=
    List.count_eq_zero.2 (by simpa using Ne.symm hnew)
  rw [lowerWithin_append, lowerWithin_append, lowerWithin, lowerWithin, if_pos rfl, if_pos rfl]
  simp only [List.count_append, List.append_nil, hold, List.count_singleton_self, hlost]
  omega

end Count

/-- What has fewer of some character is not a part. -/
theorem not_infix_of_count_lt {t : Char} {part text : List Char}
    (h : text.count t < part.count t) : ¬ part <:+: text :=
  fun hpart => absurd (hpart.sublist.count_le t) (Nat.not_le.2 h)

/-- If a text does not tell a sigma, its lowercase form is lost before a letter or behind it. -/
theorem exists_not_infix {text : List Char} (h : ¬ TellsSigmas text) :
    ∃ candidate, text <:+: candidate ∧ ¬ lowerChars text <:+: lowerChars candidate := by
  simp only [TellsSigmas, not_forall, Bool.not_eq_true] at h
  obtain ⟨x, y, rfl, htells⟩ := h
  rcases lowerSigma_letter htells with ⟨hold, hnew⟩ | ⟨hold, hnew⟩
  · -- behind a letter there is one common sigma less
    have hnone : ∀ before after, lowerSigma (before ++ ['a']) (after ++ []) = 'σ' →
        lowerSigma before after = 'σ' := by
      intro before after hsigma
      rw [List.append_nil] at hsigma
      exact lowerSigma_of_append_before before after ['a'] hsigma
    have hfewer := count_lowerWithin_lt hnone x y hold (by rw [List.append_nil, hnew]; decide)
    have hcandidate : lowerChars ('a' :: (x ++ 'Σ' :: y)) =
        'a' :: lowerWithin ['a'] [] (x ++ 'Σ' :: y) := by
      rw [lowerChars_eq_lowerWithin, lowerWithin, if_neg (by decide)]
      rfl
    refine ⟨'a' :: (x ++ 'Σ' :: y), (List.suffix_cons _ _).isInfix,
      not_infix_of_count_lt (t := 'σ') ?_⟩
    rw [hcandidate, List.count_cons_of_ne (by decide), lowerChars_eq_lowerWithin]
    exact hfewer
  · -- in front of a letter there is one final sigma less
    have hnone : ∀ before after, lowerSigma (before ++ []) (after ++ ['a']) = 'ς' →
        lowerSigma before after = 'ς' := by
      intro before after hsigma
      rw [List.append_nil] at hsigma
      exact lowerSigma_of_append_after before after ['a'] hsigma
    have hfewer := count_lowerWithin_lt hnone x y hold (by rw [List.append_nil, hnew]; decide)
    have hcandidate : lowerChars ((x ++ 'Σ' :: y) ++ ['a']) =
        lowerWithin [] ['a'] (x ++ 'Σ' :: y) ++ ['a'] := by
      rw [lowerChars_eq_lowerWithin, lowerWithin_append]
      rfl
    refine ⟨(x ++ 'Σ' :: y) ++ ['a'], (List.prefix_append _ _).isInfix,
      not_infix_of_count_lt (t := 'ς') ?_⟩
    rw [hcandidate, List.count_append, lowerChars_eq_lowerWithin]
    exact hfewer

/-- The lowercase form of a text is part of the lowercase form of everything that the text is part
of exactly if the text tells its sigmas. -/
theorem infix_lowerChars_iff (text : List Char) :
    (∀ candidate, text <:+: candidate → lowerChars text <:+: lowerChars candidate) ↔
      TellsSigmas text := by
  constructor
  · intro h
    by_contra hno
    obtain ⟨candidate, hpart, hlost⟩ := exists_not_infix hno
    exact hlost (h candidate hpart)
  · intro h candidate hpart
    exact infix_lowerChars_of_tellsSigmas h hpart

/-! ## Letters of ASCII -/

/-- What the 26 capital letters have in common with their small letters does not see the case of
ASCII letters. -/
theorem apply_toLower {α : Type} (f : Char → α)
    (h : ∀ n < 26, f (Char.ofNat (97 + n)) = f (Char.ofNat (65 + n))) (c : Char) :
    f c.toLower = f c := by
  by_cases hc : c.val ≥ 'A'.val ∧ c.val ≤ 'Z'.val
  · obtain ⟨n, hn, rfl⟩ : ∃ n < 26, c = Char.ofNat (65 + n) := by
      have hlower : 65 ≤ c.toNat := hc.1
      have hupper : c.toNat ≤ 90 := hc.2
      refine ⟨c.toNat - 65, by omega, ?_⟩
      rw [Nat.add_sub_cancel' hlower, Char.ofNat_toNat]
    have hsmall : ∀ n < 26, (Char.ofNat (65 + n)).toLower = Char.ofNat (97 + n) := by
      decide
    rw [hsmall n hn, h n hn]
  · have hsame : c.toLower = c := dif_neg hc
    rw [hsame]

theorem toLower_eq_iff {d : Char} (h : ∀ n < 26, Char.ofNat (97 + n) ≠ d ∧ Char.ofNat (65 + n) ≠ d)
    (c : Char) : c.toLower = d ↔ c = d := by
  rw [← decide_eq_decide]
  apply apply_toLower (fun c => decide (c = d))
  intro n hn
  rw [decide_eq_false (h n hn).1, decide_eq_false (h n hn).2]

theorem meetsCased_map_toLower (cs : List Char) :
    meetsCased (cs.map Char.toLower) = meetsCased cs := by
  induction cs with
  | nil => rfl
  | cons c cs ih =>
      rw [List.map_cons, meetsCased, meetsCased, ih, apply_toLower isCaseIgnorable (by decide),
        apply_toLower isCased (by decide)]

/-- The case of ASCII letters does not matter for the lowercase form. -/
theorem lowerChars_map_toLower (cs : List Char) :
    lowerChars (cs.map Char.toLower) = lowerChars cs := by
  have hfrom : ∀ before, lowerFrom (before.map Char.toLower) (cs.map Char.toLower) =
      lowerFrom before cs := by
    induction cs with
    | nil => exact fun _ => rfl
    | cons c cs ih =>
        intro before
        have hsigma := toLower_eq_iff (d := 'Σ') (by decide) c
        rw [List.map_cons, lowerFrom, lowerFrom, ← List.map_cons, ih,
          apply_toLower lowerChar (by decide), lowerSigma, lowerSigma, meetsCased_map_toLower,
          meetsCased_map_toLower]
        simp only [hsigma]
  exact hfrom []

end SymbolSearch.Text

namespace SymbolSearch

open Text

namespace Query

/-- **Ignoring letter case widens a query for a part of a name exactly if the text tells its
sigmas.** In any other text the lowercase form of a capital sigma depends on what stands around the
text, and some name that has the text in it is not accepted any more. -/
theorem substring_widens_iff (text : String) :
    (∀ candidate, (substring text false).matchesName candidate = true →
        (substring text true).matchesName candidate = true) ↔
      TellsSigmas text.toList := by
  rw [← infix_lowerChars_iff]
  simp only [matchesName, Bool.false_eq_true, if_false, if_true, occursIn_iff_infix]
  constructor
  · intro h candidate hpart
    have hlower := h (String.ofList candidate)
    rw [String.toList_ofList] at hlower
    exact hlower hpart
  · intro h candidate hpart
    exact h candidate.toList hpart

/-- At the end of a word the capital sigma becomes a final sigma, but the query looks for the other
one. -/
theorem substring_misses_finalSigma :
    ¬ ∀ text candidate : String, (substring text false).matchesName candidate = true →
      (substring text true).matchesName candidate = true := by
  intro h
  have hmatches := h "Σ" "ΑΣ" (by decide)
  exact absurd hmatches (by decide)

end Query

end SymbolSearch
