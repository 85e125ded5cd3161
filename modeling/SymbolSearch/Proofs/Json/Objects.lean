import SymbolSearch.Proofs.Json.Values

/-!
# Reading written objects

An object is written with one member to a line. If reading its members one after the other leads
from the empty fields to fields from which a record is built (`Reader.Collects`), the record is
read from the written object (`Reader.reads_record`), also when it is the whole text
(`read_of_reads`).
-/

set_option autoImplicit false

namespace SymbolSearch.Json

/-! ## What is written -/

/-- The line of a member, without its line break. -/
def memberLine (member : String × String) : List Char :=
  ' ' :: ' ' :: ((writeText member.1).toList ++ ':' :: ' ' :: member.2.toList)

/-- The lines behind a member, down to the closing brace. -/
def linesBehind (ms : List (String × String)) : List Char :=
  ms.flatMap (fun member => ',' :: '\n' :: memberLine member) ++ ['\n', '\x7d']

theorem linesBehind_cons (member : String × String) (ms : List (String × String)) :
    linesBehind (member :: ms) = ',' :: '\n' :: (memberLine member ++ linesBehind ms) := by
  rw [linesBehind, linesBehind, List.flatMap_cons, List.append_assoc]
  rfl

theorem length_le_linesBehind (ms : List (String × String)) :
    ms.length ≤ (linesBehind ms).length := by
  induction ms with
  | nil => exact Nat.zero_le _
  | cons member ms ih =>
      rw [linesBehind_cons]
      simp only [List.length_cons, List.length_append]
      omega

theorem toList_memberLine (member : String × String) :
    ("  " ++ writeText member.1 ++ ": " ++ member.2).toList = memberLine member := by
  have hindent : "  ".toList = [' ', ' '] := rfl
  have hcolon : ": ".toList = [':', ' '] := rfl
  simp only [String.toList_append, List.append_assoc, hindent, hcolon, memberLine,
    List.cons_append, List.nil_append]

/-- Between the separators stand the further lists, each behind its separator. -/
theorem intercalate_cons (separator first : List Char) (others : List (List Char)) :
    separator.intercalate (first :: others) =
      first ++ others.flatMap fun other => separator ++ other := by
  induction others generalizing first with
  | nil => rw [List.intercalate_singleton, List.flatMap_nil, List.append_nil]
  | cons next others ih =>
      rw [List.intercalate_cons_cons, ih, List.flatMap_cons, List.append_assoc, List.append_assoc]

theorem toList_writeObject (member : String × String) (ms : List (String × String)) :
    (writeObject (member :: ms)).toList =
      '\x7b' :: '\n' :: (memberLine member ++ linesBehind ms) := by
  have hlines : ((member :: ms).map fun m =>
        ("  " ++ writeText m.1 ++ ": " ++ m.2).toList) =
      memberLine member :: ms.map memberLine := by
    rw [List.map_cons, toList_memberLine]
    simp only [toList_memberLine]
  have hopen : "\x7b\n".toList = ['\x7b', '\n'] := rfl
  have hseparator : ",\n".toList = [',', '\n'] := rfl
  have hclose : "\n\x7d".toList = ['\n', '\x7d'] := rfl
  rw [writeObject, String.toList_append, String.toList_append, String.toList_intercalate,
    List.map_map, Function.comp_def, hlines, intercalate_cons, List.flatMap_map, linesBehind,
    hopen, hseparator, hclose, List.append_assoc, List.append_assoc]
  rfl

namespace Reader

variable {α σ : Type}

/-- The value of a member that has not been read before is read behind its colon. -/
theorem once_none {value : Reader α} {written : List Char} {a : α} (h : value.Reads written a)
    {rest : List Char} (hrest : IsEnd rest) :
    once none value (':' :: ' ' :: (written ++ rest)) = .ok (some a, rest) := by
  have hblank : ∀ b ∈ [' '], isBlank b = true := by simp [isBlank]
  have hvalue : memberValue value (':' :: ' ' :: (written ++ rest)) = .ok (a, rest) :=
    h [' '] rest hblank hrest
  rw [once, Option.isSome_none, if_neg Bool.false_ne_true, bind_of_ok hvalue]
  rfl

/-! ## Members in turn -/

/-- Reading the given members one after the other leads from `seen` to `last`. -/
inductive Collects (member : String → σ → Reader σ) : List (String × String) → σ → σ → Prop where
  | nil (seen : σ) : Collects member [] seen seen
  | cons {name value : String} {ms : List (String × String)} {seen next last : σ}
      (step : ∀ rest, IsEnd rest →
        member name seen (':' :: ' ' :: (value.toList ++ rest)) = .ok (next, rest))
      (others : Collects member ms next last) :
      Collects member ((name, value) :: ms) seen last

section Members

variable {member : String → σ → Reader σ}

theorem memberLine_append (name value : String) (rest : List Char) :
    memberLine (name, value) ++ rest = ' ' :: ' ' :: '"' ::
      (name.toList.flatMap writeChar ++ '"' :: ':' :: ' ' :: (value.toList ++ rest)) := by
  simp only [memberLine, toList_writeText, List.cons_append, List.append_assoc, List.nil_append]

/-- One member is read, from its name up to the end of its value. -/
theorem members_step {name value : String} {seen next : σ} {first : Bool} {fuel : Nat}
    {cs rest : List Char}
    (hmore : moreMembers first cs = .ok (true, '"' ::
      (name.toList.flatMap writeChar ++ '"' :: ':' :: ' ' :: (value.toList ++ rest))))
    (hstep : member name seen (':' :: ' ' :: (value.toList ++ rest)) = .ok (next, rest)) :
    members member (fuel + 1) first seen cs = members member fuel false next rest := by
  rw [members, bind_of_ok hmore, if_pos rfl, bind_of_ok (skip_cons _ _),
    bind_of_ok (textRest_writeText name _), bind_of_ok hstep]

theorem isEnd_linesBehind (ms : List (String × String)) (rest : List Char) :
    IsEnd (linesBehind ms ++ rest) := by
  cases ms with
  | nil => exact Or.inr rfl
  | cons member ms =>
      rw [linesBehind_cons]
      exact Or.inl rfl

/-- The members that are left are read up to the closing brace. The induction is on these
members, each of which takes one step of the reader. -/
theorem members_linesBehind {ms : List (String × String)} {seen last : σ}
    (h : Collects member ms seen last) {fuel : Nat} (hfuel : ms.length < fuel)
    (rest : List Char) :
    members member fuel false seen (linesBehind ms ++ rest) = .ok (last, '\x7d' :: rest) := by
  induction h generalizing fuel with
  | nil seen =>
      obtain ⟨fuel, rfl⟩ := Nat.exists_eq_add_one_of_ne_zero (Nat.ne_of_gt hfuel)
      rfl
  | cons step others ih =>
      obtain ⟨fuel, rfl⟩ := Nat.exists_eq_add_one_of_ne_zero (Nat.ne_zero_of_lt hfuel)
      rw [linesBehind_cons, List.cons_append, List.cons_append, List.append_assoc,
        memberLine_append, members_step rfl (step _ (isEnd_linesBehind _ rest))]
      exact ih (Nat.lt_of_succ_lt_succ hfuel)

/-- All members of an object are read, behind its opening brace. -/
theorem members_object {m : String × String} {ms : List (String × String)} {seen last : σ}
    (h : Collects member (m :: ms) seen last) (rest : List Char) :
    (fun cs => members member (cs.length + 1) true seen cs)
        ('\n' :: (memberLine m ++ linesBehind ms ++ rest)) = .ok (last, '\x7d' :: rest) := by
  cases h with
  | cons step others =>
      have hlength := length_le_linesBehind ms
      dsimp only
      rw [List.append_assoc, memberLine_append,
        members_step rfl (step _ (isEnd_linesBehind ms rest))]
      refine members_linesBehind others ?_ rest
      simp only [List.length_cons, List.length_append]
      omega

/-- A record is read from the object of its members. -/
theorem reads_record {r : Record σ α} {depth : Nat} {m : String × String}
    {ms : List (String × String)} {last : σ} {a : α} (hdepth : depth ≠ 0)
    (hmembers : Collects r.member (m :: ms) r.empty last) (hbuild : r.build last = pure a) :
    (record depth r).Reads (writeObject (m :: ms)).toList a := by
  rw [toList_writeObject, record]
  refine reads_of_valueStart rfl fun rest _ => ?_
  rw [if_neg (by decide), if_pos rfl, if_neg hdepth]
  beta_reduce
  rw [bind_of_ok (skip_cons _ _), List.cons_append,
    bind_of_ok (r := fun cs => members r.member (cs.length + 1) true r.empty cs)
      (members_object hmembers rest), hbuild]
  rfl

end Members

end Reader

/-- A text that is written for a value is read as this value. -/
theorem read_of_reads {α : Type} {r : Reader α} {s : String} {a : α} (h : r.Reads s.toList a) :
    read r s = .ok a := by
  have hread := h [] [] (by simp) trivial
  rw [List.nil_append, List.append_nil] at hread
  rw [read, hread]
  rfl

end SymbolSearch.Json
