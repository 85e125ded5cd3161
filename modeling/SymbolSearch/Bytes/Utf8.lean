/-!
# UTF-8 faults

`Utf8.fault?` finds the first place at which bytes stop being UTF-8. A fault carries
the number of valid bytes before it and the number of bytes that can be ruled out
there; a sequence that merely ends too early rules out none.
-/

set_option autoImplicit false

namespace SymbolSearch.Bytes.Utf8

/-- Why bytes are not UTF-8: at index `validBytes` a malformed sequence of `length`
bytes, or one that the end of the input cuts off. -/
inductive Fault where
  | malformed (validBytes length : Nat)
  | cutOff (validBytes : Nat)
  deriving DecidableEq, Repr

/-- A byte that continues a sequence. -/
def isContinuation (b : UInt8) : Bool := 0x80 ≤ b && b ≤ 0xBF

/-- The second byte `b` may follow the lead byte `lead` of a sequence of three. -/
def secondOfThree (lead b : UInt8) : Bool :=
  if lead = 0xE0 then 0xA0 ≤ b && b ≤ 0xBF
  else if lead = 0xED then 0x80 ≤ b && b ≤ 0x9F
  else isContinuation b

/-- The second byte `b` may follow the lead byte `lead` of a sequence of four. -/
def secondOfFour (lead b : UInt8) : Bool :=
  if lead = 0xF0 then 0x90 ≤ b && b ≤ 0xBF
  else if lead = 0xF4 then 0x80 ≤ b && b ≤ 0x8F
  else isContinuation b

/-- How a sequence with a given lead byte goes on: `none` if it is well-formed, and else
the number of bytes ruled out, which is zero when the input ends too early. -/
def sequenceFault? (lead : UInt8) (rest : List UInt8) : Option Nat :=
  if lead < 0x80 then none
  else if 0xC2 ≤ lead && lead ≤ 0xDF then
    match rest with
    | [] => some 0
    | b :: _ => if isContinuation b then none else some 1
  else if 0xE0 ≤ lead && lead ≤ 0xEF then
    match rest with
    | [] => some 0
    | b :: more =>
        if !secondOfThree lead b then some 1
        else match more with
          | [] => some 0
          | c :: _ => if isContinuation c then none else some 2
  else if 0xF0 ≤ lead && lead ≤ 0xF4 then
    match rest with
    | [] => some 0
    | b :: more =>
        if !secondOfFour lead b then some 1
        else match more with
          | [] => some 0
          | c :: more =>
              if !isContinuation c then some 2
              else match more with
                | [] => some 0
                | d :: _ => if isContinuation d then none else some 3
  else some 1

/-- The number of bytes in a well-formed sequence with the given lead byte. -/
def sequenceLength (lead : UInt8) : Nat :=
  if lead < 0x80 then 1 else if lead < 0xE0 then 2 else if lead < 0xF0 then 3 else 4

/-- The first fault from position `passed` on; `skip` counts the bytes that still belong
to the sequence before. -/
def faultFrom? (passed skip : Nat) : List UInt8 → Option Fault
  | [] => none
  | b :: bs =>
      match skip with
      | n + 1 => faultFrom? (passed + 1) n bs
      | 0 =>
          match sequenceFault? b bs with
          | none => faultFrom? (passed + 1) (sequenceLength b - 1) bs
          | some 0 => some (.cutOff passed)
          | some n => some (.malformed passed n)

/-- The first fault in a sequence of bytes. -/
def fault? (bytes : List UInt8) : Option Fault := faultFrom? 0 0 bytes

/-- The wording of a fault. -/
def Fault.message : Fault → String
  | .malformed valid length =>
      "invalid utf-8 sequence of " ++ toString length ++ " bytes from index " ++ toString valid
  | .cutOff valid => "incomplete utf-8 byte sequence from index " ++ toString valid

end SymbolSearch.Bytes.Utf8
