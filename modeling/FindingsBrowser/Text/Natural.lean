/-! # Decimal natural numbers — reading and writing with a limit

    `readNatural` accepts one or more ASCII digits with an optional `+` in front
    and refuses values of `limit` or more. Leading zeros are allowed. -/

namespace FindingsBrowser.Text

/-- One more than the largest 64-bit number. -/
def wordLimit : Nat := 0x10000000000000000

/-- The value of an ASCII digit. -/
def digitValue? (c : Char) : Option Nat :=
  if '0' ≤ c ∧ c ≤ '9' then some (c.toNat - '0'.toNat) else none

/-- The number written by the digits `s` after digits of value `acc`. -/
def readDigits (acc : Nat) : List Char → Option Nat
  | [] => some acc
  | c :: cs =>
      match digitValue? c with
      | some d => readDigits (acc * 10 + d) cs
      | none => none

/-- The number below `limit` that `s` writes. -/
def readNatural (limit : Nat) (s : List Char) : Option Nat :=
  let digits :=
    match s with
    | '+' :: rest => rest
    | _ => s
  if digits.isEmpty then none
  else (readDigits 0 digits).filter (· < limit)

/-- The digits of a number, without leading zeros. -/
def writeNatural (n : Nat) : List Char :=
  Nat.toDigits 10 n

end FindingsBrowser.Text
