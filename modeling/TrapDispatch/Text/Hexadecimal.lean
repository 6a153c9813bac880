/-!
# Hexadecimal text

Lowercase digits without leading zeros, the same with a `0x` mark, and the same
padded with zeros to a width. Byte sequences are written two digits a byte.
-/

namespace TrapDispatch

/-- Lowercase hexadecimal digits of a number; zero is one digit. -/
def hexDigits (n : Nat) : String :=
  String.ofList (Nat.toDigits 16 n)

/-- Hexadecimal digits behind the mark `0x`. -/
def hexMarked (n : Nat) : String :=
  "0x" ++ hexDigits n

/-- Hexadecimal digits padded with zeros on the left to `width` places. -/
def hexPadded (width n : Nat) : String :=
  let digits := hexDigits n
  String.ofList (List.replicate (width - digits.length) '0') ++ digits

/-- Two digits a byte, without separators. -/
def hexBytes (bytes : List UInt8) : String :=
  String.join (bytes.map fun byte => hexPadded 2 byte.toNat)

end TrapDispatch
