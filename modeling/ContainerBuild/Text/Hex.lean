/-!
# Bytes in hexadecimal
-/

namespace ContainerBuild.Text

/-- A byte in two hexadecimal digits. -/
def hexByte (b : UInt8) : List Char :=
  Nat.toDigits 16 (b.toNat / 16) ++ Nat.toDigits 16 (b.toNat % 16)

/-- Bytes in hexadecimal. -/
def hexBytes (bytes : List UInt8) : String := String.ofList (bytes.flatMap hexByte)

end ContainerBuild.Text
