/-!
# Base64

The standard alphabet with padding, three bytes to four letters.
-/

namespace RemoteConfig.Text

/-- The letter for six bits. -/
def base64Letter (n : Nat) : Char :=
  let n := n % 64
  if n < 26 then Char.ofNat (n + 65)
  else if n < 52 then Char.ofNat (n + 71)
  else if n < 62 then Char.ofNat (n - 4)
  else if n = 62 then '+'
  else '/'

/-- The Base64 letters of a list of bytes. -/
def base64Chars : List UInt8 → List Char
  | [] => []
  | [a] =>
    let n := a.toNat * 0x10000
    [base64Letter (n / 0x40000), base64Letter (n / 0x1000), '=', '=']
  | [a, b] =>
    let n := a.toNat * 0x10000 + b.toNat * 0x100
    [base64Letter (n / 0x40000), base64Letter (n / 0x1000), base64Letter (n / 0x40), '=']
  | a :: b :: c :: rest =>
    let n := a.toNat * 0x10000 + b.toNat * 0x100 + c.toNat
    base64Letter (n / 0x40000) :: base64Letter (n / 0x1000) :: base64Letter (n / 0x40) ::
      base64Letter n :: base64Chars rest

/-- The Base64 text of a list of bytes. -/
def base64 (bs : List UInt8) : String :=
  String.ofList (base64Chars bs)

end RemoteConfig.Text
