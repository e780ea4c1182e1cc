/-!
Bytes as text: every three bytes are four digits to the base 64, and equals signs fill the last four.
-/

namespace EditImpact.Text.Base64

def digits : List Char := "ABCDEFGHIJKLMNOPQRSTUVWXYZabcdefghijklmnopqrstuvwxyz0123456789+/".toList

def digit (n : Nat) : Char := (digits[n % 64]?).getD '='

def encode : List UInt8 → List Char
  | a :: b :: c :: rest =>
    let n := (a.toNat * 256 + b.toNat) * 256 + c.toNat
    [digit (n / 262144), digit (n / 4096), digit (n / 64), digit n] ++ encode rest
  | [a, b] =>
    let n := (a.toNat * 256 + b.toNat) * 4
    [digit (n / 4096), digit (n / 64), digit n, '=']
  | [a] => [digit (a.toNat / 4), digit (a.toNat * 16), '=', '=']
  | [] => []

/-- The bytes of a row of digit values; one digit by itself is no byte. -/
def bytesOf : List Nat → List UInt8
  | a :: b :: c :: d :: rest =>
    let n := ((a * 64 + b) * 64 + c) * 64 + d
    (n / 65536).toUInt8 :: (n / 256).toUInt8 :: n.toUInt8 :: bytesOf rest
  | [a, b, c] =>
    let n := (a * 64 + b) * 64 + c
    [(n / 1024).toUInt8, (n / 4).toUInt8]
  | [a, b] => [((a * 64 + b) / 16).toUInt8]
  | _ => []

/-- The bytes of a text; characters that are no digits do not count. -/
def decode (text : List Char) : List UInt8 :=
  bytesOf (text.filterMap fun c => digits.idxOf? c)

end EditImpact.Text.Base64
