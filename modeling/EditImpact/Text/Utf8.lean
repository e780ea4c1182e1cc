/-!
Texts as bytes. Bytes that are no text are read as the replacement character, one for each longest
beginning of a character that does not go on.
-/

namespace EditImpact.Text

/-- The number of bytes of a text in UTF-8. -/
def utf8Size (text : List Char) : Nat := text.foldl (fun size c => size + c.utf8Size) 0

def replacement : Char := '\ufffd'

/-- A character that has begun: its value so far, how many bytes are missing, and the range of the
next one. -/
structure Begun where
  value : Nat
  missing : Nat
  low : Nat
  high : Nat
  deriving DecidableEq, Repr

/-- What a first byte is: a character, the beginning of one, or nothing. -/
def beginWith (byte : Nat) : Except Begun (Option Char) :=
  if byte < 0x80 then .ok (some (Char.ofNat byte))
  else if 0xC2 ≤ byte && byte ≤ 0xDF then .error ⟨byte - 0xC0, 1, 0x80, 0xBF⟩
  else if byte == 0xE0 then .error ⟨byte - 0xE0, 2, 0xA0, 0xBF⟩
  else if byte == 0xED then .error ⟨byte - 0xE0, 2, 0x80, 0x9F⟩
  else if 0xE1 ≤ byte && byte ≤ 0xEF then .error ⟨byte - 0xE0, 2, 0x80, 0xBF⟩
  else if byte == 0xF0 then .error ⟨byte - 0xF0, 3, 0x90, 0xBF⟩
  else if 0xF1 ≤ byte && byte ≤ 0xF3 then .error ⟨byte - 0xF0, 3, 0x80, 0xBF⟩
  else if byte == 0xF4 then .error ⟨byte - 0xF0, 3, 0x80, 0x8F⟩
  else .ok none

def decodeFrom : Option Begun → List UInt8 → List Char
  | none, [] => []
  | some _, [] => [replacement]
  | state, byte :: rest =>
    let first := fun _ : Unit =>
      match beginWith byte.toNat with
      | .ok (some c) => c :: decodeFrom none rest
      | .ok none => replacement :: decodeFrom none rest
      | .error begun => decodeFrom (some begun) rest
    match state with
    | none => first ()
    | some begun =>
      if begun.low ≤ byte.toNat && byte.toNat ≤ begun.high then
        let value := begun.value * 64 + (byte.toNat - 0x80)
        if begun.missing ≤ 1 then Char.ofNat value :: decodeFrom none rest
        else decodeFrom (some ⟨value, begun.missing - 1, 0x80, 0xBF⟩) rest
      else replacement :: first ()

def decodeUtf8 (bytes : List UInt8) : List Char := decodeFrom none bytes

/-- All line ends as newlines. -/
def unixLines : List Char → List Char
  | [] => []
  | '\r' :: '\n' :: rest => '\n' :: unixLines rest
  | '\r' :: rest => '\n' :: unixLines rest
  | c :: rest => c :: unixLines rest

end EditImpact.Text
