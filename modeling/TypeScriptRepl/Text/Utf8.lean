/-! UTF-8: the bytes of characters, and the characters that bytes stand for. -/
namespace TypeScriptRepl.Text.Utf8

/-- The bytes of a text. -/
def encode (cs : List Char) : List UInt8 := cs.flatMap String.utf8EncodeChar

/-- Whether `b` goes on with a character. -/
def isTail (b : UInt8) : Bool := 0x80 ≤ b && b ≤ 0xBF

/-- Whether `b` may stand after `a` at the beginning of a character of two bytes or more. -/
def isSecond (a b : UInt8) : Bool :=
  if a = 0xE0 then 0xA0 ≤ b && b ≤ 0xBF
  else if a = 0xED then 0x80 ≤ b && b ≤ 0x9F
  else if a = 0xF0 then 0x90 ≤ b && b ≤ 0xBF
  else if a = 0xF4 then 0x80 ≤ b && b ≤ 0x8F
  else isTail b

/-- The low bits of a byte. -/
def bits (b : UInt8) (size : Nat) : Nat := b.toNat % (1 <<< size)

/-- The characters of a byte sequence. None stands for bytes that begin no character, or that begin
one and do not go on with it. -/
def pieces : List UInt8 → List (Option Char)
  | [] => []
  | a :: rest =>
    if a < 0x80 then some (Char.ofNat a.toNat) :: pieces rest
    else if a < 0xC2 || 0xF4 < a then none :: pieces rest
    else
      match rest with
      | [] => [none]
      | b :: rest₁ =>
        if !isSecond a b then none :: pieces (b :: rest₁)
        else if a < 0xE0 then
          some (Char.ofNat (bits a 5 * 64 + bits b 6)) :: pieces rest₁
        else
          match rest₁ with
          | [] => [none]
          | c :: rest₂ =>
            if !isTail c then none :: pieces (c :: rest₂)
            else if a < 0xF0 then
              some (Char.ofNat ((bits a 4 * 64 + bits b 6) * 64 + bits c 6)) :: pieces rest₂
            else
              match rest₂ with
              | [] => [none]
              | d :: rest₃ =>
                if !isTail d then none :: pieces (d :: rest₃)
                else
                  some (Char.ofNat (((bits a 3 * 64 + bits b 6) * 64 + bits c 6) * 64 + bits d 6)) ::
                    pieces rest₃

/-- The text that a byte sequence is, if it is one. -/
def decode? (bytes : List UInt8) : Option (List Char) := (pieces bytes).mapM id

/-- What a byte sequence shows as. A replacement character stands for what is no character. -/
def decodeLossy (bytes : List UInt8) : List Char := (pieces bytes).map (·.getD '\uFFFD')

end TypeScriptRepl.Text.Utf8
