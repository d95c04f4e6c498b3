/-! Bytes read as UTF-8 where anything may occur. The longest beginning of a character that is broken off, or one
byte that begins none, gives one replacement character. -/
namespace EmailMarkup.Text

def sequence? (first : Nat) : Option (Nat × Nat × Nat) :=
  if 0xc2 ≤ first ∧ first ≤ 0xdf then some (1, 0x80, 0xbf)
  else if first = 0xe0 then some (2, 0xa0, 0xbf)
  else if first = 0xed then some (2, 0x80, 0x9f)
  else if 0xe1 ≤ first ∧ first ≤ 0xef then some (2, 0x80, 0xbf)
  else if first = 0xf0 then some (3, 0x90, 0xbf)
  else if first = 0xf4 then some (3, 0x80, 0x8f)
  else if 0xf1 ≤ first ∧ first ≤ 0xf3 then some (3, 0x80, 0xbf)
  else none

def leadBits (first count : Nat) : Nat := first % Nat.pow 2 (6 - count)

/-- The state between bytes: a character begun, the bytes it still needs, and the range of the next. -/
structure Begun where
  bits : Nat
  needed : Nat
  low : Nat
  high : Nat
  deriving DecidableEq, Repr

def decodeLossyFrom : Option Begun → List Nat → List Char
  | none, [] => []
  | some _, [] => ['\ufffd']
  | state, byte :: rest =>
      let start := fun (_ : Unit) =>
        if byte < 0x80 then Char.ofNat byte :: decodeLossyFrom none rest
        else match sequence? byte with
          | some (count, low, high) => decodeLossyFrom (some ⟨leadBits byte count, count, low, high⟩) rest
          | none => '\ufffd' :: decodeLossyFrom none rest
      match state with
      | none => start ()
      | some begun =>
          if begun.low ≤ byte ∧ byte ≤ begun.high then
            let bits := begun.bits * 64 + byte % 64
            if begun.needed = 1 then Char.ofNat bits :: decodeLossyFrom none rest
            else decodeLossyFrom (some ⟨bits, begun.needed - 1, 0x80, 0xbf⟩) rest
          else '\ufffd' :: start ()

def decodeLossy (bytes : List Nat) : List Char := decodeLossyFrom none bytes

end EmailMarkup.Text
