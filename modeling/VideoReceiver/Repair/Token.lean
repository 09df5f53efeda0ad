import VideoReceiver.AnnexB

/-!
# Burst tokens

The datagrams of one burst carry the same three lowercase letters, so that the sender can tell a
repeated datagram from a new burst.

## Main definitions

- `Token`, `Token.payload`: three letters, and the datagram that carries them
- `Token.isPayload`: the shape of such a datagram
- `Token.counting`: a supply of tokens
-/

namespace VideoReceiver

/-- Three letters, each given by its place in the alphabet. -/
structure Token where
  first : Fin 26
  second : Fin 26
  third : Fin 26
  deriving DecidableEq, Repr

namespace Token

instance : Inhabited Token := ⟨⟨0, 0, 0⟩⟩

/-- The byte of a lowercase letter. -/
def letter (i : Fin 26) : UInt8 := 97 + i.val.toUInt8

/-- The content of a datagram: the three letters and a line feed. -/
def payload (t : Token) : Bytes := [letter t.first, letter t.second, letter t.third, 10]

/-- Whether a byte is a lowercase letter. -/
def isLetter (b : UInt8) : Bool := 97 ≤ b && b ≤ 122

/-- Whether a datagram consists of three lowercase letters and a line feed. -/
def isPayload : Bytes → Bool
  | [a, b, c, 10] => isLetter a && isLetter b && isLetter c
  | _ => false

/-- A supply of tokens: the `n`-th one spells `n` in base 26, modulo the number of tokens. -/
def counting (n : Nat) : Token :=
  ⟨Fin.ofNat 26 (n / 676), Fin.ofNat 26 (n / 26), Fin.ofNat 26 n⟩

theorem isLetter_letter (i : Fin 26) : isLetter (letter i) = true := by
  revert i; decide

@[simp] theorem isPayload_payload (t : Token) : isPayload t.payload = true := by
  simp [payload, isPayload, isLetter_letter]

end Token

end VideoReceiver
