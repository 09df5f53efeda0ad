/-!
# Portions of a document

A text comes in portions of a fixed size, and a character that may not stand in a document makes the
whole portion unreadable. What can be read without a look at that portion is read all the same.

## Main definitions

- `Yaml.isAllowed`: the characters that may stand in a document
- `Yaml.portionSize`: the size of a portion
- `Yaml.readable?`: how much of a text can be read
-/

namespace VideoReceiver.Yaml

/-- Whether `x` may stand in a document at all. -/
def isAllowed (x : Char) : Bool :=
  let n := x.toNat
  n = 0x09 || n = 0x0A || n = 0x0D || (0x20 ≤ n && n ≤ 0x7E) || n = 0x85 ||
    (0xA0 ≤ n && n ≤ 0xFFFD) || 0x10000 ≤ n

/-- The number of octets in a portion. -/
def portionSize : Nat := 0x4000

/-- The number of octets in front of the first portion that is unreadable, if one is. The text comes
behind `index` octets, and the portion that was read last starts behind `start` octets. A character
that does not fit into a portion starts the next one. -/
def readable? (start index : Nat) : List Char → Option Nat
  | [] => none
  | x :: rest =>
    let next := index + x.utf8Size
    let start := if next ≤ start + portionSize then start else index
    if isAllowed x then readable? start next rest else some start

end VideoReceiver.Yaml
