/-!
# Octets of a text

Counting and cutting a text by the octets in which it is stored.

## Main definitions

- `Text.octetCount`: the number of octets of a text
- `Text.takeOctets`, `Text.dropOctets`: a text up to a place, and behind it
-/

namespace VideoReceiver.Text

/-- The number of octets in which a text is stored. -/
def octetCount (cs : List Char) : Nat := cs.foldl (fun n x => n + x.utf8Size) 0

/-- The characters that fit wholly into `n` octets. -/
def takeOctets (n : Nat) : List Char → List Char
  | [] => []
  | x :: rest => if x.utf8Size ≤ n then x :: takeOctets (n - x.utf8Size) rest else []

/-- The characters that start behind the first `n` octets. -/
def dropOctets (n : Nat) : List Char → List Char
  | [] => []
  | x :: rest => if n = 0 then x :: rest else dropOctets (n - x.utf8Size) rest

@[simp] theorem takeOctets_zero (cs : List Char) : takeOctets 0 cs = [] := by
  cases cs with
  | nil => rfl
  | cons x rest => simp [takeOctets, Nat.ne_of_gt x.utf8Size_pos]

@[simp] theorem dropOctets_zero (cs : List Char) : dropOctets 0 cs = cs := by
  cases cs <;> simp [dropOctets]

end VideoReceiver.Text
