/-!
# Binding tokens

A token is a random universally unique identifier of version four: 122 random
bits, the version and the variant, written as thirty-two hexadecimal digits in
five groups.
-/

namespace ResumableSession.BindingToken

/-- The sizes of the groups of digits. -/
def groupSizes : List Nat := [8, 4, 4, 4, 12]

/-- One hexadecimal digit. -/
def digit (value : Nat) : Char := (Nat.digitChar (value % 16))

/-- The digits of a number, most significant first, to a fixed width. -/
def digits : (width value : Nat) → List Char
  | 0, _ => []
  | width + 1, value => digits width (value / 16) ++ [digit value]

/-- Random bits with the version and the variant put in their places. -/
def stamp (random : Nat) : List Char :=
  let drawn := digits 32 random
  drawn.take 12 ++ ['4'] ++ (drawn.drop 13).take 3 ++ [digit (8 + random / 0x1000000000000000 % 4)] ++
    drawn.drop 17

/-- Digits in groups of the given sizes, with dashes between them. -/
def grouped : List Nat → List Char → List Char
  | [], _ => []
  | [size], chars => chars.take size
  | size :: sizes, chars => chars.take size ++ ['-'] ++ grouped sizes (chars.drop size)

/-- The token that a draw of random bits gives. -/
def ofRandom (random : Nat) : String := String.ofList (grouped groupSizes (stamp random))

end ResumableSession.BindingToken
