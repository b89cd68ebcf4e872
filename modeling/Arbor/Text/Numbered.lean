/-!
# Names with numbers

A name may end in a number behind a point, as in `branch.002`.  `split` takes a name apart into its
base and that number, and `numbered` writes a number behind a base.  Names are kept in bytes, of
which there is only so much room: `fitting` cuts a name between two characters, so that what is
left is a name again and as long as it can be.
-/

namespace Arbor
namespace Text

/-- A number written with three digits or more. -/
def threeDigits (n : Nat) : List Char :=
  let digits := Nat.toDigits 10 n
  List.replicate (3 - digits.length) '0' ++ digits

/-- A point and a number. -/
def numberSuffix (n : Nat) : List Char := '.' :: threeDigits n

/-- A name with a number behind it. -/
def numbered (base : List Char) (n : Nat) : List Char := base ++ numberSuffix n

/-- The number that digits stand for. -/
def numberOf (digits : List Char) : Nat :=
  digits.foldl (fun n digit => 10 * n + (digit.toNat - '0'.toNat)) 0

/-- What is left of a number in a word of 32 bits with a sign.  Numbers beyond 63 bits are cut to
the greatest of these first, and what looks negative counts as no number. -/
def wordOf (n : Nat) : Nat :=
  let low := min n (Nat.pow 2 63 - 1) % Nat.pow 2 32
  if low < Nat.pow 2 31 then low else 0

/-- The base of a name and the number behind its last point, if only digits follow it; otherwise the
whole name and zero.  A name of several characters that ends in a point is a base. -/
def split (name : List Char) : List Char × Nat :=
  let digits := name.reverse.takeWhile Char.isDigit
  match digits, name.reverse.dropWhile Char.isDigit with
  | [], '.' :: [] => ([], 0)
  | _ :: _, '.' :: base => (base.reverse, wordOf (numberOf digits.reverse))
  | _, _ => (name, 0)

/-- The number of bytes that a name is kept in. -/
def byteCount : List Char → Nat
  | [] => 0
  | c :: rest => c.utf8Size + byteCount rest

/-- The longest beginning of a name that is kept in so many bytes. -/
def fitting : Nat → List Char → List Char
  | _, [] => []
  | room, c :: rest => if c.utf8Size ≤ room then c :: fitting (room - c.utf8Size) rest else []

/-- What fits is within the room. -/
theorem byteCount_fitting_le (room : Nat) (name : List Char) :
    byteCount (fitting room name) ≤ room := by
  induction name generalizing room with
  | nil => simp [fitting, byteCount]
  | cons c rest ih =>
    by_cases room_for : c.utf8Size ≤ room
    · have := ih (room - c.utf8Size)
      simp only [fitting, if_pos room_for, byteCount] at this ⊢
      omega
    · simp [fitting, room_for, byteCount]

end Text
end Arbor
