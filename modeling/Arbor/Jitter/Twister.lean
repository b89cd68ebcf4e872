/-!
# A twisted shift register

A `Twister` is the 32-bit Mersenne twister: 624 words are renewed together by a linear recurrence,
and each is tempered before it is given out.  A seed of any size fills the words, and the same seed
always gives the same draws.  `between` draws a whole number from a range without bias, by taking
just enough leading bits and drawing again as long as they are beyond the range; the number of
attempts is bounded so that every draw ends, by a bound that no draw in use comes near.
-/

namespace Arbor
namespace Jitter

/-- The state of the register and the place of the next word to give out. -/
structure Twister where
  words : Array UInt32
  next : Nat

namespace Twister

/-- The number of words. -/
def size : Nat := 624

/-- How far ahead the word stands that each word is mixed with. -/
def shift : Nat := 397

/-- A word of the register; there is one at every place below `size`. -/
def word (words : Array UInt32) (place : Nat) : UInt32 := words.getD place 0

/-- A word folded with its own upper bits, as the filling of the register does it. -/
def folded (w : UInt32) : UInt32 := w ^^^ (w >>> 30)

/-- The words filled from one word. -/
def ofWord (seed : UInt32) : Array UInt32 :=
  (List.range (size - 1)).foldl
    (fun words place =>
      words.push (1812433253 * folded (word words place) + .ofNat (place + 1)))
    #[seed]

/-- The words while a key is being mixed in, and the places reached in them and in the key. -/
structure Mixing where
  words : Array UInt32
  place : Nat
  keyPlace : Nat

/-- Write a word and go on to the next place; after the last place the first word becomes a copy of
the last and the mixing goes on behind it. -/
def Mixing.put (mixing : Mixing) (w : UInt32) : Mixing :=
  let words := mixing.words.setIfInBounds mixing.place w
  if mixing.place + 1 < size then { mixing with words, place := mixing.place + 1 }
  else { mixing with words := words.setIfInBounds 0 w, place := 1 }

/-- Mix one word of the key in. -/
def Mixing.absorb (key : Array UInt32) (mixing : Mixing) : Mixing :=
  let old := word mixing.words mixing.place
  let before := folded (word mixing.words (mixing.place - 1))
  let w := (old ^^^ before * 1664525) + word key mixing.keyPlace + .ofNat mixing.keyPlace
  let mixed := mixing.put w
  { mixed with keyPlace := if mixing.keyPlace + 1 < key.size then mixing.keyPlace + 1 else 0 }

/-- Spread what has been mixed in over one more word. -/
def Mixing.spread (mixing : Mixing) : Mixing :=
  let old := word mixing.words mixing.place
  let before := folded (word mixing.words (mixing.place - 1))
  mixing.put ((old ^^^ before * 1566083941) - .ofNat mixing.place)

/-- The register filled from a key of words. -/
def ofKey (key : Array UInt32) : Twister :=
  let mixed := (max size key.size).fold (fun _ _ mixing => mixing.absorb key)
    (Mixing.mk (ofWord 19650218) 1 0)
  let spread := (size - 1).fold (fun _ _ mixing => mixing.spread) mixed
  ⟨spread.words.setIfInBounds 0 0x80000000, size⟩

/-- The words of a whole number, the lowest first; zero has one. -/
def wordsOf (n : Nat) : Array UInt32 :=
  (List.range (n.log2 / 32 + 1)).toArray.map fun place => .ofNat (n >>> (32 * place))

/-- The register for a seed.  The sign of the seed makes no difference. -/
def ofSeed (seed : Int) : Twister := ofKey (wordsOf seed.natAbs)

/-- Renew the word at a place from itself, its neighbour, and the word further ahead. -/
def renewWord (words : Array UInt32) (place : Nat) : Array UInt32 :=
  let joined :=
    (word words place &&& 0x80000000) ||| (word words ((place + 1) % size) &&& 0x7fffffff)
  let twist : UInt32 := if joined &&& 1 = 1 then 0x9908b0df else 0
  words.setIfInBounds place (word words ((place + shift) % size) ^^^ (joined >>> 1) ^^^ twist)

/-- Renew all words. -/
def renew (words : Array UInt32) : Array UInt32 :=
  size.fold (fun place _ words => renewWord words place) words

/-- Spread the bits of a word. -/
def temper (w : UInt32) : UInt32 :=
  let w := w ^^^ (w >>> 11)
  let w := w ^^^ ((w <<< 7) &&& 0x9d2c5680)
  let w := w ^^^ ((w <<< 15) &&& 0xefc60000)
  w ^^^ (w >>> 18)

/-- The next word. -/
def draw (twister : Twister) : UInt32 × Twister :=
  if twister.next < size then
    (temper (word twister.words twister.next), { twister with next := twister.next + 1 })
  else
    let words := renew twister.words
    (temper (word words 0), ⟨words, 1⟩)

/-- A number below `count`, from the six leading bits of each word drawn.  After the last attempt
the bits are reduced instead. -/
def below (count : Nat) : Nat → Twister → Nat × Twister
  | 0, twister =>
    let (w, twister) := twister.draw
    ((w >>> 26).toNat % count, twister)
  | attempts + 1, twister =>
    let (w, rest) := twister.draw
    let bits := (w >>> 26).toNat
    if bits < count then (bits, rest) else below count attempts rest

end Twister
end Jitter
end Arbor
