import Arbor.Text.Unmarked

/-!
# Quoted text

Messages show a text between quotes, so that a reader sees where it begins and ends and which
invisible characters it holds.  Single quotes are used unless the text holds a single quote and no
double one.  Within the quotes the backslash, the quote itself and every character without a mark
of its own are written as escapes.
-/

namespace Arbor
namespace Text

/-- The last `width` digits to base sixteen, in lower case. -/
def hexDigits (width n : Nat) : List Char :=
  let digits := Nat.toDigits 16 n
  List.replicate (width - digits.length) '0' ++ digits

/-- How one character stands between the given quotes. -/
def escape (quote c : Char) : List Char :=
  if c = '\\' || c = quote then ['\\', c]
  else if c = '\n' then ['\\', 'n']
  else if c = '\t' then ['\\', 't']
  else if c = '\r' then ['\\', 'r']
  else if !isUnmarked c then [c]
  else if c.toNat < 0x100 then '\\' :: 'x' :: hexDigits 2 c.toNat
  else if c.toNat < 0x10000 then '\\' :: 'u' :: hexDigits 4 c.toNat
  else '\\' :: 'U' :: hexDigits 8 c.toNat

/-- The quotes a text is put between. -/
def quoteFor (text : List Char) : Char :=
  if text.contains '\x27' && !text.contains '\x22' then '\x22' else '\x27'

/-- A text between quotes. -/
def quoted (text : String) : String :=
  let quote := quoteFor text.toList
  .ofList (quote :: text.toList.flatMap (escape quote) ++ [quote])

end Text
end Arbor
