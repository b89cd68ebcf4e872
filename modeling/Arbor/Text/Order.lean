/-!
# The order of texts

Texts are put in order character by character, each by its code point, and a text comes before all
that begin with it.
-/

namespace Arbor
namespace Text

/-- Whether a text does not come after another. -/
def notAfter : List Char → List Char → Bool
  | [], _ => true
  | _ :: _, [] => false
  | a :: left, b :: right => if a = b then notAfter left right else a.toNat < b.toNat

end Text
end Arbor
