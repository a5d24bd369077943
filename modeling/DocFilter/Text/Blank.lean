/-!
# Blank characters and trimming

Names typed by people arrive with stray blanks, and several rules of this library
look a word up only after its blanks are gone.  Blank means the Unicode property
`White_Space`, which is wider than the blanks of ASCII and contains no format
character: a byte order mark is not blank.

Everything here is said on lists of characters, where a proof can see it; `trim`
and `isBlankText` carry it over to strings.
-/

namespace DocFilter
namespace Text

/-- The characters with the Unicode property `White_Space`. -/
def isBlank (c : Char) : Bool :=
  let n := c.toNat
  (0x09 ≤ n && n ≤ 0x0D) || n == 0x20 || n == 0x85 || n == 0xA0 || n == 0x1680 ||
    (0x2000 ≤ n && n ≤ 0x200A) || n == 0x2028 || n == 0x2029 || n == 0x202F ||
    n == 0x205F || n == 0x3000

/-- The list without the longest run of `p` at its end. -/
def dropEnd (p : Char → Bool) (cs : List Char) : List Char :=
  (cs.reverse.dropWhile p).reverse

/-- The list without its blanks at either end. -/
def trimChars (cs : List Char) : List Char :=
  dropEnd isBlank (cs.dropWhile isBlank)

/-- The text without its blanks at either end. -/
def trim (s : String) : String :=
  String.ofList (trimChars s.toList)

/-- Nothing but blanks. -/
def isBlankText (s : String) : Bool :=
  s.toList.all isBlank

end Text
end DocFilter
