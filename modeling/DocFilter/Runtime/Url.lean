import DocFilter.Json.Lexer
import DocFilter.Number.Numeral
import DocFilter.Text.Blank
import DocFilter.Text.Split

/-!
# A reading of URLs to run with

Which texts are URLs is for the library that reads them to say, and `Dialect.ofUrl?` is
given its answer.  What stands here is the answer a running program gives it, for the
schemes a dialect can go by.

Control characters and spaces around a URL are dropped, and tabs and line breaks anywhere
in it.  What follows the scheme is free unless it begins with two slashes; then comes an
authority, made of an optional user in front of `@`, a host and an optional port, and that
has to be right.  A `file` URL has a host in that place and nothing else, and its host may
be missing or be the letter of a drive.

Hosts of `file` URLs are looked at as they are written: percent signs are not decoded, and
neither names in other scripts than Latin nor numbers of four parts are brought into form.
-/

namespace DocFilter
namespace Runtime
namespace Url

/-- Control characters and the space. -/
def isEdge (c : Char) : Bool := c.toNat ≤ 0x20

/-- Characters that are dropped wherever they stand. -/
def isDropped (c : Char) : Bool := c == '\t' || c == '\n' || c == '\r'

/-- The characters that count. -/
def significant (cs : List Char) : List Char :=
  (Text.dropEnd isEdge (cs.dropWhile isEdge)).filter fun c => !isDropped c

/-- Characters of a scheme after the first one. -/
def isSchemeChar (c : Char) : Bool := c.isAlphanum || c == '+' || c == '-' || c == '.'

/-- The scheme in lower case, and what follows the colon after it. -/
def splitScheme? (cs : List Char) : Option (List Char × List Char) :=
  match cs with
  | c :: _ =>
    if c.isAlpha then
      match cs.dropWhile isSchemeChar with
      | ':' :: rest => some ((cs.takeWhile isSchemeChar).map Char.toLower, rest)
      | _ => none
    else none
  | [] => none

/-- The characters that end an authority. -/
def endsAuthority (c : Char) : Bool := c == '/' || c == '?' || c == '#'

/-- The characters in front of the last `@`, and those after it. -/
def splitUser (cs : List Char) : Option (List Char) × List Char :=
  let parts := Text.splitAt '@' cs
  match parts.getLast?, parts.dropLast with
  | some host, first :: more => (some (Text.joinWith '@' (first :: more)), host)
  | _, _ => (none, cs)

/-- The host and what follows it, which is nothing or begins with the colon of a
port.  A colon between brackets belongs to the host. -/
def splitHost (inBrackets : Bool) : List Char → List Char × List Char
  | [] => ([], [])
  | c :: rest =>
    if c = ':' ∧ !inBrackets then ([], c :: rest)
    else
      let (host, port) :=
        splitHost (if c = '[' then true else if c = ']' then false else inBrackets) rest
      (c :: host, port)

/-- Characters no host may hold. -/
def isForbiddenInHost (c : Char) : Bool :=
  c.toNat == 0 || "\t\n\r #/:<>?@[\\]^|".toList.contains c

/-! ## Addresses in brackets -/

/-- A piece of an address: up to four hexadecimal digits. -/
def isAddressPiece (cs : List Char) : Bool :=
  !cs.isEmpty && cs.length ≤ 4 && cs.all fun c => (Json.hexValue? c).isSome

/-- A part of a dotted address: a number below 256 without a zero in front. -/
def isByte (cs : List Char) : Bool :=
  isDigits cs && cs.length ≤ 3 && digitsValue cs < 256 && (cs.length == 1 || cs.head? != some '0')

/-- A dotted address. -/
def isDotted (cs : List Char) : Bool :=
  let parts := Text.splitAt '.' cs
  parts.length == 4 && parts.all isByte

/-- How many pieces a run of parts counts for; only the last part may be a dotted
address, and that counts for two. -/
def countPieces? : List (List Char) → Option Nat
  | [] => some 0
  | [part] => if isAddressPiece part then some 1 else if isDotted part then some 2 else none
  | part :: rest =>
    if isAddressPiece part then (countPieces? rest).map (· + 1) else none

/-- The parts of one side of a double colon. -/
def side (cs : List Char) : List (List Char) :=
  if cs.isEmpty then [] else Text.splitAt ':' cs

/-- The text in front of the first double colon and the text after it. -/
def splitAtGap? : List Char → Option (List Char × List Char)
  | [] => none
  | ':' :: ':' :: rest => some ([], rest)
  | c :: rest => (splitAtGap? rest).map fun (before, after) => (c :: before, after)

/-- An address of eight pieces, or of fewer with one double colon that stands for
those missing. -/
def isAddress (cs : List Char) : Bool :=
  match splitAtGap? cs with
  | none => countPieces? (Text.splitAt ':' cs) == some 8
  | some (before, after) =>
    let head := side before
    let tail := side after
    head.all isAddressPiece &&
      match countPieces? tail with
      | some n => head.length + n ≤ 7
      | none => false

/-- A host: an address in brackets, or no forbidden character. -/
def isHost (cs : List Char) : Bool :=
  match cs with
  | '[' :: rest => rest.getLast? == some ']' && isAddress rest.dropLast
  | _ => cs.all fun c => !isForbiddenInHost c

/-- A port after its colon: digits up to 65535, or nothing.  A backslash ends
it. -/
def isPort (cs : List Char) : Bool :=
  let digits := cs.takeWhile (· != '\\')
  digits.all Char.isDigit && digitsValue digits ≤ 65535

/-- Whether there is a user or a password in front of `@`. -/
def namesUser (user : List Char) : Bool := user != [] && user != [':']

/-- An authority; `more` says whether anything follows it. -/
def isAuthority (cs : List Char) (more : Bool) : Bool :=
  let (user, rest) := splitUser cs
  let (host, port) := splitHost false rest
  let portRight := match port with
    | ':' :: digits => isPort digits
    | _ => true
  let emptyRight :=
    port.isEmpty &&
      match user with
      | none => true
      | some u => if u.isEmpty then !more else !namesUser u
  isHost host && portRight && (!host.isEmpty || emptyRight)

/-- Whether what follows a scheme other than `file` is well-formed. -/
def isPlainRest : List Char → Bool
  | '/' :: '/' :: rest =>
    let authority := rest.takeWhile fun c => !endsAuthority c
    isAuthority authority (rest.length != authority.length)
  | _ => true

/-! ## Files -/

/-- The slashes of a `file` URL. -/
def isSlash (c : Char) : Bool := c == '/' || c == '\\'

/-- The letter of a drive, with the sign behind it. -/
def isDrive : List Char → Bool
  | [letter, sign] => letter.isAlpha && (sign == ':' || sign == '|')
  | _ => false

/-- The host of a `file` URL, which can be missing or be a drive. -/
def isFileHost (cs : List Char) : Bool :=
  cs.isEmpty || isDrive cs || isHost cs && cs.all fun c => 0x20 < c.toNat && c.toNat != 0x7F

/-- Whether what follows the scheme `file` is well-formed. -/
def isFileRest : List Char → Bool
  | a :: b :: rest =>
    if isSlash a && isSlash b then
      isFileHost (rest.takeWhile fun c => !(endsAuthority c || isSlash c))
    else true
  | _ => true

/-! ## URLs -/

/-- Whether what follows a scheme is well-formed. -/
def isWellFormed (scheme rest : List Char) : Bool :=
  if scheme = ['f', 'i', 'l', 'e'] then isFileRest rest else isPlainRest rest

/-- The scheme of a well-formed URL. -/
def scheme? (url : String) : Option String :=
  match splitScheme? (significant url.toList) with
  | some (scheme, rest) =>
    if isWellFormed scheme rest then some (String.ofList scheme) else none
  | none => none

end Url
end Runtime
end DocFilter
