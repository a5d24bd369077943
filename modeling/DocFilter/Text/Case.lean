import DocFilter.Text.CaseData

/-!
# Lower and upper case of a text

The full case mappings of Unicode, without the rules that depend on a language.
A mapping may lengthen a text: `ß` has the upper case `SS`, and `İ` the lower
case `i` with a dot above.

One mapping depends on the neighbours.  A capital sigma becomes `ς` where it ends
a word and `σ` elsewhere.  It ends a word when, past characters that case
ignores, a cased character stands before it and none stands after it.
-/

namespace DocFilter
namespace Text

/-- Whether the run moves the code point `n`. -/
def CaseRun.covers (r : CaseRun) (n : Nat) : Bool :=
  r.first ≤ n && n ≤ r.last && (n - r.first) % r.step == 0

/-- The code point a table of runs maps `n` to, if it moves it at all. -/
def CaseRun.apply? (runs : List CaseRun) (n : Nat) : Option Nat :=
  (runs.find? (·.covers n)).map fun r => (Int.ofNat n + r.shift).toNat

/-- The property `Cased`. -/
def isCased (c : Char) : Bool :=
  casedRanges.any fun r => r.1 ≤ c.toNat && c.toNat ≤ r.2

/-- The property `Case_Ignorable`. -/
def isCaseIgnorable (c : Char) : Bool :=
  caseIgnorableRanges.any fun r => r.1 ≤ c.toNat && c.toNat ≤ r.2

/-- The first character that case does not ignore is a cased one. -/
def meetsCased (cs : List Char) : Bool :=
  match cs.dropWhile isCaseIgnorable with
  | c :: _ => isCased c
  | [] => false

/-- The lower case of one character away from any context. -/
def lowerChar (c : Char) : List Char :=
  if c.toNat < 0x80 then [c.toLower]
  else if c.toNat = 0x130 then [Char.ofNat 0x69, Char.ofNat 0x307]
  else match CaseRun.apply? lowerRuns c.toNat with
    | some n => [Char.ofNat n]
    | none => [c]

/-- The upper case of one character. -/
def upperChar (c : Char) : List Char :=
  if c.toNat < 0x80 then [c.toUpper]
  else match upperExpansions.lookup c.toNat with
    | some ns => ns.map Char.ofNat
    | none =>
      match CaseRun.apply? upperRuns c.toNat with
      | some n => [Char.ofNat n]
      | none => [c]

/-- The lower case of the characters `rest`, after `before` in reverse. -/
def lowerFrom (before : List Char) : List Char → List Char
  | [] => []
  | c :: rest =>
    let mapped :=
      if c.toNat = 0x3A3 then
        if meetsCased before && !meetsCased rest then [Char.ofNat 0x3C2]
        else [Char.ofNat 0x3C3]
      else lowerChar c
    mapped ++ lowerFrom (c :: before) rest

/-- The text in lower case. -/
def lower (s : String) : String :=
  String.ofList (lowerFrom [] s.toList)

/-- The text in upper case. -/
def upper (s : String) : String :=
  String.ofList (s.toList.flatMap upperChar)

end Text
end DocFilter
