/-!
# Splitting a text at a character

`splitAt` cuts a list of characters at every separator; `n` separators give
`n + 1` parts, some of which may be empty.  `joinWith` puts parts together again,
and undoes the splitting.
-/

namespace DocFilter
namespace Text

/-- A character in front of the first part. -/
def consFirst (c : Char) : List (List Char) → List (List Char)
  | [] => [[c]]
  | part :: rest => (c :: part) :: rest

/-- The parts between the separators. -/
def splitAt (separator : Char) : List Char → List (List Char)
  | [] => [[]]
  | c :: rest =>
    if c = separator then [] :: splitAt separator rest
    else consFirst c (splitAt separator rest)

/-- The parts with separators between them. -/
def joinWith (separator : Char) : List (List Char) → List Char
  | [] => []
  | [part] => part
  | part :: rest => part ++ separator :: joinWith separator rest

theorem splitAt_ne_nil (separator : Char) (cs : List Char) : splitAt separator cs ≠ [] := by
  cases cs with
  | nil => simp [splitAt]
  | cons c rest =>
    by_cases h : c = separator
    · simp [splitAt, h]
    · cases hr : splitAt separator rest <;> simp [splitAt, h, hr, consFirst]

/-- Joining undoes splitting. -/
theorem joinWith_splitAt (separator : Char) (cs : List Char) :
    joinWith separator (splitAt separator cs) = cs := by
  induction cs with
  | nil => rfl
  | cons c rest ih =>
    have hne := splitAt_ne_nil separator rest
    cases hr : splitAt separator rest with
    | nil => exact absurd hr hne
    | cons part parts =>
      rw [hr] at ih
      by_cases h : c = separator
      · simp [splitAt, h, hr, joinWith, ih]
      · cases parts with
        | nil =>
          simp only [joinWith] at ih
          simp [splitAt, h, hr, consFirst, joinWith, ih]
        | cons p ps =>
          simp only [joinWith] at ih
          simp [splitAt, h, hr, consFirst, joinWith, ih]

end Text
end DocFilter
