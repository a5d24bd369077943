import DocFilter.Dialect.ConnectionUrl
import DocFilter.Number.Numeral
import DocFilter.Proofs.Text.Character

/-!
# What a library that reads URLs keeps to

Which texts are URLs, and what the scheme of one is, is for a library to say.  Two of the rules
for URLs matter to connection URLs: how a scheme is read (`ConnectionUrl.ReadsSchemes`), and
that a host is followed by nothing but a port (`ConnectionUrl.RefusesPorts`).  They are
hypotheses of theorems about a library, not part of what a library is.

No two dialects share a scheme, and all schemes are words to which the first rule applies, in
any letter case (`Dialect.isWord_of_lower_mem_schemes`).
-/

namespace DocFilter

namespace ConnectionUrl

/-- Letters and digits, a letter first. -/
structure IsWord (word : List Char) : Prop where
  first : ∃ c ∈ word.head?, c.isAlpha = true
  alphanum : ∀ c ∈ word, c.isAlphanum = true

/-- A URL that begins with a word and a colon has the word for its scheme, in lower case. -/
def ReadsSchemes (schemeOf? : String → Option String) : Prop :=
  ∀ word rest scheme, IsWord word →
    schemeOf? (String.ofList (word ++ ':' :: rest)) = some scheme →
      scheme = String.ofList (word.map Char.toLower)

/-- A number up to 65535 in digits, or nothing at all. -/
def IsPort (port : List Char) : Prop :=
  (∀ c ∈ port, c.isDigit = true) ∧ digitsValue port ≤ 65535

/-- Where a host is followed by a colon, what follows the colon is a port.  The signs left out
here would end the port, or make the host a user; so would blanks, which do not count. -/
def RefusesPorts (schemeOf? : String → Option String) : Prop :=
  ∀ word host port, IsWord word → host ≠ [] → (∀ c ∈ host, c.isAlphanum = true) →
    (∀ c ∈ port, 0x20 < c.toNat ∧ c ∉ ['/', '?', '#', '\\', '@']) → ¬ IsPort port →
      schemeOf? (String.ofList (word ++ ':' :: '/' :: '/' :: (host ++ ':' :: port))) = none

end ConnectionUrl

namespace Dialect

open ConnectionUrl

variable {d : Dialect} {name : String} {scheme : List Char}

/-- No two dialects share a scheme. -/
theorem find?_schemes (h : name ∈ d.schemes) :
    all.find? (fun d => d.schemes.contains name) = some d := by
  cases d <;> simp only [schemes, List.mem_cons, List.not_mem_nil, or_false] at h <;>
    rcases h with rfl | rfl | rfl <;> rfl

/-- A scheme is a word of letters and digits that begins with a letter. -/
theorem alphanum_of_mem_schemes (h : name ∈ d.schemes) :
    name.toList.all Char.isAlphanum = true ∧ name.toList.head?.any Char.isAlpha = true := by
  cases d <;> simp only [schemes, List.mem_cons, List.not_mem_nil, or_false] at h <;>
    rcases h with rfl | rfl | rfl <;> decide

/-- So it is in any letter case. -/
theorem isWord_of_lower_mem_schemes
    (h : String.ofList (scheme.map Char.toLower) ∈ d.schemes) : IsWord scheme := by
  have hword := alphanum_of_mem_schemes h
  rw [String.toList_ofList, List.head?_map] at hword
  refine ⟨?_, fun c hc => Text.isAlphanum_of_toLower
    (List.all_eq_true.mp hword.1 _ (List.mem_map_of_mem hc))⟩
  cases scheme with
  | nil => exact absurd hword.2 (by decide)
  | cons c tail => exact ⟨c, rfl, Text.isAlpha_of_toLower hword.2⟩

/-- The dialect of a URL that begins with one of its schemes, if it is a URL at all. -/
theorem ofUrl?_of_scheme {schemeOf? : String → Option String} {url : String} {rest : List Char}
    (hreads : ReadsSchemes schemeOf?)
    (hscheme : dropDriver (Text.trimChars url.toList) = scheme ++ ':' :: rest)
    (hmem : String.ofList (scheme.map Char.toLower) ∈ d.schemes) :
    ofUrl? schemeOf? url =
      if (schemeOf? (String.ofList (scheme ++ ':' :: rest))).isSome then some d else none := by
  have hofUrl : ofUrl? schemeOf? url = (schemeOf? (String.ofList (scheme ++ ':' :: rest))).bind
      fun name => all.find? fun d => d.schemes.contains name := by
    rw [← hscheme]
    rfl
  rw [hofUrl]
  cases hread : schemeOf? (String.ofList (scheme ++ ':' :: rest)) with
  | none => rfl
  | some name =>
    obtain rfl := hreads scheme rest name (isWord_of_lower_mem_schemes hmem) hread
    exact find?_schemes hmem

end Dialect
end DocFilter
