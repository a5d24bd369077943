import DocFilter.Proofs.Dialect.ConnectionUrl
import DocFilter.Proofs.Text.Blank
import DocFilter.Proofs.Text.Split
import DocFilter.Runtime.Url

/-!
# The reading of URLs keeps to the rules

The reading of URLs that a running program is given reads schemes as the rules for URLs say
(`Url.readsSchemes`), and takes no URL whose host is followed by anything but a port
(`Url.refusesPorts`).
-/

namespace DocFilter
namespace Runtime
namespace Url

open ConnectionUrl

variable {word rest host port : List Char} {c : Char}

/-! ## Schemes -/

/-- What stands behind the scheme, without the characters that do not count. -/
def behind (rest : List Char) : List Char := (Text.dropEnd isEdge rest).filter (!isDropped ·)

theorem isSchemeChar_of_isAlphanum (h : c.isAlphanum = true) : isSchemeChar c = true := by
  rw [isSchemeChar, h]
  rfl

/-- Letters and digits stand behind the space. -/
theorem lt_toNat_of_isAlphanum (h : c.isAlphanum = true) : 0x20 < c.toNat := by
  delta Char.isAlphanum Char.isAlpha Char.isUpper Char.isLower Char.isDigit at h
  simp only [Bool.or_eq_true, Bool.and_eq_true, decide_eq_true_eq, ge_iff_le,
    UInt32.le_iff_toNat_le] at h
  rcases h with (⟨h, -⟩ | ⟨h, -⟩) | ⟨h, -⟩ <;> exact lt_of_lt_of_le (by decide) h

theorem isEdge_eq_false_of_lt (h : 0x20 < c.toNat) : isEdge c = false :=
  decide_eq_false (not_le_of_gt h)

/-- The characters that are dropped are control characters. -/
theorem isDropped_eq_false_of_lt (h : 0x20 < c.toNat) : isDropped c = false := by
  rw [isDropped, Bool.or_eq_false_iff, Bool.or_eq_false_iff]
  refine ⟨⟨?_, ?_⟩, ?_⟩ <;> rw [beq_eq_false_iff_ne] <;> rintro rfl <;> exact absurd h (by decide)

/-- Of a URL that begins with a word and a colon, only what stands behind them loses
characters. -/
theorem significant_append (h : IsWord word) (rest : List Char) :
    significant (word ++ ':' :: rest) = word ++ ':' :: behind rest := by
  have hvisible : ∀ c ∈ word, 0x20 < c.toNat := fun c hc => lt_toNat_of_isAlphanum (h.alphanum c hc)
  have hhead : ∀ c ∈ (word ++ ':' :: rest).head?, isEdge c = false := by
    obtain ⟨first, hfirst, -⟩ := h.first
    obtain ⟨tail, rfl⟩ := List.head?_eq_some_iff.mp hfirst
    rintro c ⟨⟩
    exact isEdge_eq_false_of_lt (hvisible first List.mem_cons_self)
  rw [significant, dropWhile_of_head? hhead, Text.dropEnd_append_cons rfl,
    List.filter_append, List.filter_cons_of_pos rfl, behind, List.filter_eq_self.mpr]
  intro c hc
  rw [isDropped_eq_false_of_lt (hvisible c hc)]
  rfl

/-- The scheme is what stands in front of the first colon, in lower case, if what stands behind
it is well-formed. -/
theorem scheme?_append (h : IsWord word) (rest : List Char) :
    scheme? (String.ofList (word ++ ':' :: rest)) =
      if isWellFormed (word.map Char.toLower) (behind rest) then
        some (String.ofList (word.map Char.toLower))
      else none := by
  have hchar : ∀ c ∈ word, isSchemeChar c = true := fun c hc =>
    isSchemeChar_of_isAlphanum (h.alphanum c hc)
  have hsplit : splitScheme? (word ++ ':' :: behind rest) =
      some (word.map Char.toLower, behind rest) := by
    obtain ⟨c, hc, halpha⟩ := h.first
    obtain ⟨tail, rfl⟩ := List.head?_eq_some_iff.mp hc
    rw [List.cons_append, splitScheme?, if_pos halpha, ← List.cons_append,
      List.dropWhile_append_of_pos hchar, List.takeWhile_append_of_pos hchar,
      List.dropWhile_cons_of_neg (by decide), List.takeWhile_cons_of_neg (by decide),
      List.append_nil]
    rfl
  rw [scheme?, String.toList_ofList, significant_append h, hsplit]

theorem readsSchemes : ReadsSchemes scheme? := by
  intro word rest scheme hword h
  rw [scheme?_append hword] at h
  split at h
  · exact (Option.some.inj h).symm
  · exact absurd h (by simp)

/-! ## Ports -/

/-- Visible characters all count. -/
theorem behind_of_forall (h : ∀ c ∈ rest, 0x20 < c.toNat) : behind rest = rest := by
  have hlast : ∀ c ∈ rest.reverse.head?, isEdge c = false := fun c hc =>
    isEdge_eq_false_of_lt (h c (List.mem_reverse.mp (List.mem_of_mem_head? hc)))
  rw [behind, Text.dropEnd, dropWhile_of_head? hlast, List.reverse_reverse,
    List.filter_eq_self]
  intro c hc
  rw [isDropped_eq_false_of_lt (h c hc)]
  rfl

/-- No host has a colon in it, outside brackets. -/
theorem isHost_append_colon (hne : host ≠ []) (h : ∀ c ∈ host, c.isAlphanum = true) :
    isHost (host ++ ':' :: port) = false := by
  obtain ⟨c, tail, rfl⟩ := List.exists_cons_of_ne_nil hne
  have hbracket : c ≠ '[' := Text.ne_of_class (h c List.mem_cons_self) rfl
  have hcolon : (c :: tail ++ ':' :: port).all (fun c => !isForbiddenInHost c) = false :=
    List.all_eq_false.mpr ⟨':', by simp, by decide⟩
  unfold isHost
  split
  · next heq => exact absurd (List.cons.inj heq).1 hbracket
  · exact hcolon

theorem splitHost_append_colon (h : ∀ c ∈ host, c.isAlphanum = true) :
    splitHost false (host ++ ':' :: port) = (host, ':' :: port) := by
  induction host with
  | nil => rfl
  | cons c host ih =>
    obtain ⟨hc, hhost⟩ := List.forall_mem_cons.mp h
    rw [List.cons_append, splitHost, if_neg fun hcolon => Text.ne_of_class hc rfl hcolon.1,
      if_neg (Text.ne_of_class hc rfl), if_neg (Text.ne_of_class hc rfl), ih hhost]

theorem splitUser_of_not_mem {cs : List Char} (h : '@' ∉ cs) : splitUser cs = (none, cs) := by
  rw [splitUser, Text.splitAt_of_not_mem h]
  rfl

theorem isPort_eq_false (h : '\\' ∉ port) (hport : ¬ IsPort port) : isPort port = false := by
  have hall : port.takeWhile (· != '\\') = port :=
    List.takeWhile_eq_self_iff.mpr fun c hc => bne_iff_ne.mpr (ne_of_mem_of_not_mem hc h)
  rw [isPort, hall, Bool.eq_false_iff]
  intro hdigits
  rw [Bool.and_eq_true, List.all_eq_true, decide_eq_true_eq] at hdigits
  exact hport hdigits

theorem isAuthority_append_colon (h : ∀ c ∈ host, c.isAlphanum = true)
    (huser : '@' ∉ host ++ ':' :: port) (hport : isPort port = false) (more : Bool) :
    isAuthority (host ++ ':' :: port) more = false := by
  rw [isAuthority, splitUser_of_not_mem huser]
  simp only [splitHost_append_colon h, hport, Bool.and_false, Bool.false_and]

theorem isFileHost_append_colon (hne : host ≠ []) (h : ∀ c ∈ host, c.isAlphanum = true)
    (hport : port ≠ []) : isFileHost (host ++ ':' :: port) = false := by
  have hdrive : isDrive (host ++ ':' :: port) = false := by
    unfold isDrive
    split
    · next heq =>
      have hlength := congrArg List.length heq
      have hhost := List.length_pos_iff.mpr hne
      have hport := List.length_pos_iff.mpr hport
      simp at hlength
      omega
    · rfl
  rw [isFileHost, hdrive, isHost_append_colon hne h]
  simp

/-- The signs that end a host or a port, or make a user of them. -/
def signs : List Char := ['/', '?', '#', '\\', '@']

/-- None of the signs is in a host, a colon and what follows it. -/
theorem not_mem_signs (hhost : ∀ c ∈ host, c.isAlphanum = true) (hport : ∀ c ∈ port, c ∉ signs) :
    ∀ c ∈ host ++ ':' :: port, c ∉ signs := by
  have halphanum : ∀ sign ∈ signs, sign.isAlphanum = false := by simp [signs]
  simp only [List.forall_mem_append, List.forall_mem_cons]
  exact ⟨fun c hc hsign => Text.ne_of_class (hhost c hc) (halphanum c hsign) rfl, by decide, hport⟩

theorem isPlainRest_append_colon (hhost : ∀ c ∈ host, c.isAlphanum = true)
    (hsigns : ∀ c ∈ host ++ ':' :: port, c ∉ signs) (hport : ¬ IsPort port) :
    isPlainRest ('/' :: '/' :: (host ++ ':' :: port)) = false := by
  have hall : (host ++ ':' :: port).takeWhile (fun c => !endsAuthority c) =
      host ++ ':' :: port := by
    refine List.takeWhile_eq_self_iff.mpr fun c hc => ?_
    have hc := hsigns c hc
    simp only [signs, List.mem_cons, not_or] at hc
    simp [endsAuthority, hc]
  have huser : '@' ∉ host ++ ':' :: port := fun h => hsigns '@' h (by decide)
  have hend : '\\' ∉ port := fun h => hsigns '\\' (by simp [h]) (by decide)
  rw [isPlainRest, hall]
  exact isAuthority_append_colon hhost huser (isPort_eq_false hend hport) _

theorem isFileRest_append_colon (hne : host ≠ []) (hhost : ∀ c ∈ host, c.isAlphanum = true)
    (hsigns : ∀ c ∈ host ++ ':' :: port, c ∉ signs) (hport : ¬ IsPort port) :
    isFileRest ('/' :: '/' :: (host ++ ':' :: port)) = false := by
  have hall : (host ++ ':' :: port).takeWhile (fun c => !(endsAuthority c || isSlash c)) =
      host ++ ':' :: port := by
    refine List.takeWhile_eq_self_iff.mpr fun c hc => ?_
    have hc := hsigns c hc
    simp only [signs, List.mem_cons, not_or] at hc
    simp [endsAuthority, isSlash, hc]
  have hsome : port ≠ [] := by
    rintro rfl
    exact hport ⟨fun c hc => absurd hc List.not_mem_nil, by decide⟩
  rw [isFileRest, if_pos (by decide), hall]
  exact isFileHost_append_colon hne hhost hsome

theorem refusesPorts : RefusesPorts scheme? := by
  intro word host port hword hne hhost hport hnot
  have hsigns := not_mem_signs hhost fun c hc => (hport c hc).2
  have hvisible : ∀ c ∈ '/' :: '/' :: (host ++ ':' :: port), 0x20 < c.toNat := by
    simp only [List.forall_mem_cons, List.forall_mem_append]
    exact ⟨by decide, by decide, fun c hc => lt_toNat_of_isAlphanum (hhost c hc), by decide,
      fun c hc => (hport c hc).1⟩
  rw [scheme?_append hword, behind_of_forall hvisible, isWellFormed,
    isPlainRest_append_colon hhost hsigns hnot, isFileRest_append_colon hne hhost hsigns hnot,
    ite_self]
  rfl

end Url
end Runtime
end DocFilter
