import DocFilter.Proofs.Config.Reference
import DocFilter.Proofs.List

/-!
# Where a reference ends

A reference ends at its first closing brace, and what stands behind the brace is expanded by
itself.  There is one exception.  The character behind the first colon is the modifier whatever
it is, so where a colon stands right in front of the brace, the brace is taken for the modifier.
Such a reference goes on to the next brace, and what stands in between is lost wherever the
variable is set (`Reference.exists_swallowed`).

So a text in front of which a reference stands is expanded in two parts exactly if the body of
the reference does not break off behind its first colon, or nothing can be made of the text at
all (`Reference.ends_of_not_mem`).
-/

namespace DocFilter
namespace Reference

variable {env : Environment}

/-! ## What a reference stands for -/

/-- Only a default stands in for a variable. -/
theorem fallback_eq_ok_iff {r : Reference} {s : String} :
    r.fallback = .ok s ↔ r.modifier = some '-' ∧ r.argument = s := by
  unfold fallback
  split
  · next h => simp [h]
  · next h => simp [h]
  · next c hdash _ h => simpa [h] using fun hc => absurd hc hdash
  · next h => simp [h]

theorem value_eq_ok_iff {r : Reference} {s : String} :
    r.value env = .ok s ↔ r.name ≠ "" ∧ (env.nonempty? r.name = some s ∨
      env.nonempty? r.name = none ∧ r.modifier = some '-' ∧ r.argument = s) := by
  by_cases hname : r.name = ""
  · have hvalue : r.value env = .error (.reference r.name .emptyName) :=
      if_pos (String.isEmpty_iff.mpr hname)
    simp [hvalue, hname]
  · rw [value_of_ne_empty hname]
    cases env.nonempty? r.name with
    | none => simp [fallback_eq_ok_iff, hname]
    | some value => simp [hname]

/-! ## Bodies -/

/-- A reference as it is written, around its body. -/
def written (body : String) : String := "$\x7b" ++ body ++ "\x7d"

/-- The name and a colon, and nothing behind the colon. -/
def BreaksOff (body name : String) : Prop := ':' ∉ name.toList ∧ body = name ++ ":"

theorem toList_written (before body rest : String) :
    (before ++ written body ++ rest).toList =
      before.toList ++ '$' :: '\x7b' :: (body.toList ++ '\x7d' :: rest.toList) := by
  simp [written]

theorem parts_open (cs : List Char) : parts ('$' :: '\x7b' :: cs) = partsFrom (.name []) cs := rfl

/-- A body that does not break off is the body of a reference, whatever stands behind it. -/
theorem exists_parts_reference {body : String} (hbrace : '\x7d' ∉ body.toList)
    (h : ∀ name, ¬ BreaksOff body name) :
    ∃ r : Reference, ∀ rest,
      parts ('$' :: '\x7b' :: (body.toList ++ '\x7d' :: rest)) = .reference r :: parts rest := by
  by_cases hcolon : ':' ∈ body.toList
  swap
  · refine ⟨ofSeen body.toList.reverse none [], fun rest => ?_⟩
    rw [parts_open, partsFrom_name hcolon hbrace, List.append_nil]
    rfl
  obtain ⟨name, tail, hbody, hname⟩ := List.eq_append_cons_of_mem hcolon
  cases tail with
  | nil =>
    refine absurd ⟨by rwa [String.toList_ofList], ?_⟩ (h (String.ofList name))
    rw [← String.ofList_toList (s := body), hbody, String.ofList_append]
  | cons m argument =>
    rw [hbody, List.mem_append, not_or, List.mem_cons, List.mem_cons, not_or, not_or] at hbrace
    obtain ⟨hname', -, -, hargument⟩ := hbrace
    refine ⟨ofSeen name.reverse (some m) argument.reverse, fun rest => ?_⟩
    rw [hbody, List.append_assoc, parts_open, partsFrom_name hname hname', List.append_nil]
    have hread := partsFrom_argument hargument name.reverse m [] rest
    rwa [List.append_nil] at hread

/-- Behind a body that breaks off, the brace is the modifier. -/
theorem parts_of_breaksOff {body name : String} (hbrace : '\x7d' ∉ body.toList)
    (h : BreaksOff body name) (rest : List Char) :
    parts ('$' :: '\x7b' :: (body.toList ++ '\x7d' :: rest)) =
      partsFrom (.argument name.toList.reverse '\x7d' []) rest := by
  obtain ⟨hname, rfl⟩ := h
  rw [String.toList_append, List.mem_append, not_or] at hbrace
  rw [String.toList_append, List.append_assoc, parts_open, partsFrom_name hname hbrace.1,
    List.append_nil]
  rfl

/-- Without a brace, an argument has no end. -/
theorem partsFrom_argument_of_not_mem {cs : List Char} (h : '\x7d' ∉ cs) (name : List Char)
    (modifier : Char) (seen : List Char) :
    partsFrom (.argument name modifier seen) cs = [.unclosed (String.ofList name.reverse)] := by
  induction cs generalizing seen with
  | nil => rfl
  | cons c cs ih =>
    obtain ⟨hc, hcs⟩ := not_or.mp fun hmem => h (List.mem_cons.mpr hmem)
    rw [partsFrom, advance, if_neg (Ne.symm hc)]
    exact ih hcs (c :: seen)

theorem partsFrom_lost {lost : String} (h : '\x7d' ∉ lost.toList) (name : String)
    (rest : List Char) :
    partsFrom (.argument name.toList.reverse '\x7d' []) (lost.toList ++ '\x7d' :: rest) =
      .reference ⟨name, some '\x7d', lost⟩ :: parts rest := by
  rw [partsFrom_argument h]
  simp [ofSeen]

/-- A brace says nothing of a variable that is not set. -/
theorem value_lost_eq_ok_iff {name lost s : String} :
    value env ⟨name, some '\x7d', lost⟩ = .ok s ↔ name ≠ "" ∧ env.nonempty? name = some s := by
  rw [value_eq_ok_iff]
  simp

/-! ## Expanding -/

theorem expand_eq_map_fillAll (env : Environment) (text : String) :
    expand env text = (fillAll env (parts text.toList)).map String.ofList := by
  rw [← expand_eq_fillAll, String.ofList_toList]

theorem expand_eq_ok_iff {text out : String} :
    expand env text = .ok out ↔ fillAll env (parts text.toList) = .ok out.toList := by
  rw [expand_eq_map_fillAll, map_eq_ok]
  constructor
  · rintro ⟨cs, hcs, rfl⟩
    rw [hcs, String.toList_ofList]
  · exact fun h => ⟨out.toList, h, String.ofList_toList⟩

/-- What stands in front of a reference is left as it is. -/
theorem fillAll_before {before : List Char} (h : '$' ∉ before) (cs : List Char) :
    fillAll env (parts (before ++ cs)) = (fillAll env (parts cs)).map (before ++ ·) := by
  rw [parts_append_of_not_mem h, fillAll_append, fillAll_map_char]
  rfl

theorem fillAll_reference (r : Reference) (ps : List Part) :
    fillAll env (.reference r :: ps) =
      r.value env >>= fun s => (fillAll env ps).map (s.toList ++ ·) := by
  rw [← List.singleton_append, fillAll_append, fillAll_singleton, Part.fill]
  cases r.value env <;> rfl

/-- The text is expanded in two parts, the reference by itself and what stands behind it. -/
def Splits (env : Environment) (before body rest : String) : Prop :=
  ∀ out, expand env (before ++ written body ++ rest) = .ok out →
    ∃ value more, expand env (written body) = .ok value ∧ expand env rest = .ok more ∧
      out = before ++ value ++ more

/-- How far a reference reaches into a text. -/
structure Ends (env : Environment) (before body rest : String) : Prop where
  /-- A reference whose body does not break off ends at its brace. -/
  expand_eq : (∀ name, ¬ BreaksOff body name) →
    expand env (before ++ written body ++ rest) = do
      let value ← expand env (written body)
      let more ← expand env rest
      return before ++ value ++ more
  /-- A reference whose body breaks off has no end of its own. -/
  unclosed : ∀ name, BreaksOff body name →
    expand env (written body) = .error (.reference name .unclosed)
  /-- It ends at the next brace, and what it reaches over is lost. -/
  swallows_iff : ∀ name, BreaksOff body name → ∀ out,
    expand env (before ++ written body ++ rest) = .ok out ↔
      ∃ value lost tail more, name ≠ "" ∧ env.nonempty? name = some value ∧
        rest = lost ++ "\x7d" ++ tail ∧ '\x7d' ∉ lost.toList ∧
        expand env tail = .ok more ∧ out = before ++ value ++ more
  /-- So the text is expanded in two parts unless it is one that a reference reaches into. -/
  splits_iff : Splits env before body rest ↔ ∀ name, BreaksOff body name → ∀ out,
    expand env (before ++ written body ++ rest) ≠ .ok out

variable {before body rest : String}

/-- By itself, a reference is expanded to what it stands for. -/
theorem expand_written {r : Reference}
    (h : parts ('$' :: '\x7b' :: (body.toList ++ ['\x7d'])) = [.reference r]) :
    expand env (written body) = r.value env := by
  have hwritten : (written body).toList = '$' :: '\x7b' :: (body.toList ++ ['\x7d']) := by
    simp [written]
  rw [expand_eq_map_fillAll, hwritten, h, fillAll_singleton, Part.fill]
  cases r.value env with
  | error e => rfl
  | ok s => exact congrArg Except.ok String.ofList_toList

theorem expand_of_not_breaksOff (hbefore : '$' ∉ before.toList) (hbody : '\x7d' ∉ body.toList)
    (h : ∀ name, ¬ BreaksOff body name) :
    expand env (before ++ written body ++ rest) = do
      let value ← expand env (written body)
      let more ← expand env rest
      return before ++ value ++ more := by
  obtain ⟨r, hparts⟩ := exists_parts_reference hbody h
  rw [expand_written (hparts []), expand_eq_map_fillAll, toList_written, fillAll_before hbefore,
    hparts, fillAll_reference, expand_eq_map_fillAll env rest]
  cases r.value env with
  | error e => rfl
  | ok s =>
    cases fillAll env (parts rest.toList) with
    | error e => rfl
    | ok cs =>
      refine congrArg Except.ok ?_
      rw [String.ofList_append, String.ofList_append, String.ofList_toList, String.ofList_toList,
        String.append_assoc]

theorem expand_of_not_mem {name : String} (hbefore : '$' ∉ before.toList)
    (hbody : '\x7d' ∉ body.toList) (h : BreaksOff body name) (hrest : '\x7d' ∉ rest.toList) :
    expand env (before ++ written body ++ rest) = .error (.reference name .unclosed) := by
  rw [expand_eq_map_fillAll, toList_written, fillAll_before hbefore, parts_of_breaksOff hbody h,
    partsFrom_argument_of_not_mem hrest, List.reverse_reverse, String.ofList_toList,
    fillAll_singleton]
  rfl

theorem expand_eq_ok_of_breaksOff {name lost tail out : String} (hbefore : '$' ∉ before.toList)
    (hbody : '\x7d' ∉ body.toList) (h : BreaksOff body name) (hlost : '\x7d' ∉ lost.toList) :
    expand env (before ++ written body ++ (lost ++ "\x7d" ++ tail)) = .ok out ↔
      ∃ value more, name ≠ "" ∧ env.nonempty? name = some value ∧
        expand env tail = .ok more ∧ out = before ++ value ++ more := by
  have hrest : (lost ++ "\x7d" ++ tail).toList = lost.toList ++ '\x7d' :: tail.toList := by
    simp
  rw [expand_eq_ok_iff, toList_written, fillAll_before hbefore, parts_of_breaksOff hbody h, hrest,
    partsFrom_lost hlost, fillAll_reference, map_eq_ok]
  constructor
  · rintro ⟨cs, hcs, hout⟩
    obtain ⟨value, hvalue, hcs⟩ := bind_eq_ok.mp hcs
    obtain ⟨more, hmore, rfl⟩ := map_eq_ok.mp hcs
    obtain ⟨hname, hset⟩ := value_lost_eq_ok_iff.mp hvalue
    refine ⟨value, String.ofList more, hname, hset, ?_, ?_⟩
    · rw [expand_eq_ok_iff, String.toList_ofList, hmore]
    · rw [← String.toList_inj, ← hout]
      simp
  · rintro ⟨value, more, hname, hset, hmore, rfl⟩
    have hvalue : Reference.value env ⟨name, some '\x7d', lost⟩ = .ok value :=
      value_lost_eq_ok_iff.mpr ⟨hname, hset⟩
    refine ⟨value.toList ++ more.toList, ?_, by simp⟩
    exact bind_eq_ok.mpr ⟨value, hvalue, map_eq_ok.mpr ⟨_, expand_eq_ok_iff.mp hmore, rfl⟩⟩

theorem swallows_iff {name out : String} (hbefore : '$' ∉ before.toList)
    (hbody : '\x7d' ∉ body.toList) (h : BreaksOff body name) :
    expand env (before ++ written body ++ rest) = .ok out ↔
      ∃ value lost tail more, name ≠ "" ∧ env.nonempty? name = some value ∧
        rest = lost ++ "\x7d" ++ tail ∧ '\x7d' ∉ lost.toList ∧
        expand env tail = .ok more ∧ out = before ++ value ++ more := by
  constructor
  · intro hout
    by_cases hrest : '\x7d' ∈ rest.toList
    · obtain ⟨lost, tail, hsplit, hlost⟩ := List.eq_append_cons_of_mem hrest
      rw [← String.toList_ofList (l := lost)] at hlost
      have hsplit : rest = String.ofList lost ++ "\x7d" ++ String.ofList tail := by
        rw [← String.toList_inj, hsplit]
        simp
      rw [hsplit] at hout
      obtain ⟨value, more, hname, hset, hmore, rfl⟩ :=
        (expand_eq_ok_of_breaksOff hbefore hbody h hlost).mp hout
      exact ⟨value, _, _, more, hname, hset, hsplit, hlost, hmore, rfl⟩
    · rw [expand_of_not_mem hbefore hbody h hrest] at hout
      exact absurd hout (by simp)
  · rintro ⟨value, lost, tail, more, hname, hset, rfl, hlost, hmore, rfl⟩
    exact (expand_eq_ok_of_breaksOff hbefore hbody h hlost).mpr
      ⟨value, more, hname, hset, hmore, rfl⟩

theorem expand_written_of_breaksOff {name : String} (hbody : '\x7d' ∉ body.toList)
    (h : BreaksOff body name) :
    expand env (written body) = .error (.reference name .unclosed) := by
  have halone : expand env ("" ++ written body ++ "") = .error (.reference name .unclosed) :=
    expand_of_not_mem (by simp) hbody h (by simp)
  rwa [String.empty_append, String.append_empty] at halone

/-- In front of a text, a reference ends at its first brace, unless its body breaks off. -/
theorem ends_of_not_mem (env : Environment) (hbefore : '$' ∉ before.toList)
    (hbody : '\x7d' ∉ body.toList) (rest : String) : Ends env before body rest where
  expand_eq h := expand_of_not_breaksOff hbefore hbody h
  unclosed name h := expand_written_of_breaksOff hbody h
  swallows_iff name h out := swallows_iff hbefore hbody h
  splits_iff := by
    constructor
    · intro hsplits name h out hout
      obtain ⟨value, more, hvalue, -⟩ := hsplits out hout
      rw [expand_written_of_breaksOff hbody h] at hvalue
      exact absurd hvalue (by simp)
    · intro hnone out hout
      have hwhole : ∀ name, ¬ BreaksOff body name := fun name h => hnone name h out hout
      rw [expand_of_not_breaksOff hbefore hbody hwhole] at hout
      obtain ⟨value, hvalue, hout⟩ := bind_eq_ok.mp hout
      obtain ⟨more, hmore, hout⟩ := bind_eq_ok.mp hout
      exact ⟨value, more, hvalue, hmore, (Except.ok.inj hout).symm⟩

/-- A default with a dollar sign and a colon at its end, in front of dollar signs and a brace. -/
theorem ends_of_not_mem_default :
    let env := Environment.ofEntries [("N", "")]
    '$' ∉ "a: ".toList ∧ '\x7d' ∉ "N:-x$y:".toList ∧ (∀ name, ¬ BreaksOff "N:-x$y:" name) ∧
      Ends env "a: " "N:-x$y:" "\n$$b\x7d" ∧ Splits env "a: " "N:-x$y:" "\n$$b\x7d" ∧
      expand env ("a: " ++ written "N:-x$y:" ++ "\n$$b\x7d") = .ok "a: x$y:\n$b\x7d" := by
  intro env
  have hbefore : '$' ∉ "a: ".toList := by decide
  have hbody : '\x7d' ∉ "N:-x$y:".toList := by decide
  have hwhole : ∀ name, ¬ BreaksOff "N:-x$y:" name := by
    rintro name ⟨hcolon, hname⟩
    have hlist := congrArg (List.dropLast ∘ String.toList) hname
    rw [Function.comp_apply, Function.comp_apply, String.toList_append,
      show ":".toList = [':'] from rfl, List.dropLast_concat] at hlist
    rw [← hlist] at hcolon
    exact absurd hcolon (by decide)
  have hends := ends_of_not_mem env hbefore hbody "\n$$b\x7d"
  exact ⟨hbefore, hbody, hwhole, hends, hends.splits_iff.mpr fun name h => absurd h (hwhole name),
    by rfl⟩

/-- Where the variable is set, a reference whose body breaks off takes away what stands behind it
up to the next brace, though neither it nor the text in between is a reference. -/
theorem exists_swallowed :
    let env := Environment.ofEntries [("A", "v")]
    '$' ∉ "".toList ∧ "A:" ≠ "" ∧ '\x7d' ∉ "A:".toList ∧
      expand env ("" ++ written "A:" ++ "x\x7d") = .ok "v" ∧
      expand env (written "A:") = .error (.reference "A" .unclosed) ∧
      expand env "x\x7d" = .ok "x\x7d" ∧ ¬ Splits env "" "A:" "x\x7d" := by
  intro env
  have hvalue : expand env ("" ++ written "A:" ++ "x\x7d") = .ok "v" := by rfl
  have halone : expand env (written "A:") = .error (.reference "A" .unclosed) := by rfl
  refine ⟨by decide, by decide, by decide, hvalue, halone, by rfl, fun hsplits => ?_⟩
  obtain ⟨value, more, hexpand, -⟩ := hsplits _ hvalue
  rw [halone] at hexpand
  exact absurd hexpand (by simp)

end Reference
end DocFilter
