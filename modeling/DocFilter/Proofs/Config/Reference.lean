import DocFilter.Config.Reference
import DocFilter.Sql.Fragment
import Mathlib.Data.List.Forall2

/-!
# What a text with references stands for

A text is put together from segments: characters, dollar signs alone or in twos, references
with and without a default or a message.  However it is put together, it is read back segment
by segment (`Reference.parts_chars_append`), because the only segment that looks at what
follows it is a dollar sign by itself, and what follows it may not be a dollar sign or a brace.

So the text stands for what its segments stand for, one after the other, and where one of
them stands for nothing, the first such segment says why (`Reference.expand_segments`).  What is
filled in is not looked at again.
-/

namespace DocFilter

/-- The value of a variable that is set to something. -/
def Environment.nonempty? (env : Environment) (name : String) : Option String :=
  (env name).filter (· ≠ "")

namespace Reference

/-! ## Segments -/

/-- What a text with references is put together from. -/
inductive Segment where
  /-- Characters that are no dollar signs. -/
  | chunk (s : String)
  /-- Two dollar signs. -/
  | doubled
  /-- A dollar sign that nothing belongs to. -/
  | lone
  /-- `${NAME}` -/
  | plain (name : String)
  /-- `${NAME:-default}` -/
  | withDefault (name fallback : String)
  /-- `${NAME:?message}` -/
  | required (name message : String)
  deriving DecidableEq, Repr

namespace Segment

/-- A reference as it is written, with what stands after its name. -/
def referenceChars (name : String) (tail : List Char) : List Char :=
  '$' :: '\x7b' :: (name.toList ++ (tail ++ ['\x7d']))

/-- A segment as it is written. -/
def chars : Segment → List Char
  | chunk s => s.toList
  | doubled => ['$', '$']
  | lone => ['$']
  | plain name => referenceChars name []
  | withDefault name fallback => referenceChars name (':' :: '-' :: fallback.toList)
  | required name message => referenceChars name (':' :: '?' :: message.toList)

/-- A name can stand in a reference when it ends neither at a colon nor at a brace. -/
def IsName (name : String) : Prop := name ≠ "" ∧ ':' ∉ name.toList ∧ '\x7d' ∉ name.toList

/-- The segment is written so that it ends where it should. -/
def IsProper : Segment → Prop
  | chunk s => '$' ∉ s.toList
  | doubled | lone => True
  | plain name => IsName name
  | withDefault name fallback => IsName name ∧ '\x7d' ∉ fallback.toList
  | required name message => IsName name ∧ '\x7d' ∉ message.toList

instance (name : String) : Decidable (IsName name) :=
  inferInstanceAs (Decidable (_ ∧ _ ∧ _))

instance : DecidablePred IsProper
  | chunk s => inferInstanceAs (Decidable ('$' ∉ s.toList))
  | doubled | lone => .isTrue trivial
  | plain name => inferInstanceAs (Decidable (IsName name))
  | withDefault name fallback =>
    inferInstanceAs (Decidable (IsName name ∧ '\x7d' ∉ fallback.toList))
  | required name message => inferInstanceAs (Decidable (IsName name ∧ '\x7d' ∉ message.toList))

/-- What is said where a variable has to be set and is not. -/
def complaint (name message : String) : String :=
  if message = "" then "required variable `" ++ name ++ "` is not set" else message

/-- What a segment stands for. -/
def meaning (env : Environment) : Segment → Except ConfigError String
  | chunk s => .ok s
  | doubled | lone => .ok "$"
  | plain name =>
    match env.nonempty? name with
    | some value => .ok value
    | none => .error (.unsetVariable name)
  | withDefault name fallback => .ok ((env.nonempty? name).getD fallback)
  | required name message =>
    match env.nonempty? name with
    | some value => .ok value
    | none => .error (.reference name (.required (complaint name message)))

/-- The parts a segment is read into. -/
def parts : Segment → List Part
  | chunk s => s.toList.map .char
  | doubled | lone => [.char '$']
  | plain name => [.reference ⟨name, none, ""⟩]
  | withDefault name fallback => [.reference ⟨name, some '-', fallback⟩]
  | required name message => [.reference ⟨name, some '?', message⟩]

end Segment

/-- The characters of a list of segments. -/
def textChars (segments : List Segment) : List Char := segments.flatMap Segment.chars

/-- The segments are proper, and a dollar sign by itself is followed by neither a dollar sign
nor an opening brace. -/
def WellWritten : List Segment → Prop
  | [] => True
  | s :: rest =>
    s.IsProper ∧ (s = .lone → ∀ c ∈ (textChars rest).head?, c ≠ '$' ∧ c ≠ '\x7b') ∧
      WellWritten rest

/-- Whether segments are well written can be found out one by one. -/
def decideWellWritten : (segments : List Segment) → Decidable (WellWritten segments)
  | [] => .isTrue trivial
  | s :: rest =>
    have := decideWellWritten rest
    -- Only the character that follows is looked at, not every character there is.
    have : Decidable (∀ c ∈ (textChars rest).head?, c ≠ '$' ∧ c ≠ '\x7b') :=
      Option.decidableForallMem _
    inferInstanceAs (Decidable (s.IsProper ∧ (s = .lone →
      ∀ c ∈ (textChars rest).head?, c ≠ '$' ∧ c ≠ '\x7b') ∧ WellWritten rest))

instance : DecidablePred WellWritten := decideWellWritten

/-! ## Reading segments -/

theorem parts_cons_of_ne {c : Char} (h : c ≠ '$') (rest : List Char) :
    parts (c :: rest) = .char c :: parts rest := by
  rw [parts, partsFrom, advance, if_neg h]
  rfl

theorem parts_append_of_not_mem {cs : List Char} (h : '$' ∉ cs) (rest : List Char) :
    parts (cs ++ rest) = cs.map .char ++ parts rest := by
  induction cs with
  | nil => rfl
  | cons c cs ih =>
    obtain ⟨hc, hcs⟩ := not_or.mp fun hmem => h (List.mem_cons.mpr hmem)
    rw [List.cons_append, parts_cons_of_ne (Ne.symm hc), ih hcs]
    rfl

theorem parts_doubled (rest : List Char) :
    parts ('$' :: '$' :: rest) = .char '$' :: parts rest := rfl

theorem parts_lone {rest : List Char} (h : ∀ c ∈ rest.head?, c ≠ '$' ∧ c ≠ '\x7b') :
    parts ('$' :: rest) = .char '$' :: parts rest := by
  cases rest with
  | nil => rfl
  | cons c rest =>
    obtain ⟨hdollar, hbrace⟩ := h c rfl
    have hadvance : advance .dollar c = ([.char '$', .char c], .between) := by
      rw [advance, if_neg hdollar, if_neg hbrace]
    have hread : parts ('$' :: c :: rest) =
        (advance .dollar c).1 ++ partsFrom (advance .dollar c).2 rest := rfl
    rw [hread, hadvance, parts_cons_of_ne hdollar]
    rfl

/-- The name of a reference is collected up to its colon or brace. -/
theorem partsFrom_name {name : List Char} (hcolon : ':' ∉ name) (hbrace : '\x7d' ∉ name)
    (seen rest : List Char) :
    partsFrom (.name seen) (name ++ rest) = partsFrom (.name (name.reverse ++ seen)) rest := by
  induction name generalizing seen with
  | nil => rfl
  | cons c name ih =>
    obtain ⟨hc, hname⟩ := not_or.mp fun hmem => hcolon (List.mem_cons.mpr hmem)
    obtain ⟨hc', hname'⟩ := not_or.mp fun hmem => hbrace (List.mem_cons.mpr hmem)
    rw [List.cons_append, partsFrom, advance, if_neg (Ne.symm hc'), if_neg (Ne.symm hc)]
    dsimp only
    rw [List.nil_append, ih hname hname', List.reverse_cons, List.append_assoc]
    rfl

/-- What stands behind the modifier is collected up to the brace, colons included. -/
theorem partsFrom_argument {argument : List Char} (h : '\x7d' ∉ argument)
    (name : List Char) (modifier : Char) (seen rest : List Char) :
    partsFrom (.argument name modifier seen) (argument ++ '\x7d' :: rest) =
      .reference (ofSeen name (some modifier) (argument.reverse ++ seen)) :: parts rest := by
  induction argument generalizing seen with
  | nil => rfl
  | cons c argument ih =>
    obtain ⟨hc, hargument⟩ := not_or.mp fun hmem => h (List.mem_cons.mpr hmem)
    rw [List.cons_append, partsFrom, advance, if_neg (Ne.symm hc)]
    dsimp only
    rw [List.nil_append, ih hargument, List.reverse_cons, List.append_assoc]
    rfl

theorem ofSeen_reverse (name : String) (modifier : Option Char) (argument : String) :
    ofSeen (name.toList.reverse ++ []) modifier (argument.toList.reverse ++ []) =
      ⟨name, modifier, argument⟩ := by
  simp [ofSeen]

theorem parts_plain {name : String} (h : Segment.IsName name) (rest : List Char) :
    parts (Segment.referenceChars name [] ++ rest) =
      .reference ⟨name, none, ""⟩ :: parts rest := by
  obtain ⟨-, hcolon, hbrace⟩ := h
  have hopen : parts (Segment.referenceChars name [] ++ rest) =
      partsFrom (.name []) (name.toList ++ '\x7d' :: rest) := by
    simp [Segment.referenceChars, parts, partsFrom, advance]
  rw [hopen, partsFrom_name hcolon hbrace]
  change .reference (ofSeen (name.toList.reverse ++ []) none ("".toList.reverse ++ [])) ::
    parts rest = _
  rw [ofSeen_reverse]

theorem parts_modified {name argument : String} (h : Segment.IsName name)
    (hargument : '\x7d' ∉ argument.toList) (modifier : Char) (rest : List Char) :
    parts (Segment.referenceChars name (':' :: modifier :: argument.toList) ++ rest) =
      .reference ⟨name, some modifier, argument⟩ :: parts rest := by
  obtain ⟨-, hcolon, hbrace⟩ := h
  have hopen :
      parts (Segment.referenceChars name (':' :: modifier :: argument.toList) ++ rest) =
        partsFrom (.name [])
          (name.toList ++ ':' :: modifier :: (argument.toList ++ '\x7d' :: rest)) := by
    simp [Segment.referenceChars, parts, partsFrom, advance]
  rw [hopen, partsFrom_name hcolon hbrace]
  change partsFrom (.argument (name.toList.reverse ++ []) modifier [])
    (argument.toList ++ '\x7d' :: rest) = _
  rw [partsFrom_argument hargument, ofSeen_reverse]

/-- A segment is read by itself, whatever follows it. -/
theorem parts_chars_append {s : Segment} (h : s.IsProper) {rest : List Char}
    (hlone : s = .lone → ∀ c ∈ rest.head?, c ≠ '$' ∧ c ≠ '\x7b') :
    parts (s.chars ++ rest) = s.parts ++ parts rest := by
  cases s with
  | chunk s => exact parts_append_of_not_mem h rest
  | doubled => exact parts_doubled rest
  | lone => exact parts_lone (hlone rfl)
  | plain name => exact parts_plain h rest
  | withDefault name fallback => exact parts_modified h.1 h.2 '-' rest
  | required name message => exact parts_modified h.1 h.2 '?' rest

/-! ## Filling in -/

variable {env : Environment}

/-- Parts filled in, one after the other. -/
def fillAll (env : Environment) (ps : List Part) : Except ConfigError (List Char) :=
  (ps.mapM (Part.fill env)).map List.flatten

theorem expand_eq_fillAll (env : Environment) (cs : List Char) :
    expand env (String.ofList cs) = (fillAll env (parts cs)).map String.ofList := by
  rw [expand, fillAll, String.toList_ofList]
  cases (parts cs).mapM (Part.fill env) <;> rfl

theorem fillAll_append (env : Environment) (ps qs : List Part) :
    fillAll env (ps ++ qs) =
      (fillAll env ps).bind fun xs => (fillAll env qs).map (xs ++ ·) := by
  rw [fillAll, fillAll, fillAll, List.mapM_append]
  cases ps.mapM (Part.fill env) with
  | error e => rfl
  | ok xs =>
    cases qs.mapM (Part.fill env) with
    | error e => rfl
    | ok ys => exact congrArg Except.ok List.flatten_append

theorem fillAll_singleton (env : Environment) (p : Part) :
    fillAll env [p] = p.fill env := by
  rw [fillAll, List.mapM_cons, List.mapM_nil]
  cases p.fill env with
  | error e => rfl
  | ok xs => exact congrArg Except.ok List.flatten_singleton

/-- Characters that stand for themselves are filled in as they are. -/
theorem fillAll_map_char (env : Environment) (cs : List Char) :
    fillAll env (cs.map .char) = .ok cs := by
  induction cs with
  | nil => rfl
  | cons c cs ih =>
    rw [List.map_cons, ← List.singleton_append, fillAll_append, fillAll_singleton, ih]
    rfl

/-- A reference by name stands for a value that is not empty, and else for what its modifier
says. -/
theorem value_of_ne_empty {r : Reference} (h : r.name ≠ "") :
    r.value env = match env.nonempty? r.name with
      | some value => .ok value
      | none => r.fallback := by
  have hname : ¬ r.name.isEmpty = true := fun he => h (String.isEmpty_iff.mp he)
  rw [value, if_neg hname, Environment.nonempty?]
  cases env r.name with
  | none => rfl
  | some value =>
    by_cases hv : value = ""
    · subst hv
      rfl
    · have hne : ¬ value.isEmpty = true := fun he => hv (String.isEmpty_iff.mp he)
      simp only [Option.filter, hv, hne, decide_not, decide_false, Bool.not_false, if_true,
        if_false, Bool.false_eq_true]

/-- What is said of a variable that has to be set is the complaint. -/
theorem fallback_required (name message : String) :
    fallback ⟨name, some '?', message⟩ =
      .error (.reference name (.required (Segment.complaint name message))) := by
  rw [fallback, Segment.complaint]
  simp only [String.isEmpty_iff]

/-- A segment is filled in with what it stands for. -/
theorem fillAll_parts {s : Segment} (h : s.IsProper) :
    fillAll env s.parts = (s.meaning env).map String.toList := by
  cases s with
  | chunk s => exact fillAll_map_char env s.toList
  | doubled | lone => exact fillAll_singleton env (.char '$')
  | plain name =>
    rw [Segment.parts, fillAll_singleton, Part.fill, value_of_ne_empty h.1, Segment.meaning]
    cases env.nonempty? name <;> rfl
  | withDefault name fallback =>
    rw [Segment.parts, fillAll_singleton, Part.fill, value_of_ne_empty h.1.1, Segment.meaning]
    cases env.nonempty? name <;> rfl
  | required name message =>
    rw [Segment.parts, fillAll_singleton, Part.fill, value_of_ne_empty h.1.1, Segment.meaning,
      fallback_required]

/-- The first segment is filled in, then the others, and what it stands for is put in front
as it is. -/
theorem expand_cons {s : Segment} (hs : s.IsProper) {rest : List Segment}
    (hlone : s = .lone → ∀ c ∈ (textChars rest).head?, c ≠ '$' ∧ c ≠ '\x7b') :
    expand env (String.ofList (textChars (s :: rest))) =
      (s.meaning env).bind fun m =>
        (expand env (String.ofList (textChars rest))).map (m ++ ·) := by
  have hsplit : textChars (s :: rest) = s.chars ++ textChars rest := List.flatMap_cons
  rw [expand_eq_fillAll, expand_eq_fillAll, hsplit, parts_chars_append hs hlone, fillAll_append,
    fillAll_parts hs]
  cases s.meaning env with
  | error e => rfl
  | ok m =>
    cases fillAll env (parts (textChars rest)) with
    | error e => rfl
    | ok cs =>
      simp only [Except.map, Except.bind, String.ofList_append, String.ofList_toList]

/-- What segments stand for: for what each of them does, one after the other, or for the
failure of the first that stands for nothing. -/
inductive StandFor (env : Environment) : List Segment → Except ConfigError String → Prop where
  | filled {segments : List Segment} {meanings : List String}
      (h : List.Forall₂ (fun s m => s.meaning env = .ok m) segments meanings) :
      StandFor env segments (.ok (String.join meanings))
  | failed {before : List Segment} {s : Segment} {after : List Segment} {e : ConfigError}
      (hbefore : ∀ b ∈ before, ∃ m, b.meaning env = .ok m) (h : s.meaning env = .error e) :
      StandFor env (before ++ s :: after) (.error e)

theorem StandFor.cons {s : Segment} {m : String} (hs : s.meaning env = .ok m)
    {rest : List Segment} {outcome : Except ConfigError String}
    (h : StandFor env rest outcome) : StandFor env (s :: rest) (outcome.map (m ++ ·)) := by
  cases h with
  | @filled _ meanings h =>
    have hjoin : Except.map (m ++ ·) (.ok (String.join meanings) : Except ConfigError String) =
        .ok (String.join (m :: meanings)) := congrArg Except.ok String.join_cons.symm
    rw [hjoin]
    exact .filled (.cons hs h)
  | failed hbefore h =>
    exact .failed (List.forall_mem_cons.mpr ⟨⟨m, hs⟩, hbefore⟩) h

theorem standFor_expand {segments : List Segment} (h : WellWritten segments) :
    StandFor env segments (expand env (String.ofList (textChars segments))) := by
  induction segments with
  | nil => exact .filled .nil
  | cons s rest ih =>
    obtain ⟨hs, hlone, hrest⟩ := h
    rw [expand_cons hs hlone]
    cases hm : s.meaning env with
    | error e =>
      have hbefore : ∀ b ∈ ([] : List Segment), ∃ m, b.meaning env = .ok m :=
        fun _ hb => absurd hb List.not_mem_nil
      exact .failed hbefore hm
    | ok m => exact (ih hrest).cons hm

theorem parts_doubled_chars (cs : List Char) :
    parts (Sql.doubled '$' cs) = cs.map .char := by
  induction cs with
  | nil => rfl
  | cons c cs ih =>
    by_cases hc : c = '$'
    · subst hc
      exact (parts_doubled (Sql.doubled '$' cs)).trans (congrArg _ ih)
    · have hsingle : Sql.doubled '$' (c :: cs) = c :: Sql.doubled '$' cs := by
        rw [Sql.doubled, List.flatMap_cons, if_neg hc]
        rfl
      rw [hsingle, parts_cons_of_ne hc, ih]
      rfl

/-- A text put together from segments stands for what they stand for, in every environment;
and a text with its dollar signs doubled stands for the text. -/
theorem expand_segments (env : Environment) :
    (∀ segments, WellWritten segments →
      StandFor env segments (expand env (String.ofList (textChars segments)))) ∧
    ∀ s : String, expand env (String.ofList (Sql.doubled '$' s.toList)) = .ok s := by
  refine ⟨fun segments => standFor_expand, fun s => ?_⟩
  rw [expand_eq_fillAll, parts_doubled_chars, fillAll_map_char]
  exact congrArg Except.ok String.ofList_toList

/-- Dollar signs in a run, a default with a reference in it, a dollar sign by itself and a value
with a reference in it, in front of a variable that has to be set. -/
theorem expand_segments_home :
    let env := Environment.ofEntries [("HOME", "/h$$$\x7bX\x7d"), ("E", "")]
    let segments : List Segment := [.chunk "a\x7b:", .doubled, .doubled,
      .withDefault "E" "$$:$\x7bX", .lone, .chunk " c", .plain "HOME", .lone]
    let failing : List Segment := [.plain "HOME", .required "E" "", .plain "X"]
    WellWritten segments ∧ WellWritten failing ∧
    String.ofList (textChars segments) =
      "a\x7b:$$$$$\x7bE:-$$:$\x7bX\x7d$ c$\x7bHOME\x7d$" ∧
    StandFor env segments (expand env (String.ofList (textChars segments))) ∧
    expand env (String.ofList (textChars segments)) =
      .ok "a\x7b:$$$$:$\x7bX$ c/h$$$\x7bX\x7d$" ∧
    StandFor env failing (expand env (String.ofList (textChars failing))) ∧
    expand env (String.ofList (textChars failing)) =
      .error (.reference "E" (.required "required variable `E` is not set")) := by
  intro env segments failing
  have hsegments : WellWritten segments := by decide
  have hfailing : WellWritten failing := by decide
  have hfilled : expand env (String.ofList (textChars segments)) =
      .ok "a\x7b:$$$$:$\x7bX$ c/h$$$\x7bX\x7d$" := by
    rw [expand_eq_fillAll]
    rfl
  have hfailed : expand env (String.ofList (textChars failing)) =
      .error (.reference "E" (.required "required variable `E` is not set")) := by
    rw [expand_eq_fillAll]
    rfl
  exact ⟨hsegments, hfailing, by decide, (expand_segments env).1 segments hsegments, hfilled,
    (expand_segments env).1 failing hfailing, hfailed⟩

end Reference
end DocFilter
