import DocFilter.Proofs.Sql.Token

/-!
# Brackets in SQL text

Parentheses enclose text, and so do the words `CASE` and `END`.  `nest` reads a list of
tokens as a list of items, each of them a token or a whole group between two brackets;
blanks only separate.  It keeps the groups that are still open on a stack, and a text
whose brackets do not match has no items.

## Depth without content

Whether the brackets of a text match can be told from the kinds of the open ones alone,
without the items between them.  `depth` does only that, and in addition refuses the
words `AND` and `OR` where nothing is open.  A text that `depth` takes from no open
bracket to none is therefore one whole, wherever it stands: nothing around it can close
a bracket inside it (`depth_frame`, `nestFrom_frame`), and none of its own words can
split it (`exists_nestFrom_of_depth`).
-/

namespace DocFilter
namespace Sql

/-- The kinds of brackets. -/
inductive Bracket where
  | paren
  | cases
  deriving DecidableEq, Repr

namespace Token

/-- The token is this word, in any case. -/
def isKeyword (keyword : String) : Token → Bool
  | .word w => w.map Char.toLower == keyword.toList
  | _ => false

/-- The token is a blank. -/
def isBlank : Token → Bool
  | .symbol c => c == ' '
  | _ => false

/-- The bracket that the token opens. -/
def opens? : Token → Option Bracket
  | .symbol c => if c = '(' then some .paren else none
  | t => if t.isKeyword "case" then some .cases else none

/-- The bracket that the token closes. -/
def closes? : Token → Option Bracket
  | .symbol c => if c = ')' then some .paren else none
  | t => if t.isKeyword "end" then some .cases else none

/-- The token joins two conditions. -/
def isConnective (t : Token) : Bool := t.isKeyword "and" || t.isKeyword "or"

end Token

/-- A token, or a group between two brackets. -/
inductive Nested where
  | token (t : Token)
  | group (b : Bracket) (items : List Nested)

/-- The groups that are open, innermost first, with the items read so far in each,
newest first. -/
inductive OpenGroups where
  | outermost (items : List Nested)
  | within (b : Bracket) (items : List Nested) (outer : OpenGroups)

namespace OpenGroups

/-- One more item in the innermost group. -/
def push (n : Nested) : OpenGroups → OpenGroups
  | .outermost items => .outermost (n :: items)
  | .within b items outer => .within b (n :: items) outer

/-- The innermost group closed by a bracket. -/
def close (b : Bracket) : OpenGroups → Option OpenGroups
  | .outermost _ => none
  | .within b' items outer =>
    if b = b' then some (outer.push (.group b items.reverse)) else none

/-- One token read. -/
def step (g : OpenGroups) (t : Token) : Option OpenGroups :=
  match t.opens?, t.closes? with
  | some b, _ => some (.within b [] g)
  | none, some b => g.close b
  | none, none => some (if t.isBlank then g else g.push (.token t))

/-- The items, if no group is open. -/
def finish : OpenGroups → Option (List Nested)
  | .outermost items => some items.reverse
  | .within _ _ _ => none

end OpenGroups

/-- Tokens read one after the other. -/
def nestFrom (g : OpenGroups) (ts : List Token) : Option OpenGroups := ts.foldlM OpenGroups.step g

/-- The items of a list of tokens. -/
def nest (ts : List Token) : Option (List Nested) :=
  (nestFrom (.outermost []) ts).bind OpenGroups.finish

theorem nestFrom_append (g : OpenGroups) (ts us : List Token) :
    nestFrom g (ts ++ us) = (nestFrom g ts).bind fun h => nestFrom h us := by
  rw [nestFrom, List.foldlM_append]
  rfl

/-! ## A whole text inside open groups -/

namespace OpenGroups

/-- Open groups with others around them; the outermost items come to stand in the
innermost of those. -/
def enclosing (around : OpenGroups) : OpenGroups → OpenGroups
  | .outermost items => items.foldr push around
  | .within b items outer => .within b items (enclosing around outer)

theorem enclosing_push (around g : OpenGroups) (n : Nested) :
    around.enclosing (g.push n) = (around.enclosing g).push n := by
  cases g <;> rfl

theorem close_enclosing {around g g' : OpenGroups} {b : Bracket} (h : g.close b = some g') :
    (around.enclosing g).close b = some (around.enclosing g') := by
  cases g with
  | outermost items => exact absurd h (by simp [close])
  | within b' items outer =>
    simp only [close] at h
    split_ifs at h with hb
    rw [← Option.some.inj h, enclosing_push, enclosing, close, if_pos hb]

theorem step_enclosing {around g g' : OpenGroups} {t : Token} (h : g.step t = some g') :
    (around.enclosing g).step t = some (around.enclosing g') := by
  unfold step at h ⊢
  cases ho : t.opens? with
  | some b =>
    simp only [ho] at h ⊢
    rw [← Option.some.inj h]
    rfl
  | none =>
    cases hc : t.closes? with
    | some b =>
      simp only [ho, hc] at h ⊢
      exact close_enclosing h
    | none =>
      simp only [ho, hc] at h ⊢
      rw [← Option.some.inj h]
      split_ifs
      · rfl
      · rw [enclosing_push]

end OpenGroups

theorem nestFrom_enclosing (around : OpenGroups) {g g' : OpenGroups} {ts : List Token}
    (h : nestFrom g ts = some g') :
    nestFrom (around.enclosing g) ts = some (around.enclosing g') := by
  induction ts generalizing g with
  | nil =>
    rw [nestFrom, List.foldlM_nil] at h
    rw [← Option.some.inj h]
    rfl
  | cons t ts ih =>
    rw [nestFrom, List.foldlM_cons, Option.bind_eq_bind, Option.bind_eq_some_iff] at h
    obtain ⟨g₁, h₁, h₂⟩ := h
    rw [nestFrom, List.foldlM_cons, OpenGroups.step_enclosing h₁]
    exact ih h₂

/-- A text whose brackets match adds its items to the innermost open group. -/
theorem nestFrom_frame {ts : List Token} {ns : List Nested} (h : nest ts = some ns)
    (g : OpenGroups) : nestFrom g ts = some (ns.foldl (fun g n => g.push n) g) := by
  rw [nest, Option.bind_eq_some_iff] at h
  obtain ⟨g', h₁, h₂⟩ := h
  cases g' with
  | within b items outer => exact absurd h₂ (by simp [OpenGroups.finish])
  | outermost items =>
    have hns : ns = items.reverse := (Option.some.inj h₂).symm
    have h₃ := nestFrom_enclosing g h₁
    rw [OpenGroups.enclosing, OpenGroups.enclosing] at h₃
    rw [hns, List.foldl_reverse]
    exact h₃

/-! ## Depth -/

/-- The open brackets after one token, innermost first; nothing where the token closes
what is not open, or joins conditions where nothing is open. -/
def depthStep (open? : List Bracket) (t : Token) : Option (List Bracket) :=
  match t.opens?, t.closes?, open? with
  | some b, _, _ => some (b :: open?)
  | none, some b, b' :: outer => if b = b' then some outer else none
  | none, some _, [] => none
  | none, none, [] => if t.isConnective then none else some []
  | none, none, b :: outer => some (b :: outer)

/-- The open brackets after some tokens. -/
def depth (open? : List Bracket) (ts : List Token) : Option (List Bracket) :=
  ts.foldlM depthStep open?

theorem depth_append (bs : List Bracket) (ts us : List Token) :
    depth bs (ts ++ us) = (depth bs ts).bind fun cs => depth cs us := by
  rw [depth, List.foldlM_append]
  rfl

theorem depthStep_frame {bs cs : List Bracket} {t : Token} (h : depthStep bs t = some cs)
    (around : List Bracket) : depthStep (bs ++ around) t = some (cs ++ around) := by
  unfold depthStep at h ⊢
  cases ho : t.opens? with
  | some b =>
    simp only [ho] at h ⊢
    rw [← Option.some.inj h, List.cons_append]
  | none =>
    cases hc : t.closes? with
    | some b =>
      cases bs with
      | nil => simp only [ho, hc] at h; exact absurd h (by simp)
      | cons b' outer =>
        simp only [ho, hc, List.cons_append] at h ⊢
        split_ifs at h ⊢ with hb
        rw [← Option.some.inj h]
    | none =>
      cases bs with
      | nil =>
        simp only [ho, hc, List.nil_append] at h ⊢
        split_ifs at h with hw
        rw [← Option.some.inj h]
        cases around <;> simp [hw]
      | cons b outer =>
        simp only [ho, hc, List.cons_append] at h ⊢
        rw [← Option.some.inj h, List.cons_append]

/-- Brackets that are open around a text stay open. -/
theorem depth_frame {bs cs : List Bracket} {ts : List Token} (h : depth bs ts = some cs)
    (around : List Bracket) : depth (bs ++ around) ts = some (cs ++ around) := by
  induction ts generalizing bs with
  | nil =>
    rw [← Option.some.inj h]
    rfl
  | cons t ts ih =>
    rw [depth, List.foldlM_cons, Option.bind_eq_bind, Option.bind_eq_some_iff] at h
    obtain ⟨bs', h₁, h₂⟩ := h
    rw [depth, List.foldlM_cons, depthStep_frame h₁]
    exact ih h₂

namespace OpenGroups

/-- The kinds of the open groups. -/
def brackets : OpenGroups → List Bracket
  | .outermost _ => []
  | .within b _ outer => b :: outer.brackets

/-- No item outside all groups joins conditions. -/
def Joinless : OpenGroups → Prop
  | .outermost items => ∀ t, Nested.token t ∈ items → t.isConnective = false
  | .within _ _ outer => outer.Joinless

theorem brackets_push (g : OpenGroups) (n : Nested) : (g.push n).brackets = g.brackets := by
  cases g <;> rfl

theorem Joinless.push {g : OpenGroups} (h : g.Joinless) {n : Nested}
    (hn : ∀ t, n = .token t → g.brackets = [] → t.isConnective = false) :
    (g.push n).Joinless := by
  cases g with
  | outermost items =>
    intro t ht
    rcases List.mem_cons.mp ht with rfl | ht
    · exact hn t rfl rfl
    · exact h t ht
  | within b items outer => exact h

/-- Reading with content does what reading without content says. -/
theorem exists_step_of_depthStep {g : OpenGroups} {bs : List Bracket} {t : Token}
    (hg : g.Joinless) (h : depthStep g.brackets t = some bs) :
    ∃ g', g.step t = some g' ∧ g'.brackets = bs ∧ g'.Joinless := by
  unfold depthStep at h
  unfold step
  cases ho : t.opens? with
  | some b =>
    simp only [ho] at h ⊢
    exact ⟨_, rfl, Option.some.inj h, hg⟩
  | none =>
    cases hc : t.closes? with
    | some b =>
      cases g with
      | outermost items => simp only [ho, hc, brackets] at h; exact absurd h (by simp)
      | within b' items outer =>
        simp only [ho, hc, brackets] at h ⊢
        split_ifs at h with hb
        refine ⟨outer.push (.group b items.reverse), by simp [close, hb], ?_, ?_⟩
        · rw [brackets_push, Option.some.inj h]
        · have ho' : outer.Joinless := hg
          exact ho'.push fun t ht => nomatch ht
    | none =>
      have hkeep : ∀ hb : g.brackets = bs, g.brackets = [] → t.isConnective = false := by
        intro hb hnil
        rw [hnil] at h
        simp only [ho, hc] at h
        split_ifs at h with hw
        simpa using hw
      have hbs : g.brackets = bs := by
        cases hb : g.brackets with
        | nil =>
          rw [hb] at h
          simp only [ho, hc] at h
          split_ifs at h
          exact Option.some.inj h
        | cons b outer =>
          rw [hb] at h
          simp only [ho, hc] at h
          exact Option.some.inj h
      refine ⟨_, rfl, ?_, ?_⟩
      · split_ifs
        · exact hbs
        · rw [brackets_push, hbs]
      · split_ifs
        · exact hg
        · refine hg.push fun t' ht' hnil => ?_
          rw [← Nested.token.inj ht']
          exact hkeep hbs hnil

end OpenGroups

theorem exists_nestFrom_of_depth {g : OpenGroups} {bs : List Bracket} {ts : List Token}
    (hg : g.Joinless) (h : depth g.brackets ts = some bs) :
    ∃ g', nestFrom g ts = some g' ∧ g'.brackets = bs ∧ g'.Joinless := by
  induction ts generalizing g with
  | nil => exact ⟨g, rfl, Option.some.inj h, hg⟩
  | cons t ts ih =>
    rw [depth, List.foldlM_cons, Option.bind_eq_bind, Option.bind_eq_some_iff] at h
    obtain ⟨bs', h₁, h₂⟩ := h
    obtain ⟨g₁, hs, hb, hj⟩ := OpenGroups.exists_step_of_depthStep hg h₁
    rw [← hb] at h₂
    obtain ⟨g₂, hs₂, hb₂, hj₂⟩ := ih hj h₂
    refine ⟨g₂, ?_, hb₂, hj₂⟩
    rw [nestFrom, List.foldlM_cons, hs]
    exact hs₂

/-- A text that opens what it closes has items, and none of them joins conditions. -/
theorem exists_nest_of_depth {ts : List Token} (h : depth [] ts = some []) :
    ∃ ns, nest ts = some ns ∧ ∀ t, Nested.token t ∈ ns → t.isConnective = false := by
  have hstart : (OpenGroups.outermost []).Joinless := fun t ht => absurd ht (by simp)
  obtain ⟨g, hg, hb, hj⟩ := exists_nestFrom_of_depth hstart h
  cases g with
  | within b items outer => exact absurd hb (by simp [OpenGroups.brackets])
  | outermost items =>
    refine ⟨items.reverse, ?_, fun t ht => hj t (List.mem_reverse.mp ht)⟩
    rw [nest, hg]
    rfl

end Sql
end DocFilter
