import PatternWorkbench.Proofs.Pattern.Groups
import PatternWorkbench.Proofs.Pattern.Parts

/-!
# Patterns for beginnings

A body in a group behind the start of the text.  The body may end with a word
boundary, whose spelling is only complete where the group is closed.
-/

namespace PatternWorkbench.Pattern

open Reading (State)

variable {modes : Modes} {height : Nat} {body : Text} {exprs : List Expr}

/-- The spelling is read as a row of parts, if a group is closed behind it. -/
def SpellsInside (modes : Modes) (height : Nat) (spelling : Text)
    (exprs : List Expr) : Prop :=
  ∀ (state : State) (pos : Nat) (rest : Text), state.verbose = false →
    ∃ trees, state.read pos (spelling ++ ')' :: rest) =
        (state.pushAll trees).read (pos + spelling.length) (')' :: rest) ∧
      (∀ tree ∈ trees, tree.Shallow height) ∧
      Meaning.trees modes trees = .ok (exprs, modes)

theorem Spells.inside (hspells : Spells modes height body exprs) :
    SpellsInside modes height body exprs := by
  intro state pos rest hverbose
  exact hspells state pos (')' :: rest) hverbose (by simp)

theorem Spells.inside_boundary (hunicode : modes.unicode = true)
    (hspells : Spells modes height body exprs) :
    SpellsInside modes height (body ++ ['\\', 'b'])
      (exprs ++ [.look (.word .boundary false)]) := by
  intro state pos rest hverbose
  obtain ⟨trees, hread, hshallow, hmeaning⟩ :=
    hspells state pos ('\\' :: 'b' :: ')' :: rest) hverbose (by simp)
  let boundary : Tree :=
    .assertion ⟨pos + body.length, pos + body.length + 2⟩ .wordBoundary
  have hboundary : Meaning.tree modes boundary =
      .ok (.look (.word .boundary false), modes) := by
    rw [Meaning.tree, Meaning.look, hunicode]
    rfl
  have hpushed : (state.pushAll trees).verbose = false := hverbose
  refine ⟨trees ++ [boundary], ?_, ?_, Meaning.trees_append hmeaning
    (Meaning.trees_cons hboundary (by rw [Meaning.trees]))⟩
  · have hspelling : body ++ ['\\', 'b'] ++ ')' :: rest =
        body ++ '\\' :: 'b' :: ')' :: rest := by simp
    have hatom : Reading.atom false (pos + body.length) '\\' (['b'] ++ ')' :: rest) =
        .ok (boundary, pos + body.length + ['\\', 'b'].length) := rfl
    rw [hspelling, hread, State.pushAll_append, List.length_append, ← Nat.add_assoc]
    exact State.read_atom hpushed rfl hatom
  · intro tree htree
    rcases List.mem_append.1 htree with htree | htree
    · exact hshallow tree htree
    · rw [List.mem_singleton.1 htree]
      intro depth _
      rw [Nesting.firstTooDeep]

/-- A group that captures nothing is one part. -/
theorem isPart_group (hbody : SpellsInside modes height body exprs) :
    IsPart modes (height + 2) (['(', '?', ':'] ++ body ++ [')']) (.joined exprs) := by
  intro state pos rest hverbose
  let opened : State := state.openGroup pos (pos + 3) (.plain noFlags) false
  obtain ⟨trees, hread, hflat, hmeaning⟩ := hbody opened (pos + 3) rest rfl
  let inner : Tree := .ofItems ⟨pos + 3, pos + 3 + body.length⟩ trees
  have hinner : inner.Shallow (height + 1) := Tree.Shallow.ofItems hflat
  refine ⟨.group ⟨pos, pos + 3 + body.length + 1⟩ (.plain noFlags) inner, ?_, rfl,
    hinner.group, ?_⟩
  · have hspelling : ['(', '?', ':'] ++ body ++ [')'] ++ rest =
        '(' :: ['?', ':'] ++ (body ++ ')' :: rest) := by simp
    have hlength : pos + (['(', '?', ':'] ++ body ++ [')']).length =
        pos + 3 + body.length + 1 := by
      simp only [List.length_append, List.length_cons, List.length_nil]
      omega
    rw [hspelling, hlength, State.read_plain hverbose, hread,
      State.read_close rfl rfl]
    simp [opened, inner, State.openGroup, State.pushAll, State.push, hverbose,
      Reading.Sequence.empty, Reading.Sequence.tree, Reading.Sequence.branch]
  · rw [Meaning.tree, Modes.update_noFlags, Meaning.tree_ofItems hmeaning]
    rfl

/-- Outside multi-line mode a caret is the beginning of the text. -/
theorem isPart_caret (hmultiline : modes.multiLine = false) :
    IsPart modes 2 ['^'] (.look .textStart) := by
  refine isPart_of_atom rfl (fun pos => .assertion ⟨pos, pos + 1⟩ .lineStart)
    (fun _ _ => rfl) (fun _ => rfl) (fun pos depth _ => ?_) (fun pos => ?_)
  · rw [Nesting.firstTooDeep]
  · rw [Meaning.tree, Meaning.look, hmultiline]
    rfl

def Expr.beginning (body : Expr) : Expr :=
  .concat [.look .textStart, body]

/-- A pattern for beginnings means its body behind the start. -/
theorem read_beginning (hmultiline : modes.multiLine = false)
    (hheight : height + 3 ≤ Nesting.limit) (hbody : SpellsInside modes height body exprs) :
    Expr.read modes ("^(?:".toList ++ body ++ ")".toList) =
      .ok (.beginning (.joined exprs)) := by
  have hgroup := (isPart_group hbody).spells
  have hstart : Spells modes (height + 2) ['^'] [.look .textStart] :=
    (isPart_caret hmultiline).spells.mono (by omega)
  have hspells := (hstart.append hgroup (by simp)).spellsFrom ⟨0, []⟩
  have hspelling : "^(?:".toList ++ body ++ ")".toList =
      ['^'] ++ (['(', '?', ':'] ++ body ++ [')']) := by simp
  rw [hspelling]
  exact read_spelling hheight hspells

end PatternWorkbench.Pattern
