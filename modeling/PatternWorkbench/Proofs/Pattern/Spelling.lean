import PatternWorkbench.Pattern.Meaning
import PatternWorkbench.Proofs.Pattern.Bare
import PatternWorkbench.Proofs.Unicode.Ascii

/-!
# What a spelling is read as

A spelling is read from left to right and pushes its trees onto the sequence
under way.  The statements leave open what stands before a spelling and what
follows it, so spellings can be laid side by side: the only thing that could
change the reading of a neighbour is a question mark behind a repetition.
-/

namespace PatternWorkbench.Pattern

/-! ## Nesting and meaning -/

/-- A tree that adds at most `height` levels to the nesting around it. -/
def Tree.Shallow (height : Nat) (tree : Tree) : Prop :=
  ∀ depth, depth + height ≤ Nesting.limit →
    Nesting.firstTooDeep depth tree = none

theorem Tree.Shallow.mono {low high : Nat} {tree : Tree}
    (hshallow : tree.Shallow low) (hle : low ≤ high) : tree.Shallow high := by
  intro depth hdepth
  exact hshallow depth (by omega)

theorem Nesting.firstTooDeepAmong_eq_none {depth : Nat} {trees : List Tree}
    (htrees : ∀ tree ∈ trees, Nesting.firstTooDeep depth tree = none) :
    Nesting.firstTooDeepAmong depth trees = none := by
  induction trees with
  | nil => rw [Nesting.firstTooDeepAmong]
  | cons tree trees ih =>
      rw [Nesting.firstTooDeepAmong, htrees tree (by simp),
        ih fun other hother => htrees other (by simp [hother])]
      rfl

section Shallow

variable {height : Nat} {span : Span} {tree : Tree} {trees : List Tree}

theorem Tree.Shallow.repetition {counts : Counts} {greedy : Bool}
    (hshallow : tree.Shallow height) :
    (Tree.repetition span counts greedy tree).Shallow (height + 1) := by
  intro depth hdepth
  rw [Nesting.firstTooDeep, if_neg (by omega)]
  exact hshallow (depth + 1) (by omega)

theorem Tree.Shallow.group {kind : GroupKind} (hshallow : tree.Shallow height) :
    (Tree.group span kind tree).Shallow (height + 1) := by
  intro depth hdepth
  rw [Nesting.firstTooDeep, if_neg (by omega)]
  exact hshallow (depth + 1) (by omega)

theorem Tree.Shallow.alternation
    (hshallow : ∀ tree ∈ trees, tree.Shallow height) :
    (Tree.alternation span trees).Shallow (height + 1) := by
  intro depth hdepth
  rw [Nesting.firstTooDeep, if_neg (by omega)]
  refine Nesting.firstTooDeepAmong_eq_none fun tree htree => ?_
  exact hshallow tree htree (depth + 1) (by omega)

theorem Tree.Shallow.ofItems (hshallow : ∀ tree ∈ trees, tree.Shallow height) :
    (Tree.ofItems span trees).Shallow (height + 1) := by
  intro depth hdepth
  unfold Tree.ofItems
  split
  case h_1 => rw [Nesting.firstTooDeep]
  case h_2 item => exact hshallow item (by simp) depth (by omega)
  case h_3 =>
    rw [Nesting.firstTooDeep, if_neg (by omega)]
    refine Nesting.firstTooDeepAmong_eq_none fun tree htree => ?_
    exact hshallow tree htree (depth + 1) (by omega)

end Shallow

/-- The expression of a sequence of parts; one part alone is that part. -/
def Expr.joined : List Expr → Expr
  | [] => .empty
  | [part] => part
  | parts => .concat parts

theorem Expr.course_joined (sample : Array Char) (parts : List Expr) :
    (joined parts).course sample = .inOrder (parts.map (course sample)) := by
  unfold joined
  split
  case h_1 => rfl
  case h_2 part => simp
  case h_3 => exact course_concat sample parts

theorem Expr.captures_joined (parts : List Expr) :
    (joined parts).captures = parts.flatMap captures := by
  unfold joined
  split
  case h_1 => rfl
  case h_2 part => simp
  case h_3 => exact captures_concat parts

theorem Expr.isBare_joined {parts : List Expr}
    (hparts : ∀ part ∈ parts, part.isBare = true) :
    (joined parts).isBare = true := by
  unfold joined
  split
  case h_1 => rfl
  case h_2 part => exact hparts part (by simp)
  case h_3 => exact isBare_concat hparts

namespace Meaning

variable {modes between after : Modes} {span : Span} {item : Tree}
  {left right : List Tree} {first : Expr} {lefts rights : List Expr}

theorem trees_cons (hitem : tree modes item = .ok (first, between))
    (hright : trees between right = .ok (rights, after)) :
    trees modes (item :: right) = .ok (first :: rights, after) := by
  rw [trees, hitem]
  simp only [bind, Except.bind, hright]
  rfl

theorem trees_cons_eq_ok (htrees : trees modes (item :: right) = .ok (lefts, after)) :
    ∃ first between rights, tree modes item = .ok (first, between) ∧
      trees between right = .ok (rights, after) ∧ lefts = first :: rights := by
  rw [trees] at htrees
  cases hitem : tree modes item with
  | error diagnostic => simp [hitem, bind, Except.bind] at htrees
  | ok found =>
      obtain ⟨first, between⟩ := found
      cases hright : trees between right with
      | error diagnostic => simp [hitem, hright, bind, Except.bind] at htrees
      | ok found =>
          obtain ⟨rights, last⟩ := found
          simp only [hitem, hright, bind, Except.bind, pure, Except.pure,
            Except.ok.injEq, Prod.mk.injEq] at htrees
          obtain ⟨rfl, rfl⟩ := htrees
          exact ⟨first, between, rights, rfl, hright, rfl⟩

/-- The meanings of trees side by side stand side by side. -/
theorem trees_append (hleft : trees modes left = .ok (lefts, between))
    (hright : trees between right = .ok (rights, after)) :
    trees modes (left ++ right) = .ok (lefts ++ rights, after) := by
  induction left generalizing modes lefts with
  | nil =>
      rw [trees] at hleft
      obtain ⟨rfl, rfl⟩ := Prod.mk.inj (Except.ok.inj hleft)
      exact hright
  | cons item left ih =>
      obtain ⟨first, middle, others, hitem, hothers, rfl⟩ := trees_cons_eq_ok hleft
      exact trees_cons hitem (ih hothers)

/-- A sequence means its parts, joined. -/
theorem tree_ofItems (htrees : trees modes left = .ok (lefts, after)) :
    tree modes (.ofItems span left) = .ok (.joined lefts, after) := by
  match left with
  | [] =>
      rw [trees] at htrees
      obtain ⟨rfl, rfl⟩ := Prod.mk.inj (Except.ok.inj htrees)
      rw [Tree.ofItems, tree, Expr.joined]
  | [item] =>
      obtain ⟨first, between, rights, hitem, hrest, rfl⟩ := trees_cons_eq_ok htrees
      rw [trees] at hrest
      obtain ⟨rfl, rfl⟩ := Prod.mk.inj (Except.ok.inj hrest)
      exact hitem
  | item :: next :: later =>
      obtain ⟨first, between, rights, _, hrest, rfl⟩ := trees_cons_eq_ok htrees
      obtain ⟨second, _, rest, _, _, rfl⟩ := trees_cons_eq_ok hrest
      have hconcat : Tree.ofItems span (item :: next :: later) =
          .concat span (item :: next :: later) := rfl
      rw [hconcat, tree, htrees]
      rfl

end Meaning

/-! ## Steps of the reading -/

namespace Reading

def beginsAtom (c : Char) : Bool :=
  !(['(', ')', '|', '{', '?', '*', '+'].contains c)

variable {state : State} {pos : Nat} {c : Char} {inside rest : Text}

def State.pushAll (state : State) (trees : List Tree) : State :=
  { state with sequence := { state.sequence with
      items := trees.reverse ++ state.sequence.items } }

theorem State.pushAll_append (state : State) (left right : List Tree) :
    state.pushAll (left ++ right) = (state.pushAll left).pushAll right := by
  simp [pushAll]

theorem State.read_nil (hverbose : state.verbose = false) (pos : Nat) :
    state.read pos [] = state.finish pos := by
  rw [read]
  split
  case h_1 _ hskip =>
    rw [hverbose, Cursor.skip_false] at hskip
    cases hskip
    rfl
  case h_2 _ _ _ hskip =>
    rw [hverbose, Cursor.skip_false] at hskip
    cases hskip

/-- A step that takes `c` and what is `inside` goes on with what follows. -/
theorem State.read_of_step {next : State} (hverbose : state.verbose = false)
    (hstep : state.step pos c (inside ++ rest) =
      .ok (next, pos + (c :: inside).length)) :
    state.read pos (c :: inside ++ rest) =
      next.read (pos + (c :: inside).length) rest := by
  rw [read]
  split
  case h_1 _ hskip =>
    rw [hverbose, Cursor.skip_false] at hskip
    cases hskip
  case h_2 _ _ _ hskip =>
    rw [hverbose, Cursor.skip_false] at hskip
    cases hskip
    have hdrop : pos + (c :: inside).length - (pos + 1) = inside.length := by
      rw [List.length_cons]
      omega
    simp only [List.append_eq, hstep]
    rw [hdrop, List.drop_left]

/-- A character that begins an atom is no operator. -/
theorem operator?_of_beginsAtom (hbegins : beginsAtom c = true) (pos : Nat)
    (rest : Text) : operator? false pos c rest = none := by
  simp only [beginsAtom, List.contains_eq_mem, List.mem_cons, List.not_mem_nil,
    or_false, Bool.not_eq_true', decide_eq_false_iff_not, not_or] at hbegins
  obtain ⟨_, _, _, hbrace, hquery, hstar, hplus⟩ := hbegins
  rw [operator?, if_neg hbrace, Option.map_eq_none_iff]
  unfold RepetitionReading.marked?
  split <;> first | rfl | contradiction

/-- An atom is pushed as it is. -/
theorem State.read_atom {tree : Tree} (hverbose : state.verbose = false)
    (hbegins : beginsAtom c = true)
    (hatom : atom false pos c (inside ++ rest) =
      .ok (tree, pos + (c :: inside).length)) :
    state.read pos (c :: inside ++ rest) =
      (state.push tree).read (pos + (c :: inside).length) rest := by
  have hoperator := operator?_of_beginsAtom hbegins pos (inside ++ rest)
  simp only [beginsAtom, List.contains_eq_mem, List.mem_cons, List.not_mem_nil,
    or_false, Bool.not_eq_true', decide_eq_false_iff_not, not_or] at hbegins
  obtain ⟨hopen, hclose, hbar, _⟩ := hbegins
  apply State.read_of_step hverbose
  rw [State.step, if_neg hopen, if_neg hclose, if_neg hbar, hverbose]
  simp only [hoperator, hatom]
  rfl

/-- An operator is applied to the part in front of it. -/
theorem State.read_operator {operator : RepetitionReading.Operator} {body : Tree}
    {sequence : Sequence} (hverbose : state.verbose = false)
    (hplain : c ≠ '(' ∧ c ≠ ')' ∧ c ≠ '|')
    (hoperator : operator? false pos c (inside ++ rest) = some (.ok operator))
    (hstop : operator.stop = pos + (c :: inside).length)
    (hbody : state.sequence.repeatable? = some (body, sequence)) :
    state.read pos (c :: inside ++ rest) =
      (state.repeat body sequence operator).1.read (pos + (c :: inside).length) rest := by
  obtain ⟨hopen, hclose, hbar⟩ := hplain
  apply State.read_of_step hverbose
  rw [State.step, if_neg hopen, if_neg hclose, if_neg hbar]
  simp only [hverbose, hoperator, hbody, ← hstop]
  rfl

/-- A mark without a question mark behind it repeats greedily. -/
theorem operator?_mark {counts : Counts}
    (hmark : RepetitionReading.marked? c = some counts) (pos : Nat)
    (hrest : rest.head? ≠ some '?') :
    operator? false pos c ([] ++ rest) = some (.ok ⟨counts, true, pos + 1⟩) := by
  have hbrace : c ≠ '{' := by
    rintro rfl
    contradiction
  rw [operator?, if_neg hbrace, hmark, List.nil_append, Option.map_some,
    RepetitionReading.ofMark, if_neg hrest]

end Reading

/-! ## Counts -/

namespace Cursor

/-- Characters are collected up to the first that does not belong to them. -/
theorem collect_append (p : Char → Bool) (pos : Nat) (taken : Text) {c : Char}
    (rest : Text) (htaken : ∀ d ∈ taken, p d = true) (hc : p c = false) :
    collect false p ⟨pos, taken ++ c :: rest⟩ =
      (taken, ⟨pos + taken.length, c :: rest⟩) := by
  induction taken generalizing pos with
  | nil =>
      rw [List.nil_append, collect, hc]
      rfl
  | cons d taken ih =>
      rw [List.cons_append, collect, if_pos (htaken d (by simp)), skip_false,
        ih (pos + 1) fun e he => htaken e (by simp [he])]
      have hpos : pos + 1 + taken.length = pos + (d :: taken).length := by
        rw [List.length_cons]
        omega
      rw [hpos]

theorem skipSpaces_cons (pos : Nat) {c : Char} (rest : Text)
    (hc : Unicode.isBlank c = false) :
    skipSpaces false ⟨pos, c :: rest⟩ = ⟨pos, c :: rest⟩ := by
  simp [skipSpaces, hc]

end Cursor

namespace RepetitionReading

/-- A number is read back from its digits. -/
theorem decimalValue_decimal (n : Nat) : decimalValue (decimal n) = n := by
  rw [decimalValue, decimal, ← Nat.ofDigitChars_eq_foldl,
    Nat.ofDigitChars_ten_toDigits]

/-- A count in decimal is read back, up to the character behind it. -/
theorem count_decimal (pos n : Nat) {c : Char} (rest : Text)
    (hn : n < countLimit) (hdigit : c.isDigit = false)
    (hblank : Unicode.isBlank c = false) :
    count false ⟨pos, decimal n ++ c :: rest⟩ =
      (.ok n, ⟨pos + (decimal n).length, c :: rest⟩) := by
  have hdigits : ∀ d ∈ decimal n, d.isDigit = true := fun d hd =>
    Nat.isDigit_of_mem_toDigits (by omega) (by omega) hd
  have hspaces : (decimal n ++ c :: rest).takeWhile Unicode.isBlank = [] := by
    rcases hdecimal : decimal n with _ | ⟨d, digits⟩
    · exact absurd hdecimal Nat.toDigits_ne_nil
    · have := Unicode.isBlank_of_isDigit (hdigits d (by simp [hdecimal]))
      rw [List.cons_append, List.takeWhile_cons, this]
      rfl
  have hempty : (decimal n).isEmpty = false := by
    rw [List.isEmpty_eq_false_iff]
    exact Nat.toDigits_ne_nil
  simp only [count, hspaces, List.length_nil, Nat.add_zero, List.drop_zero,
    Cursor.collect_append _ _ _ _ hdigits hdigit, hempty, Bool.false_eq_true,
    if_false, decimalValue_decimal, if_pos hn, Cursor.skipSpaces_cons _ _ hblank]

/-- Bounds without a question mark behind them are greedy. -/
theorem finish_greedy (start pos : Nat) (counts : Counts) (rest : Text)
    (hbounds : ∀ bound ∈ counts.max, counts.min ≤ bound)
    (hrest : rest.head? ≠ some '?') :
    counted.finish start counts ⟨pos, rest⟩ = .ok ⟨counts, true, pos⟩ := by
  have hgreedy : (rest.head? != some '?') = true := bne_iff_ne.2 hrest
  have hordered : counts.max.any (· < counts.min) = false := by
    rw [Option.any_eq_false]
    intro bound hbound
    simpa using hbounds bound hbound
  simp [counted.finish, hgreedy, hordered]

theorem isBlank_comma : Unicode.isBlank ',' = false := by
  rw [Unicode.isBlank_eq_has]
  decide

theorem isBlank_brace : Unicode.isBlank '}' = false := by
  rw [Unicode.isBlank_eq_has]
  decide

theorem counted_exactly (start n : Nat) (rest : Text) (hn : n < countLimit)
    (hrest : rest.head? ≠ some '?') :
    counted false start (decimal n ++ '}' :: rest) =
      .ok ⟨⟨n, some n⟩, true, start + 1 + (decimal n).length + 1⟩ := by
  have hempty : (decimal n ++ '}' :: rest).isEmpty = false := by simp
  have hcount := count_decimal (start + 1) n rest hn (c := '}') rfl isBlank_brace
  unfold counted
  simp only [Cursor.skip_false, hempty, hcount, Bool.false_eq_true, if_false]
  exact finish_greedy start _ ⟨n, some n⟩ rest (by simp) hrest

/-- Two counts in braces are read as the bounds. -/
theorem counted_between (start low high : Nat) (rest : Text)
    (hhigh : high < countLimit) (hle : low ≤ high)
    (hrest : rest.head? ≠ some '?') :
    counted false start (decimal low ++ ',' :: (decimal high ++ '}' :: rest)) =
      .ok ⟨⟨low, some high⟩, true,
        start + 1 + (decimal low).length + 1 + (decimal high).length + 1⟩ := by
  have hempty : (decimal low ++ ',' :: (decimal high ++ '}' :: rest)).isEmpty =
      false := by simp
  have hlow := count_decimal (start + 1) low (decimal high ++ '}' :: rest)
    (by omega) (c := ',') rfl isBlank_comma
  have hcount := count_decimal (start + 1 + (decimal low).length + 1) high rest
    hhigh (c := '}') rfl isBlank_brace
  have hdigit : ∀ d ∈ decimal high, d.isDigit = true := fun d hd =>
    Nat.isDigit_of_mem_toDigits (by omega) (by omega) hd
  unfold counted
  simp only [Cursor.skip_false, hempty, hlow, Bool.false_eq_true, if_false]
  rcases hdecimal : decimal high with _ | ⟨d, digits⟩
  · exact absurd hdecimal Nat.toDigits_ne_nil
  · have hbrace : d ≠ '}' := by
      rintro rfl
      exact absurd (hdigit '}' (by simp [hdecimal])) (by decide)
    rw [hdecimal] at hcount
    simp only [List.cons_append] at hcount ⊢
    split
    case h_1 hnil => simp at hnil
    case h_2 _ hcons => exact absurd (List.cons.inj hcons).1 hbrace
    case h_3 =>
      rw [hcount]
      exact finish_greedy start _ ⟨low, some high⟩ rest (by simpa using hle) hrest

end RepetitionReading

/-- A count in braces repeats the part in front of it. -/
theorem Reading.State.read_counted {state : Reading.State} {body : Tree}
    {sequence : Reading.Sequence} (hverbose : state.verbose = false) (pos n : Nat)
    (rest : Text) (hn : n < RepetitionReading.countLimit) (hrest : rest.head? ≠ some '?')
    (hbody : state.sequence.repeatable? = some (body, sequence)) :
    state.read pos ('{' :: (decimal n ++ '}' :: rest)) =
      (state.repeat body sequence
        ⟨⟨n, some n⟩, true, pos + 1 + (decimal n).length + 1⟩).1.read
        (pos + 1 + (decimal n).length + 1) rest := by
  have hcounted := RepetitionReading.counted_exactly pos n rest hn hrest
  have hstop : pos + 1 + (decimal n).length + 1 = pos + ('{' :: (decimal n ++ ['}'])).length := by
    simp only [List.length_cons, List.length_append, List.length_nil]
    omega
  have hspelling : decimal n ++ '}' :: rest = decimal n ++ ['}'] ++ rest := by simp
  rw [hspelling] at hcounted ⊢
  rw [hstop] at hcounted ⊢
  exact State.read_operator hverbose (by decide) (congrArg some hcounted) rfl hbody

/-! ## Spellings -/

open Reading (State)

/-- The spelling is read as one part, whatever stands around it. -/
def IsPart (modes : Modes) (height : Nat) (spelling : Text) (expr : Expr) : Prop :=
  ∀ (state : State) (pos : Nat) (rest : Text), state.verbose = false →
    ∃ tree, state.read pos (spelling ++ rest) =
        (state.push tree).read (pos + spelling.length) rest ∧
      (state.push tree).sequence.repeatable? = some (tree, state.sequence) ∧
      tree.Shallow height ∧ Meaning.tree modes tree = .ok (expr, modes)

/-- The spelling is read as a row of parts, whatever stands before it and
whatever follows it but a question mark. -/
def Spells (modes : Modes) (height : Nat) (spelling : Text)
    (exprs : List Expr) : Prop :=
  ∀ (state : State) (pos : Nat) (rest : Text), state.verbose = false →
    rest.head? ≠ some '?' →
    ∃ trees, state.read pos (spelling ++ rest) =
        (state.pushAll trees).read (pos + spelling.length) rest ∧
      (∀ tree ∈ trees, tree.Shallow height) ∧
      Meaning.trees modes trees = .ok (exprs, modes)

section Spells

variable {modes : Modes} {height : Nat} {spelling left right : Text} {expr : Expr}
  {exprs lefts rights : List Expr}

theorem Spells.nil (modes : Modes) (height : Nat) : Spells modes height [] [] := by
  intro state pos rest _ _
  exact ⟨[], rfl, by simp, by rw [Meaning.trees]⟩

theorem Spells.mono {low high : Nat} (hspells : Spells modes low spelling exprs)
    (hle : low ≤ high) : Spells modes high spelling exprs := by
  intro state pos rest hverbose hrest
  obtain ⟨trees, hread, hshallow, hmeaning⟩ := hspells state pos rest hverbose hrest
  exact ⟨trees, hread, fun tree htree => (hshallow tree htree).mono hle, hmeaning⟩

theorem IsPart.spells (hpart : IsPart modes height spelling expr) :
    Spells modes height spelling [expr] := by
  intro state pos rest hverbose _
  obtain ⟨tree, hread, _, hshallow, hmeaning⟩ := hpart state pos rest hverbose
  refine ⟨[tree], hread, ?_, Meaning.trees_cons hmeaning (by rw [Meaning.trees])⟩
  intro other hother
  rw [List.mem_singleton.1 hother]
  exact hshallow

theorem head?_append_ne {left right : Text} {c : Char}
    (hleft : left.head? ≠ some c) (hright : right.head? ≠ some c) :
    (left ++ right).head? ≠ some c := by
  cases left with
  | nil => exact hright
  | cons d left => exact hleft

/-- Spellings that do not begin with a question mark can be laid side by
side. -/
theorem Spells.append (hleft : Spells modes height left lefts)
    (hright : Spells modes height right rights) (hmark : right.head? ≠ some '?') :
    Spells modes height (left ++ right) (lefts ++ rights) := by
  intro state pos rest hverbose hrest
  obtain ⟨early, hearly, hflat, hmeaning⟩ :=
    hleft state pos (right ++ rest) hverbose (head?_append_ne hmark hrest)
  obtain ⟨late, hlate, hflat', hmeaning'⟩ :=
    hright (state.pushAll early) (pos + left.length) rest hverbose hrest
  refine ⟨early ++ late, ?_, ?_, Meaning.trees_append hmeaning hmeaning'⟩
  · rw [List.append_assoc, hearly, hlate, State.pushAll_append,
      List.length_append, Nat.add_assoc]
  · intro tree htree
    rcases List.mem_append.1 htree with htree | htree
    · exact hflat tree htree
    · exact hflat' tree htree

/-- An operator behind a part repeats that part. -/
theorem IsPart.spells_repetition {counts : Counts} {c : Char} {suffix : Text}
    (hswap : modes.swapGreed = false) (hpart : IsPart modes height spelling expr)
    (hoperator : ∀ (pos : Nat) (rest : Text), rest.head? ≠ some '?' →
      Reading.operator? false pos c (suffix ++ rest) =
        some (.ok ⟨counts, true, pos + (c :: suffix).length⟩))
    (hplain : c ≠ '(' ∧ c ≠ ')' ∧ c ≠ '|') :
    Spells modes (height + 1) (spelling ++ c :: suffix)
      [.repetition counts.min counts.max true expr] := by
  intro state pos rest hverbose hrest
  obtain ⟨tree, hread, hrepeatable, hshallow, hmeaning⟩ :=
    hpart state pos (c :: suffix ++ rest) hverbose
  let repeated : Tree := .repetition
    ⟨tree.span.start, pos + spelling.length + (c :: suffix).length⟩ counts true tree
  have hpushed : (state.push tree).verbose = false := hverbose
  have hrepeated : (state.push tree).read (pos + spelling.length) (c :: suffix ++ rest) =
      (state.push repeated).read (pos + spelling.length + (c :: suffix).length) rest :=
    State.read_operator hpushed hplain (hoperator _ _ hrest) rfl hrepeatable
  refine ⟨[repeated], ?_, ?_, ?_⟩
  · rw [List.append_assoc, hread, hrepeated, List.length_append, Nat.add_assoc]
    rfl
  · intro other hother
    rw [List.mem_singleton.1 hother]
    exact hshallow.repetition
  · refine Meaning.trees_cons ?_ (by rw [Meaning.trees])
    rw [Meaning.tree, hmeaning]
    simp only [bind, Except.bind, hswap]
    rfl

end Spells

end PatternWorkbench.Pattern
