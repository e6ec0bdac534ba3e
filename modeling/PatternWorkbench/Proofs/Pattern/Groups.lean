import PatternWorkbench.Proofs.Pattern.Spelling

/-!
# Groups

What stands inside a group is read as it is outside of one, and the group is one
part.  A choice is a group with bars in it.  Named groups are counted and their
names kept, so spellings that contain them say what the count and the names are
before and after.
-/

namespace PatternWorkbench.Pattern

open Reading (OpenGroup Sequence State)

def noFlags : FlagItems := ⟨[], []⟩

theorem Modes.update_noFlags (modes : Modes) : modes.update noFlags = modes := rfl

/-! ## Opening and closing -/

namespace Reading

variable {state : State}

/-- A plain group sets the sequence around it aside. -/
theorem State.read_plain (hverbose : state.verbose = false) (pos : Nat)
    (rest : Text) :
    state.read pos ('(' :: ['?', ':'] ++ rest) =
      (state.openGroup pos (pos + 3) (.plain noFlags) false).read (pos + 3) rest := by
  apply State.read_of_step hverbose
  rw [State.step, if_pos rfl, State.begin, hverbose]
  rfl

/-- A closing parenthesis takes up the sequence around the group again. -/
theorem State.read_close {group : OpenGroup} {groups : List OpenGroup}
    (hverbose : state.verbose = false) (hgroups : state.groups = group :: groups)
    (pos : Nat) (rest : Text) :
    state.read pos (')' :: rest) =
      ({ state with
        sequence := group.outer.push
          (.group ⟨group.pos, pos + 1⟩ group.kind (state.sequence.tree pos))
        groups := groups
        verbose := group.outerVerbose } : State).read (pos + 1) rest := by
  change state.read pos (')' :: [] ++ rest) = _
  apply State.read_of_step hverbose
  rw [State.step, State.close, hgroups]
  rfl

theorem State.read_bar (hverbose : state.verbose = false) (pos : Nat)
    (rest : Text) :
    state.read pos ('|' :: rest) =
      ({ state with sequence := state.sequence.bar pos } : State).read (pos + 1)
        rest := by
  change state.read pos ('|' :: [] ++ rest) = _
  apply State.read_of_step hverbose
  rfl

end Reading

/-! ## Spellings with named groups -/

/-- How many groups have been opened, and the names given so far. -/
structure Tally where
  captures : Nat
  names : List Text

def Reading.State.tally (state : State) : Tally :=
  ⟨state.captures, state.names.map (·.1)⟩

def Reading.State.count (state : State) (captures : Nat)
    (names : List (Text × Span)) : State :=
  { state with captures, names }

/-- The spelling is read as a row of parts where `before` is the tally, and
leaves behind the tally `after`. -/
def SpellsFrom (modes : Modes) (height : Nat) (before : Tally) (spelling : Text)
    (exprs : List Expr) (after : Tally) : Prop :=
  ∀ (state : State) (pos : Nat) (rest : Text), state.verbose = false →
    state.tally = before → rest.head? ≠ some '?' →
    ∃ trees names, state.read pos (spelling ++ rest) =
        ((state.pushAll trees).count after.captures names).read
          (pos + spelling.length) rest ∧
      names.map (·.1) = after.names ∧
      (∀ tree ∈ trees, tree.Shallow height) ∧
      Meaning.trees modes trees = .ok (exprs, modes)

section SpellsFrom

variable {modes : Modes} {height : Nat} {before between after : Tally}
  {spelling left right : Text} {exprs lefts rights : List Expr}

theorem Spells.spellsFrom (hspells : Spells modes height spelling exprs)
    (tally : Tally) : SpellsFrom modes height tally spelling exprs tally := by
  intro state pos rest hverbose htally hrest
  obtain ⟨trees, hread, hshallow, hmeaning⟩ := hspells state pos rest hverbose hrest
  subst htally
  exact ⟨trees, state.names, hread, rfl, hshallow, hmeaning⟩

/-- Spellings side by side are read one after the other, unless the second would be a
mark on the first. -/
theorem SpellsFrom.append
    (hleft : SpellsFrom modes height before left lefts between)
    (hright : SpellsFrom modes height between right rights after)
    (hmark : right.head? ≠ some '?') :
    SpellsFrom modes height before (left ++ right) (lefts ++ rights) after := by
  intro state pos rest hverbose htally hrest
  obtain ⟨early, names, hearly, hnames, hflat, hmeaning⟩ :=
    hleft state pos (right ++ rest) hverbose htally (head?_append_ne hmark hrest)
  have hmiddle : ((state.pushAll early).count between.captures names).tally =
      between := by
    simp only [State.tally, State.count, hnames]
  obtain ⟨late, names', hlate, hnames', hflat', hmeaning'⟩ :=
    hright ((state.pushAll early).count between.captures names)
      (pos + left.length) rest hverbose hmiddle hrest
  refine ⟨early ++ late, names', ?_, hnames', ?_,
    Meaning.trees_append hmeaning hmeaning'⟩
  · rw [List.append_assoc, hearly, hlate, List.length_append, Nat.add_assoc,
      State.pushAll_append]
    rfl
  · intro tree htree
    rcases List.mem_append.1 htree with htree | htree
    · exact hflat tree htree
    · exact hflat' tree htree

end SpellsFrom

/-! ## Plain groups and choices -/

/-- Reads from behind an opening to the end of the group. -/
theorem read_body {modes : Modes} {height : Nat} {before after : Tally}
    {body : Text} {exprs : List Expr}
    (hbody : SpellsFrom modes height before body exprs after)
    {outer : State} (houter : outer.verbose = false) (htally : outer.tally = before)
    (start stop : Nat) (kind : GroupKind) (rest : Text) :
    ∃ tree names, (outer.openGroup start stop kind false).read stop
          (body ++ ')' :: rest) =
        ((outer.push (.group ⟨start, stop + body.length + 1⟩ kind tree)).count
          after.captures names).read (stop + body.length + 1) rest ∧
      names.map (·.1) = after.names ∧ tree.Shallow (height + 1) ∧
      Meaning.tree modes tree = .ok (.joined exprs, modes) := by
  obtain ⟨trees, names, hread, hnames, hflat, hmeaning⟩ :=
    hbody (outer.openGroup start stop kind false) stop (')' :: rest) rfl htally
      (by simp)
  refine ⟨.ofItems ⟨stop, stop + body.length⟩ trees, names, ?_, hnames,
    Tree.Shallow.ofItems hflat, Meaning.tree_ofItems hmeaning⟩
  rw [hread, State.read_close rfl rfl]
  simp [State.openGroup, State.pushAll, State.count, State.push, houter,
    Sequence.empty, Sequence.tree, Sequence.branch]

/-- The spelling of a choice among branches, each given with what it means. -/
def barred (bodies : List (Text × List Expr)) : Text :=
  List.intercalate ['|'] (bodies.map (·.1))

theorem barred_singleton (body : Text × List Expr) : barred [body] = body.1 := by
  simp [barred]

theorem barred_cons_cons (body next : Text × List Expr)
    (later : List (Text × List Expr)) :
    barred (body :: next :: later) = body.1 ++ '|' :: barred (next :: later) := by
  simp [barred, List.intercalate_cons_cons]

/-- Reads the branches of a choice up to the end of its group. -/
theorem read_branches {modes : Modes} {height : Nat}
    {bodies : List (Text × List Expr)} (hne : bodies ≠ [])
    (hbodies : ∀ body ∈ bodies, Spells modes height body.1 body.2)
    {state : State} (hverbose : state.verbose = false)
    (hitems : state.sequence.items = []) (pos : Nat) (rest : Text) :
    ∃ trees sequence, state.read pos (barred bodies ++ ')' :: rest) =
        ({ state with sequence } : State).read (pos + (barred bodies).length)
          (')' :: rest) ∧
      sequence.branches.reverse ++ [sequence.branch (pos + (barred bodies).length)] =
        state.sequence.branches.reverse ++ trees ∧
      (∀ tree ∈ trees, tree.Shallow (height + 1)) ∧
      Meaning.trees modes trees = .ok (bodies.map (.joined ·.2), modes) := by
  induction bodies generalizing state pos with
  | nil => contradiction
  | cons body bodies ih =>
      cases bodies with
      | nil =>
          obtain ⟨items, hread, hflat, hmeaning⟩ :=
            hbodies body (by simp) state pos (')' :: rest) hverbose (by simp)
          rw [barred_singleton]
          refine ⟨[.ofItems ⟨state.sequence.start, pos + body.1.length⟩ items],
            (state.pushAll items).sequence, hread, ?_, ?_, ?_⟩
          · simp [Sequence.branch, State.pushAll, hitems]
          · intro tree htree
            rw [List.mem_singleton.1 htree]
            exact Tree.Shallow.ofItems hflat
          · exact Meaning.trees_cons (Meaning.tree_ofItems hmeaning)
              (by rw [Meaning.trees, List.map_nil])
      | cons next later =>
          rw [barred_cons_cons]
          generalize hbarred : barred (next :: later) = others at ih ⊢
          obtain ⟨items, hread, hflat, hmeaning⟩ :=
            hbodies body (by simp) state pos ('|' :: (others ++ ')' :: rest))
              hverbose (by simp)
          have hitemsVerbose : (state.pushAll items).verbose = false := hverbose
          have hbar := State.read_bar hitemsVerbose (pos + body.1.length)
            (others ++ ')' :: rest)
          let barredState : State := { state.pushAll items with
            sequence := (state.pushAll items).sequence.bar (pos + body.1.length) }
          have hbarredVerbose : barredState.verbose = false := hverbose
          obtain ⟨trees, sequence, hlater, hbranches, hshallow, hmeanings⟩ :=
            ih (by simp) (fun other hother => hbodies other (by simp [hother]))
              hbarredVerbose rfl (pos + body.1.length + 1)
          have hpos : pos + body.1.length + 1 + others.length =
              pos + (body.1 ++ '|' :: others).length := by
            rw [List.length_append, List.length_cons]
            omega
          rw [hpos] at hlater hbranches
          refine ⟨.ofItems ⟨state.sequence.start, pos + body.1.length⟩ items :: trees,
            sequence, ?_, ?_, ?_, ?_⟩
          · rw [List.append_assoc, List.cons_append]
            calc
              _ = (state.pushAll items).read (pos + body.1.length)
                  ('|' :: (others ++ ')' :: rest)) := hread
              _ = barredState.read (pos + body.1.length + 1)
                  (others ++ ')' :: rest) := hbar
              _ = _ := hlater
          · rw [hbranches]
            simp [barredState, Sequence.bar, Sequence.branch, State.pushAll, hitems]
          · intro tree htree
            rcases List.mem_cons.1 htree with rfl | htree
            · exact Tree.Shallow.ofItems hflat
            · exact hshallow tree htree
          · exact Meaning.trees_cons (Meaning.tree_ofItems hmeaning) hmeanings

/-- The expression of a choice; one branch alone is that branch. -/
def Expr.chosen : List Expr → Expr
  | [branch] => branch
  | branches => .alternation branches

theorem Expr.course_chosen (sample : Array Char) (branches : List Expr) :
    (chosen branches).course sample = .anyOf (branches.map (course sample)) := by
  unfold chosen
  split
  case h_1 branch => simp
  case h_2 => exact course_alternation sample branches

theorem Expr.isBare_chosen {branches : List Expr}
    (hbranches : ∀ branch ∈ branches, branch.isBare = true) :
    (chosen branches).isBare = true := by
  unfold chosen
  split
  case h_1 branch => exact hbranches branch (by simp)
  case h_2 => exact isBare_alternation hbranches

theorem Meaning.tree_alternation {modes after : Modes} {span : Span}
    {first second : Tree} {later : List Tree} {exprs : List Expr}
    (htrees : trees modes (first :: second :: later) = .ok (exprs, after)) :
    tree modes (.alternation span (first :: second :: later)) =
      .ok (.chosen exprs, after) := by
  obtain ⟨_, _, _, _, hrest, rfl⟩ := trees_cons_eq_ok htrees
  obtain ⟨_, _, _, _, _, rfl⟩ := trees_cons_eq_ok hrest
  rw [tree, htrees]
  rfl

section SequenceTree

variable {modes : Modes} {height : Nat} {sequence : Sequence} {stop : Nat}
  {trees : List Tree} {exprs : List Expr}

/-- The tree of a sequence is its only branch, or the choice among all. -/
theorem Reading.Sequence.tree_eq
    (hbranches : sequence.branches.reverse ++ [sequence.branch stop] = trees) :
    trees = [sequence.tree stop] ∨ ∃ first second later,
      trees = first :: second :: later ∧
        sequence.tree stop = .alternation ⟨sequence.branchesStart, stop⟩ trees := by
  subst hbranches
  cases hearlier : sequence.branches with
  | nil =>
      left
      rw [Sequence.tree, hearlier]
      rfl
  | cons last earlier =>
      right
      have htree : sequence.tree stop = .alternation ⟨sequence.branchesStart, stop⟩
          ((last :: earlier).reverse ++ [sequence.branch stop]) := by
        rw [Sequence.tree, hearlier]
      rcases hreverse : (last :: earlier).reverse with _ | ⟨first, others⟩
      · simp at hreverse
      · cases others with
        | nil => exact ⟨first, sequence.branch stop, [], rfl, hreverse ▸ htree⟩
        | cons second later =>
            exact ⟨first, second, later ++ [sequence.branch stop], rfl,
              hreverse ▸ htree⟩

/-- The branches that were read mean what they are alternatives of. -/
theorem Meaning.tree_sequence
    (hbranches : sequence.branches.reverse ++ [sequence.branch stop] = trees)
    (hmeaning : Meaning.trees modes trees = .ok (exprs, modes)) :
    Meaning.tree modes (sequence.tree stop) = .ok (.chosen exprs, modes) := by
  rcases Sequence.tree_eq hbranches with rfl | ⟨first, second, later, rfl, htree⟩
  · obtain ⟨expr, _, _, hexpr, hrest, rfl⟩ := trees_cons_eq_ok hmeaning
    rw [trees] at hrest
    obtain ⟨rfl, rfl⟩ := Prod.mk.inj (Except.ok.inj hrest)
    exact hexpr
  · rw [htree]
    exact tree_alternation hmeaning

theorem shallow_sequence
    (hbranches : sequence.branches.reverse ++ [sequence.branch stop] = trees)
    (hshallow : ∀ tree ∈ trees, tree.Shallow height) :
    (sequence.tree stop).Shallow (height + 1) := by
  rcases Sequence.tree_eq hbranches with rfl | ⟨first, second, later, rfl, htree⟩
  · exact (hshallow _ (by simp)).mono (by omega)
  · rw [htree]
    exact Tree.Shallow.alternation hshallow

end SequenceTree

/-- A group with branches in it is a part. -/
theorem isPart_choice {modes : Modes} {height : Nat}
    {bodies : List (Text × List Expr)} (hne : bodies ≠ [])
    (hbodies : ∀ body ∈ bodies, Spells modes height body.1 body.2) :
    IsPart modes (height + 3) (['(', '?', ':'] ++ barred bodies ++ [')'])
      (.chosen (bodies.map (.joined ·.2))) := by
  intro state pos rest hverbose
  let opened : State := state.openGroup pos (pos + 3) (.plain noFlags) false
  have hopened : opened.verbose = false := rfl
  obtain ⟨trees, sequence, hread, hbranches, hshallow, hmeaning⟩ :=
    read_branches hne hbodies hopened rfl (pos + 3) rest
  refine ⟨.group ⟨pos, pos + 3 + (barred bodies).length + 1⟩ (.plain noFlags)
    (sequence.tree (pos + 3 + (barred bodies).length)), ?_, rfl,
    (shallow_sequence hbranches hshallow).group, ?_⟩
  · have hspelling : ['(', '?', ':'] ++ barred bodies ++ [')'] ++ rest =
        '(' :: ['?', ':'] ++ (barred bodies ++ ')' :: rest) := by simp
    have hlength : pos + (['(', '?', ':'] ++ barred bodies ++ [')']).length =
        pos + 3 + (barred bodies).length + 1 := by
      simp only [List.length_append, List.length_cons, List.length_nil]
      omega
    rw [hspelling, hlength]
    calc
      _ = opened.read (pos + 3) (barred bodies ++ ')' :: rest) :=
        State.read_plain hverbose pos _
      _ = _ := hread
      _ = _ := State.read_close rfl rfl _ rest
  · rw [Meaning.tree, Modes.update_noFlags, Meaning.tree_sequence hbranches hmeaning]
    rfl

/-! ## Named groups -/

namespace GroupReading

def isName : Text → Bool
  | [] => false
  | c :: rest => isNameStart c && !(['>', '=', '!'].contains c) &&
      rest.all fun d => isNameChar d && d != '>'

theorem nameLength_append (pos : Nat) {name : Text} (rest : Text)
    (hname : (name.all fun d => isNameChar d && d != '>') = true) :
    nameLength false pos (name ++ '>' :: rest) = .ok name.length := by
  induction name generalizing pos with
  | nil => rfl
  | cons c name ih =>
      simp only [List.all_cons, Bool.and_eq_true, bne_iff_ne] at hname
      obtain ⟨⟨hchar, hne⟩, hrest⟩ := hname
      rw [List.cons_append, nameLength, if_neg hne]
      simp only [Bool.false_eq_true, if_false, hchar, if_true,
        ih (pos + 1) (by simpa using hrest)]
      rfl

theorem opening_named (pos : Nat) {name : Text} (rest : Text)
    (hname : isName name = true) :
    opening false pos ('?' :: '<' :: name ++ '>' :: rest) =
      .ok (.named name ⟨pos + 3, pos + 3 + name.length⟩,
        pos + 3 + name.length + 1) := by
  cases name with
  | nil => contradiction
  | cons c name =>
      simp only [isName, Bool.and_eq_true, Bool.not_eq_true', List.contains_eq_mem,
        List.mem_cons, List.not_mem_nil, or_false, decide_eq_false_iff_not,
        not_or] at hname
      obtain ⟨⟨hstart, hangle, hequal, hbang⟩, hrest⟩ := hname
      have hlook : lookAround? ('?' :: '<' :: c :: (name ++ '>' :: rest)) = none := by
        simp [lookAround?, hequal, hbang]
      have hlength : nameLength true (pos + 3) (c :: (name ++ '>' :: rest)) =
          .ok (name.length + 1) := by
        rw [nameLength, if_neg hangle]
        simp only [if_true, hstart, nameLength_append (pos + 3 + 1) rest hrest]
        rfl
      have htake : (c :: (name ++ '>' :: rest)).take (name.length + 1) =
          c :: name := by simp
      have hread : GroupReading.name (pos + 3) (c :: (name ++ '>' :: rest)) =
          .ok (c :: name, ⟨pos + 3, pos + 3 + (name.length + 1)⟩) := by
        rw [GroupReading.name, hlength]
        simp only [bind, Except.bind, htake]
        rfl
      simp only [opening, Cursor.skip_false, List.cons_append, hlook, hread, bind,
        Except.bind]
      rfl

end GroupReading

/-- A named group opens with the next number, if its name is not taken. -/
theorem Reading.State.begin_named {state : State} (hverbose : state.verbose = false)
    (pos : Nat) {name : Text} (rest : Text)
    (hname : GroupReading.isName name = true)
    (hfresh : name ∉ state.tally.names) :
    state.begin pos ('?' :: '<' :: name ++ '>' :: rest) =
      .ok ((state.openGroup pos (pos + 3 + name.length + 1)
          (.capture (state.captures + 1) (some name)) false).count
            (state.captures + 1)
            (state.names ++ [(name, ⟨pos + 3, pos + 3 + name.length⟩)]),
        pos + 3 + name.length + 1) := by
  have hfind : state.names.find? (·.1 == name) = none := by
    rw [List.find?_eq_none]
    intro entry hentry heq
    exact hfresh (List.mem_map.2 ⟨entry, hentry, by simpa using heq⟩)
  rw [Reading.State.begin, hverbose, GroupReading.opening_named pos rest hname]
  simp only [bind, Except.bind, hfind, pure, Except.pure]
  rfl

/-- Behind the opening of a named group its body is read. -/
theorem Reading.State.read_named {state : State} (hverbose : state.verbose = false)
    (pos : Nat) {name : Text} (rest : Text) (hname : GroupReading.isName name = true)
    (hfresh : name ∉ state.tally.names) :
    state.read pos ('(' :: '?' :: '<' :: name ++ '>' :: rest) =
      ((state.openGroup pos (pos + 3 + name.length + 1)
          (.capture (state.captures + 1) (some name)) false).count
            (state.captures + 1)
            (state.names ++ [(name, ⟨pos + 3, pos + 3 + name.length⟩)])).read
        (pos + 3 + name.length + 1) rest := by
  have hopened : pos + ('(' :: ('?' :: '<' :: name ++ ['>'])).length =
      pos + 3 + name.length + 1 := by
    simp only [List.length_append, List.length_cons, List.length_nil]
    omega
  have hspelling : '(' :: '?' :: '<' :: name ++ '>' :: rest =
      '(' :: ('?' :: '<' :: name ++ ['>']) ++ rest := by simp
  have hinside : ('?' :: '<' :: name ++ ['>']) ++ rest =
      '?' :: '<' :: name ++ '>' :: rest := by simp
  rw [hspelling, ← hopened]
  apply State.read_of_step hverbose
  rw [State.step, if_pos rfl, hopened, hinside]
  exact State.begin_named hverbose pos rest hname hfresh

/-- Behind a parenthesis the body of a numbered group is read. -/
theorem Reading.State.read_numbered {state : State} (hverbose : state.verbose = false)
    (pos : Nat) {c : Char} (rest : Text) (hc : c ≠ '?') :
    state.read pos ('(' :: c :: rest) =
      ((state.openGroup pos (pos + 1) (.capture (state.captures + 1) none) false).count
        (state.captures + 1) state.names).read (pos + 1) (c :: rest) := by
  have hlook : GroupReading.lookAround? (c :: rest) = none := by
    simp [GroupReading.lookAround?, hc]
  have hopening : GroupReading.opening false pos (c :: rest) = .ok (.numbered, pos + 1) := by
    simp only [GroupReading.opening, Cursor.skip_false, hlook]
    split <;> first | rfl | simp_all
  change state.read pos ('(' :: [] ++ c :: rest) = _
  apply State.read_of_step hverbose
  rw [State.step, if_pos rfl, List.nil_append, State.begin, hverbose, hopening]
  rfl

/-- A named group with a body is read as one part, which captures the body. -/
theorem SpellsFrom.named {modes : Modes} {height : Nat} {before after : Tally}
    {name body : Text} {exprs : List Expr}
    (hname : GroupReading.isName name = true) (hfresh : name ∉ before.names)
    (hbody : SpellsFrom modes height
      ⟨before.captures + 1, before.names ++ [name]⟩ body exprs after) :
    SpellsFrom modes (height + 2) before
      ("(?<".toList ++ name ++ ['>'] ++ body ++ [')'])
      [.capture (before.captures + 1) (some name) (.joined exprs)] after := by
  intro state pos rest hverbose htally _
  subst htally
  let span : Span := ⟨pos + 3, pos + 3 + name.length⟩
  let counted : State := state.count (state.captures + 1) (state.names ++ [(name, span)])
  have hcountedVerbose : counted.verbose = false := hverbose
  have hcounted : counted.tally = ⟨state.captures + 1, state.tally.names ++ [name]⟩ := by
    simp [counted, State.tally, State.count]
  let kind : GroupKind := .capture (state.captures + 1) (some name)
  obtain ⟨inner, names, hread, hnames, hshallow, hmeaning⟩ :=
    read_body hbody hcountedVerbose hcounted pos (pos + 3 + name.length + 1) kind
      rest
  have hspelling : "(?<".toList ++ name ++ ['>'] ++ body ++ [')'] ++ rest =
      '(' :: '?' :: '<' :: name ++ '>' :: (body ++ ')' :: rest) := by simp
  have hstop : pos + ("(?<".toList ++ name ++ ['>'] ++ body ++ [')']).length =
      pos + 3 + name.length + 1 + body.length + 1 := by
    simp
    omega
  refine ⟨[.group ⟨pos, pos + 3 + name.length + 1 + body.length + 1⟩ kind inner],
    names, ?_, hnames, ?_, ?_⟩
  · rw [hspelling, hstop]
    exact (State.read_named hverbose pos (body ++ ')' :: rest) hname hfresh).trans hread
  · intro tree htree
    rw [List.mem_singleton.1 htree]
    exact hshallow.group
  · refine Meaning.trees_cons ?_ (by rw [Meaning.trees])
    rw [Meaning.tree, hmeaning]
    rfl

/-! ## Whole patterns -/

def Expr.whole (body : Expr) : Expr :=
  .concat [.look .textStart, body, .look .textEnd]

/-- A spelling on its own is a pattern for the row of its parts. -/
theorem read_spelling {modes : Modes} {height : Nat} {after : Tally}
    {spelling : Text} {exprs : List Expr} (hheight : height + 1 ≤ Nesting.limit)
    (hspells : SpellsFrom modes height ⟨0, []⟩ spelling exprs after) :
    Expr.read modes spelling = .ok (.joined exprs) := by
  obtain ⟨trees, names, hread, _, hshallow, hmeaning⟩ :=
    hspells State.initial 0 [] rfl rfl (by simp)
  have htree : State.initial.read 0 spelling =
      .ok (.ofItems ⟨0, 0 + spelling.length⟩ trees) := by
    rw [List.append_nil] at hread
    rw [hread, State.read_nil rfl]
    simp [State.finish, State.count, State.pushAll, State.initial, Sequence.empty,
      Sequence.tree, Sequence.branch]
  have hflat : Nesting.firstTooDeep 0 (.ofItems ⟨0, 0 + spelling.length⟩ trees) =
      none := Tree.Shallow.ofItems hshallow 0 (by omega)
  rw [Expr.read, Tree.read, htree]
  simp only [bind, Except.bind, hflat, pure, Except.pure,
    Meaning.tree_ofItems hmeaning]

/-- A pattern for whole texts means its body between the two ends. -/
theorem read_whole {modes : Modes} {height : Nat} {after : Tally} {body : Text}
    {exprs : List Expr} (hmultiline : modes.multiLine = false)
    (hheight : height + 3 ≤ Nesting.limit)
    (hbody : SpellsFrom modes height ⟨0, []⟩ body exprs after) :
    Expr.read modes ("^(?:".toList ++ body ++ ")$".toList) =
      .ok (.whole (.joined exprs)) := by
  let start : Tree := .assertion ⟨0, 1⟩ .lineStart
  have hstarted : (State.initial.push start).verbose = false := rfl
  obtain ⟨inner, names, hread, _, hshallow, hmeaning⟩ :=
    read_body hbody hstarted rfl 1 4 (.plain noFlags) ['$']
  let group : Tree := .group ⟨1, 4 + body.length + 1⟩ (.plain noFlags) inner
  let stop : Tree := .assertion ⟨4 + body.length + 1, 4 + body.length + 1 + 1⟩ .lineEnd
  have hstop (state : State) (hverbose : state.verbose = false) :
      state.read (4 + body.length + 1) ['$'] =
        (state.push stop).finish (4 + body.length + 1 + 1) := by
    have hpushed : (state.push stop).verbose = false := hverbose
    calc
      state.read (4 + body.length + 1) ('$' :: [] ++ []) =
          (state.push stop).read (4 + body.length + 1 + 1) [] :=
        State.read_atom hverbose rfl rfl
      _ = _ := State.read_nil hpushed _
  have htree : State.initial.read 0 ("^(?:".toList ++ body ++ ")$".toList) =
      .ok (.concat ⟨0, 4 + body.length + 1 + 1⟩ [start, group, stop]) := by
    have hspelling : "^(?:".toList ++ body ++ ")$".toList =
        '^' :: [] ++ ('(' :: ['?', ':'] ++ (body ++ ')' :: ['$'])) := by simp
    rw [hspelling]
    calc
      _ = (State.initial.push start).read 1
          ('(' :: ['?', ':'] ++ (body ++ ')' :: ['$'])) :=
        State.read_atom rfl rfl rfl
      _ = _ := State.read_plain hstarted 1 _
      _ = _ := hread
      _ = _ := hstop _ rfl
  have hflat : Nesting.firstTooDeep 0 (.concat ⟨0, 4 + body.length + 1 + 1⟩
      [start, group, stop]) = none := by
    have hgroup : group.Shallow (height + 1 + 1) := hshallow.group
    rw [Nesting.firstTooDeep, if_neg (by decide)]
    simp only [Nesting.firstTooDeepAmong, hgroup 1 (by omega), start, stop,
      Nesting.firstTooDeep]
    rfl
  have hinner : Meaning.tree modes group = .ok (.joined exprs, modes) := by
    rw [Meaning.tree, Modes.update_noFlags, hmeaning]
    rfl
  rw [Expr.read, Tree.read, htree]
  simp only [bind, Except.bind, hflat, pure, Except.pure, Meaning.tree,
    Meaning.trees, start, stop, hinner, Meaning.look, hmultiline]
  rfl

end PatternWorkbench.Pattern
