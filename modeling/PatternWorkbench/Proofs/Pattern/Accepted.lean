import PatternWorkbench.Proofs.Pattern.ClassExtent

/-!
# The pieces of an accepted pattern

Where verbose mode is never switched on and every property that is asked for
exists, a pattern that is read is a row of pieces, each of which can be told by
its characters.  The features of its tree are those of the pieces.
-/

namespace PatternWorkbench.Pattern

open Reading (OpenGroup Sequence State)

/-! ## What a step can do -/

namespace Reading

/-- The state and the position behind a step at the character `c`. -/
inductive Stepped (state : State) (pos : Nat) (c : Char) (rest : Text) :
    State → Nat → Prop where
  | setFlags {span : Span} {items : FlagItems} {stop : Nat} (hc : c = '(')
      (hopening : GroupReading.opening state.verbose pos rest =
        .ok (.setFlags span items, stop)) :
      Stepped state pos c rest { state.push (.flags span items) with
        verbose := (items.setting? .ignoreWhitespace).getD state.verbose } stop
  | grouping {items : FlagItems} {stop : Nat} (hc : c = '(')
      (hopening : GroupReading.opening state.verbose pos rest =
        .ok (.plain items, stop)) :
      Stepped state pos c rest (state.openGroup pos stop (.plain items)
        ((items.setting? .ignoreWhitespace).getD state.verbose)) stop
  | numbered {stop : Nat} (hc : c = '(')
      (hopening : GroupReading.opening state.verbose pos rest = .ok (.numbered, stop)) :
      Stepped state pos c rest { state.openGroup pos stop
          (.capture (state.captures + 1) none) state.verbose with
        captures := state.captures + 1 } stop
  | named {name : Text} {span : Span} {stop : Nat} (hc : c = '(')
      (hopening : GroupReading.opening state.verbose pos rest =
        .ok (.named name span, stop))
      (hfresh : state.names.find? (·.1 == name) = none) :
      Stepped state pos c rest { state.openGroup pos stop
          (.capture (state.captures + 1) (some name)) state.verbose with
        captures := state.captures + 1
        names := state.names ++ [(name, span)] } stop
  | close {next : State} (hc : c = ')') (hclose : state.close pos = .ok next) :
      Stepped state pos c rest next (pos + 1)
  | bar (hc : c = '|') :
      Stepped state pos c rest { state with sequence := state.sequence.bar pos } (pos + 1)
  | again {body : Tree} {sequence : Sequence} {operator : RepetitionReading.Operator}
      (hoperator : operator? state.verbose pos c rest = some (.ok operator))
      (hrepeatable : state.sequence.repeatable? = some (body, sequence)) :
      Stepped state pos c rest (state.repeat body sequence operator).1 operator.stop
  | atom {tree : Tree} {stop : Nat} (hc : c ≠ '(' ∧ c ≠ ')')
      (hoperator : operator? state.verbose pos c rest = none)
      (hatom : atom state.verbose pos c rest = .ok (tree, stop)) :
      Stepped state pos c rest (state.push tree) stop

variable {state next : State} {pos stop : Nat} {c : Char} {rest : Text}

/-- What an opening parenthesis begins is a step of the reader. -/
theorem stepped_of_begin (hc : c = '(') (hbegin : state.begin pos rest = .ok (next, stop)) :
    Stepped state pos c rest next stop := by
  obtain ⟨⟨opening, last⟩, hopening, hbegin⟩ := bind_eq_ok_iff.1 hbegin
  cases opening with
  | setFlags span items =>
      obtain ⟨rfl, rfl⟩ := Prod.mk.inj (Except.ok.inj hbegin)
      exact .setFlags hc hopening
  | plain items =>
      obtain ⟨rfl, rfl⟩ := Prod.mk.inj (Except.ok.inj hbegin)
      exact .grouping hc hopening
  | numbered =>
      obtain ⟨rfl, rfl⟩ := Prod.mk.inj (Except.ok.inj hbegin)
      exact .numbered hc hopening
  | named name span =>
      simp only at hbegin
      split at hbegin
      case h_1 => simp at hbegin
      case h_2 hfresh =>
        obtain ⟨rfl, rfl⟩ := Prod.mk.inj (Except.ok.inj hbegin)
        exact .named hc hopening hfresh

theorem stepped_of_step (hstep : state.step pos c rest = .ok (next, stop)) :
    Stepped state pos c rest next stop := by
  unfold State.step at hstep
  split at hstep
  case isTrue hopening => exact stepped_of_begin hopening hstep
  case isFalse hopening =>
    split at hstep
    case isTrue hclosing =>
      obtain ⟨closed, hclose, hsame⟩ := bind_eq_ok_iff.1 hstep
      obtain ⟨rfl, rfl⟩ := Prod.mk.inj (Except.ok.inj hsame)
      exact .close hclosing hclose
    case isFalse hclosing =>
      split at hstep
      case isTrue hbar =>
        obtain ⟨rfl, rfl⟩ := Prod.mk.inj (Except.ok.inj hstep)
        exact .bar hbar
      case isFalse =>
        split at hstep
        case h_1 operator hoperator =>
          split at hstep
          case h_1 => simp [fail] at hstep
          case h_2 body sequence hrepeatable =>
            obtain ⟨value, hvalue, hsame⟩ := bind_eq_ok_iff.1 hstep
            obtain ⟨rfl, rfl⟩ := Prod.mk.inj (Except.ok.inj hsame)
            exact .again (hvalue ▸ hoperator) hrepeatable
        case h_2 hoperator =>
          obtain ⟨⟨tree, last⟩, hatom, hsame⟩ := bind_eq_ok_iff.1 hstep
          obtain ⟨rfl, rfl⟩ := Prod.mk.inj (Except.ok.inj hsame)
          exact .atom ⟨hopening, hclosing⟩ hoperator hatom

/-- A step keeps the features read so far and puts its own behind them. -/
theorem Stepped.keeps_features (hstepped : Stepped state pos c rest next stop) :
    state.features <+: next.features := by
  have hopened (kind : GroupKind) (verbose : Bool) (start : Nat) :
      state.features <+: (state.openGroup pos start kind verbose).features :=
    ⟨_, (State.features_openGroup state pos start kind verbose).symm⟩
  cases hstepped with
  | setFlags hc hopening => exact ⟨_, (State.features_push state _).symm⟩
  | grouping hc hopening => exact hopened _ _ _
  | numbered hc hopening => exact hopened (.capture _ none) state.verbose _
  | named hc hopening hfresh => exact hopened (.capture _ _) state.verbose _
  | close hc hclose => exact State.features_close hclose ▸ List.prefix_rfl
  | bar hc =>
      change _ <+: _ ++ (state.sequence.bar pos).features
      rw [Sequence.features_bar]
      exact List.prefix_rfl
  | again hoperator hrepeatable =>
      exact State.features_repeat hrepeatable _ ▸ List.prefix_rfl
  | atom hc hoperator hatom => exact ⟨_, (State.features_push state _).symm⟩

/-- At the end of a pattern all groups are closed, and the tree has the features that
were read. -/
theorem State.features_of_finish {tree : Tree} (hfinish : state.finish pos = .ok tree) :
    state.groups = [] ∧ tree.features = state.features := by
  unfold finish at hfinish
  split at hfinish
  case h_1 hgroups =>
    rw [← Except.ok.inj hfinish, Sequence.features_tree]
    simp [features, hgroups]
  case h_2 => simp [fail] at hfinish

/-- All that was read is in the tree in the end. -/
theorem State.keeps_features {tree : Tree} (hread : state.read pos rest = .ok tree) :
    state.features <+: tree.features := by
  fun_induction State.read state pos rest with
  | case1 state start rest pos hskip =>
      exact (features_of_finish hread).2 ▸ List.prefix_rfl
  | case2 => simp at hread
  | case3 state start rest pos c cs hskip next stop hstep ih =>
      exact (stepped_of_step hstep).keeps_features.trans (ih hread)

/-! ## Pieces -/

end Reading

/-- How many groups have been opened, and how many of them are still open. -/
structure Level where
  captures : Nat
  depth : Nat

/-- Characters that need no closing one and are none, and escape nothing.  A
closing bracket without an opening one stands for itself. -/
def standsAlone (c : Char) : Bool :=
  c == ']' || !isDelimiter c

theorem IsLegible.standsAlone {text : Text} (hlegible : IsLegible text) :
    ∀ c ∈ text, standsAlone c = true := by
  intro c hc
  rw [Pattern.standsAlone, hlegible c hc]
  exact Bool.or_true _

theorem standsAlone_of_isFlagLetter {c : Char}
    (hletter : GroupReading.isFlagLetter c = true) : standsAlone c = true := by
  rw [standsAlone, Bool.or_eq_true, Bool.not_eq_true', Bool.eq_false_iff]
  right
  intro hdelimiter
  rcases eq_of_isDelimiter hdelimiter with rfl | rfl | rfl | rfl | rfl <;> contradiction

/-- A piece of a pattern at `pos` with the text behind it, the features that it
adds, and the level behind it. -/
inductive Piece (pos : Nat) (level : Level) :
    Text → Text → List Feature → Level → Prop where
  | plain {text after : Text} (htext : ∀ c ∈ text, standsAlone c = true) :
      Piece pos level text after [] level
  | escape {c : Char} {tail after : Text} (queries : List PropertyQuery)
      (htail : IsLegible tail) :
      Piece pos level ('\\' :: c :: tail) after (queries.map .query) level
  | bracketed {inside after : Text} (queries : List PropertyQuery)
      (hpaired : IsPaired inside)
      (hflat : ClassReading.IsFlat inside → ']' ∉ unescaped inside) :
      Piece pos level ('[' :: (inside ++ [']'])) after
        (.bracketed ⟨pos, pos + (inside.length + 2)⟩ :: queries.map .query) level
  | numbered {after : Text} (hafter : after.head? ≠ some '?') :
      Piece pos level ['('] after [.group (level.captures + 1) none]
        ⟨level.captures + 1, level.depth + 1⟩
  | named {sign name after : Text} (hsign : sign = ['?', '<'] ∨ sign = ['?', 'P', '<'])
      (hname : GroupReading.IsGroupName name) :
      Piece pos level ('(' :: (sign ++ name ++ ['>'])) after
        [.group (level.captures + 1) (some name)] ⟨level.captures + 1, level.depth + 1⟩
  | setFlags {letters after : Text} (items : FlagItems)
      (hletters : ∀ c ∈ letters, GroupReading.isFlagLetter c = true) :
      Piece pos level ('(' :: '?' :: (letters ++ [')'])) after [.flags items] level
  | grouping {letters after : Text} (items : FlagItems)
      (hletters : ∀ c ∈ letters, GroupReading.isFlagLetter c = true) :
      Piece pos level ('(' :: '?' :: (letters ++ [':'])) after [.flags items]
        ⟨level.captures, level.depth + 1⟩
  | close {after : Text} {captures depth : Nat} (hlevel : level = ⟨captures, depth + 1⟩) :
      Piece pos level [')'] after [] ⟨captures, depth⟩

/-- The rest of a pattern from `pos` on, with the features of its pieces. -/
inductive Accepted : Nat → Level → Text → List Feature → Prop where
  | done (pos captures : Nat) : Accepted pos ⟨captures, 0⟩ [] []
  | piece {pos : Nat} {level next : Level} {text after : Text}
      {features later : List Feature} (hpiece : Piece pos level text after features next)
      (hafter : Accepted (pos + text.length) next after later) :
      Accepted pos level (text ++ after) (features ++ later)

/-- No flags among the features switch verbose mode on, and every property that
is asked for exists. -/
structure Settled (features : List Feature) : Prop where
  notVerbose : ∀ items, .flags items ∈ features →
    items.setting? .ignoreWhitespace ≠ some true
  answered : ∀ query, .query query ∈ features → query.IsKnown

theorem Settled.mono {few many : List Feature} (hmany : Settled many)
    (hfew : few ⊆ many) : Settled few where
  notVerbose items hitems := hmany.notVerbose items (hfew hitems)
  answered query hquery := hmany.answered query (hfew hquery)

namespace Reading

def State.level (state : State) : Level :=
  ⟨state.captures, state.groups.length⟩

structure State.IsPlain (state : State) : Prop where
  verbose : state.verbose = false
  outer : ∀ group ∈ state.groups, group.outerVerbose = false

variable {state next : State} {pos stop : Nat} {c : Char} {rest : Text}

theorem State.IsPlain.openGroup (hplain : state.IsPlain) (pos stop : Nat)
    (kind : GroupKind) : (state.openGroup pos stop kind false).IsPlain where
  verbose := rfl
  outer group hgroup := by
    rcases List.mem_cons.1 hgroup with rfl | hgroup
    · exact hplain.verbose
    · exact hplain.outer group hgroup

/-- What flags do to verbose mode where they do not switch it on. -/
theorem not_verbose_of_settled {features : List Feature} {items : FlagItems}
    (hsettled : Settled features) (hitems : .flags items ∈ features)
    (hplain : state.verbose = false) :
    (items.setting? .ignoreWhitespace).getD state.verbose = false := by
  have hoff := hsettled.notVerbose items hitems
  cases hsetting : items.setting? .ignoreWhitespace with
  | none => exact hplain
  | some on =>
      cases on with
      | false => rfl
      | true => exact absurd hsetting hoff

structure ReadsPiece (state : State) (pos : Nat) (c : Char) (rest : Text)
    (next : State) (stop : Nat) : Prop where
  isPlain : next.IsPlain
  piece : ∃ tail after features, Cursor.Passes ⟨pos + 1, rest⟩ tail ⟨stop, after⟩ ∧
    next.features = state.features ++ features ∧
    Piece pos state.level (c :: tail) after features next.level

theorem readsPiece_operator {body : Tree} {sequence : Sequence}
    {operator : RepetitionReading.Operator} (hplain : state.IsPlain)
    (hoperator : operator? false pos c rest = some (.ok operator))
    (hrepeatable : state.sequence.repeatable? = some (body, sequence)) :
    ReadsPiece state pos c rest (state.repeat body sequence operator).1
      operator.stop := by
  refine ⟨⟨hplain.verbose, hplain.outer⟩, ?_⟩
  have hfeatures : (state.repeat body sequence operator).1.features =
      state.features ++ [] := by
    rw [State.features_repeat hrepeatable, List.append_nil]
  have hcompletes (hc : standsAlone c = true)
      (hcompletes : RepetitionReading.Completes ⟨pos + 1, rest⟩ operator.stop) :
      ∃ tail after features,
        Cursor.Passes ⟨pos + 1, rest⟩ tail ⟨operator.stop, after⟩ ∧
        (state.repeat body sequence operator).1.features = state.features ++ features ∧
        Piece pos state.level (c :: tail) after features
          (state.repeat body sequence operator).1.level := by
    obtain ⟨tail, after, hpasses, hlegible⟩ := hcompletes
    exact ⟨tail, after, [], hpasses, hfeatures,
      .plain (List.forall_mem_cons.2 ⟨hc, hlegible.standsAlone⟩)⟩
  unfold operator? at hoperator
  split at hoperator
  case isTrue hbrace =>
    subst hbrace
    exact hcompletes (by decide)
      (RepetitionReading.completes_counted (Option.some.inj hoperator))
  case isFalse =>
    obtain ⟨counts, hcounts, hsame⟩ := Option.map_eq_some_iff.1 hoperator
    obtain rfl := Except.ok.inj hsame
    refine hcompletes ?_ (RepetitionReading.completes_ofMark counts pos rest)
    unfold RepetitionReading.marked? at hcounts
    split at hcounts
    case h_4 => simp at hcounts
    all_goals rfl

theorem readsPiece_atom {tree : Tree} (hplain : state.IsPlain)
    (hsettled : Settled (state.push tree).features) (hc : c ≠ '(' ∧ c ≠ ')')
    (hoperator : operator? false pos c rest = none)
    (hatom : atom false pos c rest = .ok (tree, stop)) :
    ReadsPiece state pos c rest (state.push tree) stop := by
  refine ⟨⟨hplain.verbose, hplain.outer⟩, ?_⟩
  have hfeatures := State.features_push state tree
  have hanswered : Escape.Answered tree := fun query hquery =>
    hsettled.answered query (hfeatures ▸ List.mem_append_right _ hquery)
  unfold atom at hatom
  split at hatom
  case isTrue hbracket =>
    obtain ⟨queries, htree, hmore⟩ := ClassReading.passes_read hatom
    obtain ⟨inside, after, hpasses, hpaired, hflat⟩ := hmore hanswered
    have hstop : stop = pos + (inside.length + 2) := by
      have hpos := hpasses.pos_eq
      simp only [List.length_append, List.length_singleton] at hpos
      omega
    subst hbracket
    rw [htree, hstop] at hfeatures
    exact ⟨_, after, _, hpasses, hfeatures, .bracketed queries hpaired hflat⟩
  case isFalse hbracket =>
    split at hatom
    case isTrue hescape =>
      cases rest with
      | nil => simp [Escape.read, fail] at hatom
      | cons d rest =>
          obtain ⟨⟨queries, hqueries⟩, hmore⟩ := Escape.extends_read hatom
          obtain ⟨tail, after, hpasses, htail⟩ := hmore hanswered
          subst hescape
          rw [hqueries] at hfeatures
          exact ⟨_, after, _, hpasses.cons, hfeatures, .escape queries htail⟩
    case isFalse hescape =>
      have halone : standsAlone c = true := by
        by_cases hclosing : c = ']'
        · rw [hclosing]
          rfl
        · simp [standsAlone, isDelimiter, hc.1, hc.2, hbracket, hescape, hclosing]
      have hleaf (hleaf : tree.features = []) (hstop : stop = pos + 1) :
          ∃ tail after features, Cursor.Passes ⟨pos + 1, rest⟩ tail ⟨stop, after⟩ ∧
            (state.push tree).features = state.features ++ features ∧
            Piece pos state.level (c :: tail) after features (state.push tree).level := by
        rw [hleaf] at hfeatures
        rw [hstop]
        exact ⟨[], rest, [], .refl _, hfeatures, .plain (by simp [halone])⟩
      split at hatom
      · obtain ⟨rfl, rfl⟩ := Prod.mk.inj (Except.ok.inj hatom)
        exact hleaf rfl rfl
      split at hatom
      · obtain ⟨rfl, rfl⟩ := Prod.mk.inj (Except.ok.inj hatom)
        exact hleaf rfl rfl
      split at hatom
      · obtain ⟨rfl, rfl⟩ := Prod.mk.inj (Except.ok.inj hatom)
        exact hleaf rfl rfl
      · obtain ⟨rfl, rfl⟩ := Prod.mk.inj (Except.ok.inj hatom)
        exact hleaf rfl rfl

/-- A step over settled features reads one piece of the grammar. -/
theorem readsPiece_of_stepped (hplain : state.IsPlain)
    (hstepped : Stepped state pos c rest next stop) (hsettled : Settled next.features) :
    ReadsPiece state pos c rest next stop := by
  cases hstepped with
  | @setFlags span items stop hc hopening =>
      rw [hplain.verbose] at hopening
      have hfeatures := State.features_push state (.flags span items)
      have hverbose := not_verbose_of_settled hsettled
        (hfeatures ▸ List.mem_append_right _ List.mem_cons_self) hplain.verbose
      cases GroupReading.opens_of_opening hopening with
      | setFlags hletters hpasses =>
          subst hc
          exact ⟨⟨hverbose, hplain.outer⟩, _, _, _, hpasses, hfeatures,
            .setFlags items hletters⟩
  | @grouping items stop hc hopening =>
      rw [hplain.verbose] at hopening
      have hfeatures (verbose : Bool) :=
        State.features_openGroup state pos stop (.plain items) verbose
      have hverbose := not_verbose_of_settled hsettled
        (hfeatures _ ▸ List.mem_append_right _ List.mem_cons_self) hplain.verbose
      cases GroupReading.opens_of_opening hopening with
      | plain hletters hpasses =>
          subst hc
          rw [hverbose]
          exact ⟨hplain.openGroup pos stop _, _, _, _, hpasses, hfeatures false,
            .grouping items hletters⟩
  | @numbered stop hc hopening =>
      rw [hplain.verbose] at hopening ⊢
      cases GroupReading.opens_of_opening hopening with
      | numbered hrest =>
          subst hc
          have hopened := hplain.openGroup pos (pos + 1) (.capture (state.captures + 1) none)
          exact ⟨⟨hopened.verbose, hopened.outer⟩, _, rest, _, .refl _,
            State.features_openGroup state pos _ (.capture _ none) false, .numbered hrest⟩
  | @named name span stop hc hopening hfresh =>
      rw [hplain.verbose] at hopening ⊢
      cases GroupReading.opens_of_opening hopening with
      | named hsign hname hpasses =>
          subst hc
          have hopened := hplain.openGroup pos stop (.capture (state.captures + 1) (some name))
          exact ⟨⟨hopened.verbose, hopened.outer⟩, _, _, _, hpasses,
            State.features_openGroup state pos _ (.capture _ _) false, .named hsign hname⟩
  | close hc hclose =>
      subst hc
      have hfeatures := State.features_close hclose
      unfold State.close at hclose
      split at hclose
      case h_1 => simp [fail] at hclose
      case h_2 group outer hgroups =>
        obtain rfl := Except.ok.inj hclose
        have hlevel : state.level = ⟨state.captures, outer.length + 1⟩ := by
          rw [State.level, hgroups, List.length_cons]
        exact ⟨⟨hplain.outer group (by simp [hgroups]),
            fun other hother => hplain.outer other (by simp [hgroups, hother])⟩,
          [], rest, [], .refl _, by rw [hfeatures, List.append_nil],
          .close hlevel⟩
  | bar hc =>
      subst hc
      refine ⟨⟨hplain.verbose, hplain.outer⟩, [], rest, [], .refl _, ?_,
        .plain (List.forall_mem_singleton.2 (by decide))⟩
      change _ ++ (state.sequence.bar pos).features = _
      rw [Sequence.features_bar, List.append_nil]
      rfl
  | again hoperator hrepeatable =>
      rw [hplain.verbose] at hoperator
      exact readsPiece_operator hplain hoperator hrepeatable
  | atom hc hoperator hatom =>
      rw [hplain.verbose] at hoperator hatom
      exact readsPiece_atom hplain hsettled hc hoperator hatom

/-- A reading that succeeds reads one piece after another. -/
theorem State.accepted_of_read {tree : Tree} (hplain : state.IsPlain)
    (hread : state.read pos rest = .ok tree) (hsettled : Settled tree.features) :
    ∃ features, tree.features = state.features ++ features ∧
      Accepted pos state.level rest features := by
  fun_induction State.read state pos rest with
  | case1 state start rest pos hskip =>
      rw [hplain.verbose, Cursor.skip_false] at hskip
      obtain ⟨rfl, rfl⟩ := Cursor.mk.inj hskip
      obtain ⟨hgroups, hfeatures⟩ := features_of_finish hread
      refine ⟨[], by rw [hfeatures, List.append_nil], ?_⟩
      rw [level, hgroups]
      exact .done start state.captures
  | case2 => simp at hread
  | case3 state start rest pos c cs hskip next stop hstep ih =>
      rw [hplain.verbose, Cursor.skip_false] at hskip
      obtain ⟨rfl, rfl⟩ := Cursor.mk.inj hskip
      have hnext := hsettled.mono (keeps_features hread).subset
      obtain ⟨hnextPlain, tail, after, features, hpasses, hfeatures, hpiece⟩ :=
        readsPiece_of_stepped hplain (stepped_of_step hstep) hnext
      obtain ⟨later, htree, hlater⟩ := ih hnextPlain hread
      refine ⟨features ++ later, by rw [htree, hfeatures, List.append_assoc], ?_⟩
      have hrest : cs = tail ++ after := hpasses.rest_eq
      have hstop : stop = start + (c :: tail).length := by
        have hpos : stop = start + 1 + tail.length := hpasses.pos_eq
        rw [hpos, List.length_cons]
        omega
      rw [hpasses.drop_eq, hstop] at hlater
      rw [hrest, ← List.cons_append]
      exact .piece hpiece hlater

end Reading

/-- A pattern that the reader takes is of the grammar, if verbose mode is never turned
on and all properties are known. -/
theorem accepted_of_tree {pattern : Text} {tree : Tree}
    (hread : Tree.read pattern = .ok tree) (hsettled : Settled tree.features) :
    Accepted 0 ⟨0, 0⟩ pattern tree.features := by
  obtain ⟨other, hother, hsame⟩ := bind_eq_ok_iff.1 hread
  split at hsame
  case h_1 => simp at hsame
  case h_2 =>
    obtain rfl := Except.ok.inj hsame
    obtain ⟨features, htree, haccepted⟩ :=
      Reading.State.accepted_of_read ⟨rfl, by simp [State.initial]⟩ hother hsettled
    rw [htree]
    exact haccepted

end PatternWorkbench.Pattern
