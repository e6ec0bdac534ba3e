import PatternWorkbench.Proofs.Pattern.Spelling

/-!
# Single parts

The spellings of single characters, of the shorthands and of the bracketed
classes that fragments are made of, each with the set it stands for.
-/

namespace PatternWorkbench.Pattern

open Reading (State beginsAtom)
open Unicode (CharSet)

def Tree.isRepeatable : Tree → Bool
  | .nothing _ | .flags .. => false
  | _ => true

theorem repeatable?_push (state : State) {tree : Tree}
    (hrepeatable : tree.isRepeatable = true) :
    (state.push tree).sequence.repeatable? = some (tree, state.sequence) := by
  cases tree <;> first | rfl | contradiction

section Parts

variable {modes : Modes} {c : Char} {inside : Text} {expr : Expr}

/-- An atom is a part, if its tree can be repeated and has a meaning. -/
theorem isPart_of_atom (hbegins : beginsAtom c = true) (tree : Nat → Tree)
    (hatom : ∀ pos rest, Reading.atom false pos c (inside ++ rest) =
      .ok (tree pos, pos + (c :: inside).length))
    (hrepeatable : ∀ pos, (tree pos).isRepeatable = true)
    (hshallow : ∀ pos, (tree pos).Shallow 2)
    (hmeaning : ∀ pos, Meaning.tree modes (tree pos) = .ok (expr, modes)) :
    IsPart modes 2 (c :: inside) expr := by
  intro state pos rest hverbose
  exact ⟨tree pos, State.read_atom hverbose hbegins (hatom pos rest),
    repeatable?_push state (hrepeatable pos), hshallow pos, hmeaning pos⟩

/-! ## Characters -/

/-- Whether a character outside a class stands for itself. -/
def standsForItself (c : Char) : Bool :=
  beginsAtom c && !(['[', '\\', '.', '^', '$'].contains c)

def charSet (modes : Modes) (c : Char) : CharSet :=
  if modes.caseInsensitive then (CharSet.single c).folded else .single c

theorem mem_charSet (modes : Modes) (c : Char) :
    (charSet modes c).mem c = true := by
  unfold charSet
  split
  · rw [CharSet.mem_folded]
    left
    simp
  · simp

/-- A literal means its character, in both cases where case is ignored. -/
theorem tree_literal (hunicode : modes.unicode = true) (start stop : Nat)
    (c : Char) :
    Meaning.tree modes (Escape.literal start stop c false) =
      .ok (.set (charSet modes c), modes) := by
  rw [Escape.literal, Meaning.tree, Meaning.literal, charSet]
  cases hcase : modes.caseInsensitive <;> simp [hunicode]

theorem shallow_literal (start stop : Nat) (c : Char) :
    (Escape.literal start stop c false).Shallow 2 := by
  intro depth _
  rw [Escape.literal, Nesting.firstTooDeep]

theorem atom_char (hitself : standsForItself c = true) (verbose : Bool) (pos : Nat)
    (rest : Text) :
    Reading.atom verbose pos c rest =
      .ok (Escape.literal pos (pos + 1) c false, pos + 1) := by
  simp only [standsForItself, Bool.and_eq_true, List.contains_eq_mem,
    List.mem_cons, List.not_mem_nil, or_false, Bool.not_eq_true',
    decide_eq_false_iff_not, not_or] at hitself
  obtain ⟨_, hbracket, hbackslash, hdot, hcaret, hdollar⟩ := hitself
  rw [Reading.atom, if_neg hbracket, if_neg hbackslash, if_neg hdot,
    if_neg hcaret, if_neg hdollar]

theorem isPart_char (hunicode : modes.unicode = true)
    (hitself : standsForItself c = true) :
    IsPart modes 2 [c] (.set (charSet modes c)) := by
  have hbegins : beginsAtom c = true := (Bool.and_eq_true_iff.1 hitself).1
  exact isPart_of_atom hbegins (fun pos => Escape.literal pos (pos + 1) c false)
    (fun pos rest => atom_char hitself false pos rest) (fun _ => rfl)
    (fun pos => shallow_literal _ _ c) (fun pos => tree_literal hunicode _ _ c)

theorem Reading.State.read_char {state : State} (hverbose : state.verbose = false)
    (hitself : standsForItself c = true) (pos : Nat) (rest : Text) :
    state.read pos (c :: rest) =
      (state.push (Escape.literal pos (pos + 1) c false)).read (pos + 1) rest := by
  have hbegins : beginsAtom c = true := (Bool.and_eq_true_iff.1 hitself).1
  change state.read pos (c :: [] ++ rest) = _
  exact State.read_atom hverbose hbegins (atom_char hitself false pos ([] ++ rest))

/-- An escaped character stands for itself. -/
theorem isPart_escaped (hunicode : modes.unicode = true)
    (hmeta : Escape.isMeta c = true) :
    IsPart modes 2 ['\\', c] (.set (charSet modes c)) := by
  refine isPart_of_atom rfl
    (fun pos => Escape.literal pos (pos + 2) c false) (fun pos rest => ?_)
    (fun _ => rfl) (fun pos => shallow_literal _ _ c)
    (fun pos => tree_literal hunicode _ _ c)
  have hmem : c ∈ Escape.metaCharacters := List.contains_iff_mem.1 hmeta
  simp only [Escape.metaCharacters, List.mem_cons, List.not_mem_nil, or_false] at hmem
  rcases hmem with rfl | rfl | rfl | rfl | rfl | rfl | rfl | rfl | rfl | rfl |
    rfl | rfl | rfl | rfl | rfl | rfl | rfl | rfl <;> rfl

theorem isPart_dot (hunicode : modes.unicode = true)
    (hcrlf : modes.crlf = false) :
    IsPart modes 2 ['.'] (.set (if modes.dotMatchesNewLine then .any
      else .allBut '\n')) := by
  refine isPart_of_atom rfl (fun pos => .dot ⟨pos, pos + 1⟩) (fun _ _ => rfl)
    (fun _ => rfl) (fun pos depth _ => ?_) (fun pos => ?_)
  · rw [Nesting.firstTooDeep]
  · rw [Meaning.tree, Meaning.dot, hunicode, hcrlf]
    cases modes.dotMatchesNewLine <;> rfl

/-- A class with a letter of its own means its set. -/
theorem isPart_shorthand {letter : Char} (kind : Shorthand) (negated : Bool)
    (hunicode : modes.unicode = true)
    (hatom : ∀ pos rest, Reading.atom false pos '\\' (letter :: rest) =
      .ok (.shorthand ⟨pos, pos + 2⟩ kind negated, pos + 2)) :
    IsPart modes 2 ['\\', letter]
      (.set (.negating negated (Meaning.shorthandSet true kind))) := by
  refine isPart_of_atom rfl (fun pos => .shorthand ⟨pos, pos + 2⟩ kind negated)
    hatom (fun _ => rfl) (fun pos depth _ => ?_) (fun pos => ?_)
  · rw [Nesting.firstTooDeep]
  · rw [Meaning.tree, Meaning.shorthand, hunicode]
    cases negated <;> rfl

end Parts

/-! ## Bracketed classes -/

namespace ClassReading

section Inside

variable {opened next : Opened} {outer outer' : List Opened} {pos : Nat}
  {c : Char} {rest : Text}

/-- What a step reads inside a class is passed, and the reading goes on behind it. -/
theorem inside_of_more (taken : Text)
    (hstep : step false opened outer pos c (taken ++ rest) =
      .ok (.more next outer' (pos + (c :: taken).length))) :
    inside false opened outer pos (c :: taken ++ rest) =
      inside false next outer' (pos + (c :: taken).length) rest := by
  rw [inside]
  split
  case h_1 _ hskip =>
    rw [Cursor.skip_false] at hskip
    cases hskip
  case h_2 _ _ _ hskip =>
    rw [Cursor.skip_false] at hskip
    cases hskip
    have hdrop : pos + (c :: taken).length - (pos + 1) = taken.length := by
      rw [List.length_cons]
      omega
    simp only [List.append_eq, hstep]
    rw [hdrop, List.drop_left]

theorem inside_bracket (opened : Opened) (pos : Nat) (rest : Text) :
    inside false opened [] pos (']' :: rest) =
      .ok (.bracketed ⟨opened.span.start, pos + 1⟩ opened.negated opened.tree,
        pos + 1) := by
  rw [inside]
  split
  case h_1 _ hskip =>
    rw [Cursor.skip_false] at hskip
    cases hskip
  case h_2 _ _ _ hskip =>
    rw [Cursor.skip_false] at hskip
    cases hskip
    rfl

/-- Whether a character inside a class stands for itself. -/
def standsForItself (c : Char) : Bool :=
  !(['[', ']', '\\', '^', '-', '&', '~'].contains c)

theorem inside_range {low high : Char} (hlow : standsForItself low = true)
    (hhigh : standsForItself high = true) (hle : low ≤ high) :
    inside false opened outer pos (low :: '-' :: high :: rest) =
      inside false (opened.push (.range ⟨pos, pos + 3⟩
        ⟨⟨pos, pos + 1⟩, low, false⟩ ⟨⟨pos + 2, pos + 3⟩, high, false⟩)) outer
        (pos + 3) rest := by
  refine inside_of_more ['-', high] ?_
  simp only [standsForItself, List.contains_eq_mem, List.mem_cons,
    List.not_mem_nil, or_false, Bool.not_eq_true', decide_eq_false_iff_not,
    not_or] at hlow hhigh
  have hordered : ¬ high < low := Char.not_lt.2 hle
  have hsingle : '-' ≠ low := fun heq => hlow.2.2.2.2.1 heq.symm
  simp [step, hlow, hhigh, hordered, hsingle, memberOrRange, member, afterHyphen, bind,
    Except.bind, pure, Except.pure, rangeEnd, Escape.literal, Tree.span]

/-- A character that no range can begin with is a member. -/
theorem inside_literal {d : Char} (hc : c ≠ '[' ∧ c ≠ ']' ∧ c ≠ '\\') (hne : d ≠ c)
    (hrange : d ≠ '-' ∨ rest.head? = some ']') :
    inside false opened outer pos (c :: d :: rest) =
      inside false (opened.push (plainLiteral pos c)) outer (pos + 1)
        (d :: rest) := by
  refine inside_of_more [] ?_
  have hmember : ¬ d = '-' ∨ rest.head? = some ']' := hrange
  simp [step, hc, hne, hmember, memberOrRange, member, afterHyphen, bind,
    Except.bind, pure, Except.pure, item, Escape.literal, plainLiteral]

theorem inside_blank {d : Char} (hrange : d ≠ '-') :
    inside false opened outer pos ('\\' :: 's' :: d :: rest) =
      inside false (opened.push (.shorthand ⟨pos, pos + 2⟩ .blank false)) outer
        (pos + 2) (d :: rest) := by
  refine inside_of_more ['s'] ?_
  have hescape : Escape.read false pos ('s' :: d :: rest) =
      .ok (.shorthand ⟨pos, pos + 2⟩ .blank false, pos + 2) := rfl
  simp [step, hescape, hrange, memberOrRange, member, bind, Except.bind, pure,
    Except.pure, item]

def Opened.start (pos : Nat) (negated : Bool) (first : Nat) : Opened :=
  ⟨⟨pos, first⟩, negated, none, .empty first⟩

/-- A bracket before a character that stands for itself opens a class. -/
theorem read_plain (hc : standsForItself c = true) :
    read false pos (c :: rest) =
      inside false (.start pos false (pos + 1)) [] (pos + 1) (c :: rest) := by
  simp only [standsForItself, List.contains_eq_mem, List.mem_cons,
    List.not_mem_nil, or_false, Bool.not_eq_true', decide_eq_false_iff_not,
    not_or] at hc
  have hhyphens (row : Row) (pos : Nat) :
      leadingHyphens false pos row ⟨pos + 1, c :: rest⟩ =
        .ok (row, ⟨pos + 1, c :: rest⟩) := by
    rw [leadingHyphens, if_neg hc.2.2.2.2.1]
  simp [read, opening, hc, hhyphens, bind, Except.bind, pure, Except.pure,
    Opened.start]

end Inside

end ClassReading

section Classes

variable {modes : Modes} {set : CharSet}

/-- A class with members that nest nothing is a part. -/
theorem isPart_class {inside : Text} (negated : Bool) (tree : Nat → ClassTree)
    (hunicode : modes.unicode = true)
    (hread : ∀ pos rest, ClassReading.read false pos (inside ++ rest) =
      .ok (.bracketed ⟨pos, pos + ('[' :: inside).length⟩ negated (tree pos),
        pos + ('[' :: inside).length))
    (hshallow : ∀ pos depth, depth + 1 ≤ Nesting.limit →
      Nesting.firstTooDeepInClass depth (tree pos) = none)
    (hset : ∀ pos, Meaning.classSet modes (tree pos) = .ok set) :
    IsPart modes 2 ('[' :: inside)
      (.set (.negating negated (Meaning.fold modes set))) := by
  refine isPart_of_atom rfl (fun pos => .bracketed
      ⟨pos, pos + ('[' :: inside).length⟩ negated (tree pos)) hread
    (fun _ => rfl) (fun pos depth hdepth => ?_) (fun pos => ?_)
  · rw [Nesting.firstTooDeep, if_neg (by omega)]
    exact hshallow pos (depth + 1) (by omega)
  · rw [Meaning.tree, hset pos]
    simp only [bind, Except.bind, Meaning.foldAndNegate, hunicode, Bool.not_true,
      Bool.and_false, Bool.false_eq_true, if_false]
    rfl

theorem member_of_unicode (hunicode : modes.unicode = true) (literal : Literal) :
    Meaning.member modes literal = .ok literal.char := by
  rw [Meaning.member, hunicode]
  rfl

/-- A class of one range means that range. -/
theorem isPart_range (hunicode : modes.unicode = true) {low high : Char}
    (hlow : ClassReading.standsForItself low = true)
    (hhigh : ClassReading.standsForItself high = true) (hle : low ≤ high) :
    IsPart modes 2 ['[', low, '-', high, ']']
      (.set (Meaning.fold modes (.range low high))) := by
  refine isPart_class false (fun pos => .range ⟨pos + 1, pos + 4⟩
      ⟨⟨pos + 1, pos + 2⟩, low, false⟩ ⟨⟨pos + 3, pos + 4⟩, high, false⟩)
    hunicode (fun pos rest => ?_) (fun pos depth _ => ?_) (fun pos => ?_)
  · calc
      _ = ClassReading.inside false (.start pos false (pos + 1)) [] (pos + 1)
          (low :: '-' :: high :: ']' :: rest) := ClassReading.read_plain hlow
      _ = _ := ClassReading.inside_range hlow hhigh hle
      _ = _ := ClassReading.inside_bracket _ _ rest
  · rw [Nesting.firstTooDeepInClass]
  · rw [Meaning.classSet, member_of_unicode hunicode, member_of_unicode hunicode]
    rfl

/-- The letters of both cases. -/
theorem isPart_letters (hunicode : modes.unicode = true) :
    IsPart modes 2 ['[', 'A', '-', 'Z', 'a', '-', 'z', ']']
      (.set (Meaning.fold modes ((CharSet.range 'A' 'Z').union (.range 'a' 'z')))) := by
  refine isPart_class false (fun pos => .union ⟨pos + 1, pos + 7⟩
      [.range ⟨pos + 1, pos + 4⟩
        ⟨⟨pos + 1, pos + 2⟩, 'A', false⟩ ⟨⟨pos + 3, pos + 4⟩, 'Z', false⟩,
      .range ⟨pos + 4, pos + 7⟩
        ⟨⟨pos + 4, pos + 5⟩, 'a', false⟩ ⟨⟨pos + 6, pos + 7⟩, 'z', false⟩])
    hunicode (fun pos rest => ?_) (fun pos depth hdepth => ?_) (fun pos => ?_)
  · have hupper : 'A' ≤ 'Z' := by decide
    have hlower : 'a' ≤ 'z' := by decide
    calc
      _ = ClassReading.inside false (.start pos false (pos + 1)) [] (pos + 1)
          ("A-Za-z]".toList ++ rest) := ClassReading.read_plain rfl
      _ = _ := ClassReading.inside_range rfl rfl hupper
      _ = _ := ClassReading.inside_range rfl rfl hlower
      _ = _ := ClassReading.inside_bracket _ _ rest
  · rw [Nesting.firstTooDeepInClass, if_neg (by omega)]
    simp only [Nesting.firstTooDeepInClasses, Nesting.firstTooDeepInClass]
    rfl
  · simp only [Meaning.classSet, Meaning.classUnion, member_of_unicode hunicode]
    rfl

/-- A hyphen before the closing bracket stands for itself. -/
theorem isPart_sign (hunicode : modes.unicode = true) :
    IsPart modes 2 ['[', '+', '-', ']']
      (.set (Meaning.fold modes ((CharSet.single '+').union (.single '-')))) := by
  refine isPart_class false (fun pos => .union ⟨pos + 1, pos + 3⟩
      [.literal ⟨⟨pos + 1, pos + 2⟩, '+', false⟩,
        .literal ⟨⟨pos + 2, pos + 3⟩, '-', false⟩])
    hunicode (fun pos rest => ?_) (fun pos depth hdepth => ?_) (fun pos => ?_)
  · calc
      _ = ClassReading.inside false (.start pos false (pos + 1)) [] (pos + 1)
          ('+' :: '-' :: ']' :: rest) := ClassReading.read_plain rfl
      _ = _ := ClassReading.inside_literal (by decide) (by decide) (Or.inr rfl)
      _ = _ := ClassReading.inside_literal (by decide) (by decide)
        (Or.inl (by decide))
      _ = _ := ClassReading.inside_bracket _ _ rest
  · rw [Nesting.firstTooDeepInClass, if_neg (by omega)]
    simp only [Nesting.firstTooDeepInClasses, Nesting.firstTooDeepInClass]
    rfl
  · simp only [Meaning.classSet, Meaning.classUnion, member_of_unicode hunicode]
    rfl

/-- Everything but blanks and quotation marks. -/
theorem isPart_path (hunicode : modes.unicode = true) :
    IsPart modes 2 ['[', '^', '\\', 's', '"', ']']
      (.set (.compl (Meaning.fold modes (CharSet.blank.union (.single '"'))))) := by
  refine isPart_class true (fun pos => .union ⟨pos + 2, pos + 5⟩
      [.shorthand ⟨pos + 2, pos + 4⟩ .blank false,
        .literal ⟨⟨pos + 4, pos + 5⟩, '"', false⟩])
    hunicode (fun pos rest => ?_) (fun pos depth hdepth => ?_) (fun pos => ?_)
  · calc
      _ = ClassReading.inside false (.start pos true (pos + 2)) [] (pos + 2)
          ('\\' :: 's' :: '"' :: ']' :: rest) := by
        simp [ClassReading.read, ClassReading.opening, ClassReading.leadingHyphens,
          bind, Except.bind, pure, Except.pure, ClassReading.Opened.start]
      _ = _ := ClassReading.inside_blank (by decide)
      _ = _ := ClassReading.inside_literal (by decide) (by decide)
        (Or.inl (by decide))
      _ = _ := ClassReading.inside_bracket _ _ rest
  · rw [Nesting.firstTooDeepInClass, if_neg (by omega)]
    simp only [Nesting.firstTooDeepInClasses, Nesting.firstTooDeepInClass]
    rfl
  · simp only [Meaning.classSet, Meaning.classUnion, member_of_unicode hunicode,
      Meaning.shorthand, hunicode]
    rfl

end Classes

end PatternWorkbench.Pattern
