import PatternWorkbench.Proofs.Pattern.Bare
import PatternWorkbench.Proofs.Pattern.Feature
import PatternWorkbench.Proofs.Pattern.PropertyName
import PatternWorkbench.Proofs.Unicode.Ascii

/-!
# How far a part extends

A reader that succeeds has passed a stretch of the pattern that can be told by
its characters alone.  Behind the first two characters of an escape sequence, and
in the bounds of a repetition, there are no delimiters; a group opens with a name
up to its angle bracket or with letters for flags.
-/

namespace PatternWorkbench.Pattern

theorem of_guarded_eq_ok {Value : Type} {p : Prop} [Decidable p] {cause : Cause}
    {start stop : Nat} {reading : Except Diagnostic Value} {value : Value}
    (hguarded : (if p then fail cause start stop else reading) = .ok value) :
    ¬ p ∧ reading = .ok value := by
  split at hguarded
  case isTrue => simp [fail] at hguarded
  case isFalse hp => exact ⟨hp, hguarded⟩

/-! ## Passing characters -/

/-- The cursor `after` is behind `text`, and `before` in front of it. -/
structure Cursor.Passes (before : Cursor) (text : Text) (after : Cursor) : Prop where
  rest_eq : before.rest = text ++ after.rest
  pos_eq : after.pos = before.pos + text.length

namespace Cursor

variable {before between after : Cursor} {text first second : Text}

theorem Passes.refl (cursor : Cursor) : cursor.Passes [] cursor :=
  ⟨rfl, rfl⟩

theorem Passes.trans (hfirst : before.Passes first between)
    (hsecond : between.Passes second after) :
    before.Passes (first ++ second) after where
  rest_eq := by rw [hfirst.rest_eq, hsecond.rest_eq, List.append_assoc]
  pos_eq := by
    rw [hsecond.pos_eq, hfirst.pos_eq, List.length_append, Nat.add_assoc]

theorem Passes.cons {pos : Nat} {c : Char} {rest : Text}
    (hpasses : Passes ⟨pos + 1, rest⟩ text after) :
    Passes ⟨pos, c :: rest⟩ (c :: text) after where
  rest_eq := by rw [List.cons_append, ← hpasses.rest_eq]
  pos_eq := by
    rw [hpasses.pos_eq, List.length_cons, Nat.add_right_comm, Nat.add_assoc]

theorem Passes.snoc {pos : Nat} {c : Char} {rest : Text}
    (hpasses : before.Passes text ⟨pos, c :: rest⟩) :
    before.Passes (text ++ [c]) ⟨pos + 1, rest⟩ :=
  hpasses.trans (.cons (.refl _))

theorem Passes.drop_eq (hpasses : before.Passes text after) :
    before.rest.drop (after.pos - before.pos) = after.rest := by
  rw [hpasses.rest_eq, hpasses.pos_eq, Nat.add_sub_cancel_left, List.drop_left]

/-- What is collected is passed, and what follows it does not belong to it. -/
theorem passes_collect {p : Char → Bool} {cursor : Cursor} {taken : Text}
    (hcollect : collect false p cursor = (taken, after)) :
    cursor.Passes taken after ∧ (∀ c ∈ taken, p c = true) ∧
      ∀ c ∈ after.rest.head?, p c = false := by
  fun_induction collect false p cursor generalizing taken with
  | case1 pos =>
      obtain ⟨rfl, rfl⟩ := Prod.mk.inj hcollect
      exact ⟨.refl _, by simp, by simp⟩
  | case2 pos c rest hc others last hothers ih =>
      obtain ⟨rfl, rfl⟩ := Prod.mk.inj hcollect
      obtain ⟨hpasses, hall, hhead⟩ := ih hothers
      exact ⟨hpasses.cons, List.forall_mem_cons.2 ⟨hc, hall⟩, hhead⟩
  | case3 pos c rest hc =>
      obtain ⟨rfl, rfl⟩ := Prod.mk.inj hcollect
      exact ⟨.refl _, by simp, by simpa using hc⟩

/-- The cursor behind the blanks that a text begins with. -/
theorem passes_blanks (cursor : Cursor) :
    cursor.Passes (cursor.rest.takeWhile Unicode.isBlank)
      ⟨cursor.pos + (cursor.rest.takeWhile Unicode.isBlank).length,
        cursor.rest.drop (cursor.rest.takeWhile Unicode.isBlank).length⟩ where
  rest_eq := (List.prefix_iff_eq_append.1 (List.takeWhile_prefix _)).symm
  pos_eq := rfl

theorem skipSpaces_false (cursor : Cursor) :
    cursor.skipSpaces false =
      ⟨cursor.pos + (cursor.rest.takeWhile Unicode.isBlank).length,
        cursor.rest.drop (cursor.rest.takeWhile Unicode.isBlank).length⟩ := by
  simp [skipSpaces]

end Cursor

/-! ## Characters that are no delimiters -/

section Delimiters

variable {c : Char}

theorem isDelimiter_of_isHex (hhex : Escape.isHex c = true) :
    isDelimiter c = false := by
  rw [Bool.eq_false_iff]
  intro hdelimiter
  rcases eq_of_isDelimiter hdelimiter with
      rfl | rfl | rfl | rfl | rfl <;>
    exact absurd hhex (by decide)

theorem isDelimiter_of_isBoundaryLetter (hletter : Escape.isBoundaryLetter c = true) :
    isDelimiter c = false := by
  rw [Bool.eq_false_iff]
  intro hdelimiter
  rcases eq_of_isDelimiter hdelimiter with
      rfl | rfl | rfl | rfl | rfl <;>
    exact absurd hletter (by decide)

theorem isDelimiter_of_isDigit (hdigit : c.isDigit = true) : isDelimiter c = false :=
  isDelimiter_of_isHex (by rw [Escape.isHex, hdigit]; rfl)

theorem isDelimiter_of_isBlank (hblank : Unicode.isBlank c = true) :
    isDelimiter c = false := by
  rw [Bool.eq_false_iff]
  intro hdelimiter
  rw [Unicode.isBlank_eq_has] at hblank
  rcases eq_of_isDelimiter hdelimiter with
      rfl | rfl | rfl | rfl | rfl <;>
    exact absurd hblank (by decide)

end Delimiters

/-! ## Escape sequences -/

namespace Escape

def Answered (tree : Tree) : Prop :=
  ∀ query, .query query ∈ tree.features → query.IsKnown

def IsLeaf (tree : Tree) : Prop :=
  ∃ queries : List PropertyQuery, tree.features = queries.map .query

variable {start stop width : Nat} {cursor after : Cursor} {tree : Tree} {rest : Text}

theorem passes_hexDigits {digits : Text}
    (hdigits : hexDigits false width cursor = .ok (digits, after)) :
    cursor.Passes digits after ∧ IsLegible digits := by
  induction width generalizing cursor digits with
  | zero =>
      obtain ⟨rfl, rfl⟩ := Prod.mk.inj (Except.ok.inj hdigits)
      exact ⟨.refl _, isLegible_nil⟩
  | succ width ih =>
      obtain ⟨pos, rest⟩ := cursor
      cases rest with
      | nil => simp [hexDigits, fail] at hdigits
      | cons c rest =>
          rw [hexDigits] at hdigits
          split at hdigits
          case isFalse => simp [fail] at hdigits
          case isTrue hc =>
            obtain ⟨⟨others, last⟩, hothers, hsame⟩ := bind_eq_ok_iff.1 hdigits
            obtain ⟨rfl, rfl⟩ := Prod.mk.inj (Except.ok.inj hsame)
            obtain ⟨hpasses, hall⟩ := ih hothers
            exact ⟨hpasses.cons, isLegible_cons.2 ⟨isDelimiter_of_isHex hc, hall⟩⟩

/-- A reading of an escape sequence that goes on from `cursor` to `stop`. -/
def Extends (cursor : Cursor) (tree : Tree) (stop : Nat) : Prop :=
  IsLeaf tree ∧ (Answered tree → ∃ tail after, cursor.Passes tail ⟨stop, after⟩ ∧
    IsLegible tail)

theorem extends_bracedHex {brace : Nat}
    (hread : bracedHex false start brace cursor = .ok (tree, stop)) :
    Extends cursor tree stop := by
  unfold bracedHex at hread
  rcases hcollect : Cursor.collect false isHex cursor with ⟨digits, last⟩
  obtain ⟨hpasses, hall, _⟩ := Cursor.passes_collect hcollect
  have hdigits : IsLegible digits := fun d hd => isDelimiter_of_isHex (hall d hd)
  simp only [hcollect, Cursor.skip_false] at hread
  obtain ⟨pos, ending⟩ := last
  split at hread
  case h_1 => simp [fail] at hread
  case h_2 rest hrest =>
    obtain rfl : ending = '}' :: rest := hrest
    split at hread
    case isTrue => simp [fail] at hread
    case isFalse =>
      split at hread
      case h_1 => simp [fail] at hread
      case h_2 =>
        obtain ⟨rfl, rfl⟩ := Prod.mk.inj (Except.ok.inj hread)
        exact ⟨⟨[], rfl⟩, fun _ => ⟨_, rest, hpasses.snoc,
          isLegible_append.2 ⟨hdigits, by decide⟩⟩⟩
  case h_3 => simp [fail] at hread

/-- Behind an opening brace it goes on with what is inside the braces. -/
theorem Extends.braced {pos : Nat} (hinside : Extends ⟨pos + 1, rest⟩ tree stop) :
    Extends ⟨pos, '{' :: rest⟩ tree stop := by
  refine ⟨hinside.1, fun hanswered => ?_⟩
  obtain ⟨tail, after, hpasses, htail⟩ := hinside.2 hanswered
  exact ⟨_, after, hpasses.cons, isLegible_cons.2 ⟨rfl, htail⟩⟩

/-- A hexadecimal escape passes the text up to its end. -/
theorem extends_hex (hread : hex false start width cursor = .ok (tree, stop)) :
    Extends cursor tree stop := by
  obtain ⟨pos, rest⟩ := cursor
  unfold hex at hread
  split at hread
  case h_1 => simp [fail] at hread
  case h_2 rest' hrest =>
    obtain rfl : rest = '{' :: rest' := hrest
    exact (extends_bracedHex hread).braced
  case h_3 =>
    obtain ⟨⟨digits, last⟩, hdigits, hchar⟩ := bind_eq_ok_iff.1 hread
    obtain ⟨hpasses, hall⟩ := passes_hexDigits hdigits
    simp only at hchar
    split at hchar
    case h_1 => simp [fail] at hchar
    case h_2 =>
      obtain ⟨rfl, rfl⟩ := Prod.mk.inj (Except.ok.inj hchar)
      exact ⟨⟨[], rfl⟩, fun _ => ⟨digits, last.rest, hpasses, hall⟩⟩

theorem extends_property {negated : Bool}
    (hread : property false start negated cursor = .ok (tree, stop)) :
    Extends cursor tree stop := by
  obtain ⟨pos, rest⟩ := cursor
  unfold property at hread
  split at hread
  case h_1 => simp [fail] at hread
  case h_2 rest' hrest =>
    obtain rfl : rest = '{' :: rest' := hrest
    rcases hcollect : Cursor.collect false (· != '}') ⟨pos + 1, rest'⟩ with
      ⟨inside, last⟩
    obtain ⟨hpasses, _, hhead⟩ := Cursor.passes_collect hcollect
    simp only [Cursor.skip_false, hcollect] at hread
    obtain ⟨stop', ending⟩ := last
    cases ending with
    | nil => simp [fail] at hread
    | cons d ending =>
        obtain rfl : d = '}' := by simpa using hhead d rfl
        obtain ⟨rfl, rfl⟩ := Prod.mk.inj (Except.ok.inj hread)
        refine Extends.braced ⟨⟨[(query inside).1], rfl⟩, fun hanswered => ?_⟩
        obtain ⟨set, hset⟩ := hanswered _ (List.mem_singleton.2 rfl)
        exact ⟨_, ending, hpasses.snoc,
          isLegible_append.2 ⟨legible_of_query hset, by decide⟩⟩
  case h_3 c rest' _ hrest =>
    obtain rfl : rest = c :: rest' := hrest
    split at hread
    case isTrue => simp [fail] at hread
    case isFalse =>
      obtain ⟨rfl, rfl⟩ := Prod.mk.inj (Except.ok.inj hread)
      refine ⟨⟨[.plain [c]], rfl⟩, fun hanswered => ?_⟩
      obtain ⟨set, hset⟩ := hanswered _ (List.mem_singleton.2 rfl)
      exact ⟨[c], rest', .cons (.refl _), PropertyQuery.legible_of_lookup hset⟩

theorem extends_boundary
    (hread : boundary false start rest = .ok (tree, stop)) :
    Extends ⟨start + 2, rest⟩ tree stop := by
  have hplain : Extends ⟨start + 2, rest⟩
      (.assertion ⟨start, start + 2⟩ .wordBoundary) (start + 2) :=
    ⟨⟨[], rfl⟩, fun _ => ⟨[], rest, .refl _, isLegible_nil⟩⟩
  unfold boundary at hread
  split at hread
  case h_2 =>
    obtain ⟨rfl, rfl⟩ := Prod.mk.inj (Except.ok.inj hread)
    exact hplain
  case h_1 inside =>
    simp only [Cursor.skip_false] at hread
    split at hread
    case h_1 => simp [fail] at hread
    case h_2 c others =>
      split at hread
      case isFalse =>
        obtain ⟨rfl, rfl⟩ := Prod.mk.inj (Except.ok.inj hread)
        exact hplain
      case isTrue =>
        rcases hcollect : Cursor.collect false isBoundaryLetter
          ⟨start + 3, c :: others⟩ with ⟨name, last⟩
        obtain ⟨hpasses, hall, _⟩ := Cursor.passes_collect hcollect
        have hname : IsLegible name := fun d hd =>
          isDelimiter_of_isBoundaryLetter (hall d hd)
        simp only [hcollect] at hread
        obtain ⟨stop', ending⟩ := last
        split at hread
        case h_2 => simp [fail] at hread
        case h_1 after hafter =>
          obtain rfl : ending = '}' :: after := hafter
          split at hread
          case h_2 => simp [fail] at hread
          case h_1 =>
            obtain ⟨rfl, rfl⟩ := Prod.mk.inj (Except.ok.inj hread)
            exact Extends.braced ⟨⟨[], rfl⟩, fun _ => ⟨_, after, hpasses.snoc,
              isLegible_append.2 ⟨hname, by decide⟩⟩⟩

/-- An escape sequence goes on behind its first two characters without
delimiters. -/
theorem extends_read {c : Char}
    (hread : Escape.read false start (c :: rest) = .ok (tree, stop)) :
    Extends ⟨start + 2, rest⟩ tree stop := by
  have hshort {leaf : Tree} (hleaf : IsLeaf leaf)
      (hsame : (.ok (leaf, start + 2) : Except Diagnostic (Tree × Nat)) =
        .ok (tree, stop)) : Extends ⟨start + 2, rest⟩ tree stop := by
    obtain ⟨rfl, rfl⟩ := Prod.mk.inj (Except.ok.inj hsame)
    exact ⟨hleaf, fun _ => ⟨[], rest, .refl _, isLegible_nil⟩⟩
  rw [Escape.read] at hread
  simp only [Cursor.skip_false] at hread
  split at hread
  · simp [fail] at hread
  split at hread
  · exact extends_hex hread
  split at hread
  · exact extends_hex hread
  split at hread
  · exact extends_hex hread
  split at hread
  · exact extends_property hread
  split at hread
  · exact extends_property hread
  split at hread
  · exact extends_boundary hread
  split at hread
  · exact hshort ⟨[], rfl⟩ hread
  split at hread
  · exact hshort ⟨[], rfl⟩ hread
  split at hread
  · exact hshort ⟨[], rfl⟩ hread
  split at hread
  · exact hshort ⟨[], rfl⟩ hread
  · simp [fail] at hread

end Escape

/-! ## Repetitions -/

namespace RepetitionReading

variable {start : Nat} {cursor after : Cursor} {operator : Operator} {rest : Text}

theorem passes_count {value : Except Diagnostic Nat}
    (hcount : count false cursor = (value, after)) :
    ∃ text, cursor.Passes text after ∧ IsLegible text := by
  unfold count at hcount
  rcases hcollect : Cursor.collect false Char.isDigit
    ⟨cursor.pos + (cursor.rest.takeWhile Unicode.isBlank).length,
      cursor.rest.drop (cursor.rest.takeWhile Unicode.isBlank).length⟩ with
    ⟨digits, last⟩
  obtain ⟨hdigits, hall, _⟩ := Cursor.passes_collect hcollect
  have hbefore := Cursor.passes_blanks cursor
  have hafter := Cursor.passes_blanks last
  have hblanks (text : Text) : IsLegible (text.takeWhile Unicode.isBlank) := fun c hc =>
    isDelimiter_of_isBlank (List.all_eq_true.1 List.all_takeWhile c hc)
  simp only [hcollect, Cursor.skipSpaces_false] at hcount
  obtain ⟨_, rfl⟩ := Prod.mk.inj hcount
  refine ⟨_, (hbefore.trans hdigits).trans hafter, isLegible_append.2
    ⟨isLegible_append.2 ⟨hblanks _, fun c hc => isDelimiter_of_isDigit (hall c hc)⟩,
      hblanks _⟩⟩

/-- Behind the cursor the operator goes on without delimiters. -/
def Completes (cursor : Cursor) (stop : Nat) : Prop :=
  ∃ tail after, cursor.Passes tail ⟨stop, after⟩ ∧ IsLegible tail

theorem Completes.before {before : Cursor} {text : Text} {stop : Nat}
    (hcursor : Completes cursor stop) (hpasses : before.Passes text cursor)
    (htext : IsLegible text) : Completes before stop := by
  obtain ⟨tail, after, htail, hlegible⟩ := hcursor
  exact ⟨_, after, hpasses.trans htail, isLegible_append.2 ⟨htext, hlegible⟩⟩

/-- At most a question mark belongs to an operator behind its mark or its
bounds. -/
theorem completes_mark (pos : Nat) (rest : Text) :
    Completes ⟨pos, rest⟩ (if rest.head? = some '?' then pos + 1 else pos) := by
  split
  case isTrue hmark =>
    obtain ⟨after, rfl⟩ := List.head?_eq_some_iff.1 hmark
    exact ⟨['?'], after, .cons (.refl _), by decide⟩
  case isFalse => exact ⟨[], rest, .refl _, isLegible_nil⟩

theorem completes_ofMark (counts : Counts) (pos : Nat) (rest : Text) :
    Completes ⟨pos + 1, rest⟩ (ofMark counts pos rest).stop := by
  have hmark := completes_mark (pos + 1) rest
  unfold ofMark
  split
  case isTrue hlazy => rwa [if_pos hlazy] at hmark
  case isFalse hgreedy => rwa [if_neg hgreedy] at hmark

/-- Behind its counts an operator goes on without delimiters. -/
theorem completes_finish {counts : Counts}
    (hfinish : counted.finish start counts cursor = .ok operator) :
    Completes cursor operator.stop := by
  have hmark := completes_mark cursor.pos cursor.rest
  obtain ⟨_, hsame⟩ := of_guarded_eq_ok hfinish
  rw [← Except.ok.inj hsame]
  by_cases hlazy : cursor.rest.head? = some '?'
  · simpa [hlazy] using hmark
  · simpa [hlazy] using hmark

/-- The closing brace is passed, and what belongs to the operator behind it. -/
theorem completes_brace {counts : Counts} {pos : Nat}
    (hfinish : counted.finish start counts ⟨pos + 1, rest⟩ = .ok operator) :
    Completes ⟨pos, '}' :: rest⟩ operator.stop :=
  (completes_finish hfinish).before (.cons (.refl _)) (by decide)

theorem completes_close {counts : Counts}
    (hclose : counted.close false start counts cursor = .ok operator) :
    Completes cursor operator.stop := by
  obtain ⟨pos, ending⟩ := cursor
  unfold counted.close at hclose
  split at hclose
  case h_1 after hbrace =>
    obtain rfl : ending = '}' :: after := hbrace
    exact completes_brace hclose
  case h_2 => simp [fail] at hclose

/-- A counted operator has no delimiters behind its opening brace. -/
theorem completes_counted (hread : counted false start rest = .ok operator) :
    Completes ⟨start + 1, rest⟩ operator.stop := by
  unfold counted at hread
  rcases hlow : count false ⟨start + 1, rest⟩ with ⟨low, middle⟩
  obtain ⟨digits, hpasses, hdigits⟩ := passes_count hlow
  simp only [Cursor.skip_false, hlow] at hread
  split at hread
  · simp [fail] at hread
  obtain ⟨pos, ending⟩ := middle
  refine Completes.before ?_ hpasses hdigits
  split at hread
  case h_1 => simp [fail] at hread
  case h_2 after hcomma =>
    obtain rfl : ending = ',' :: after := hcomma
    refine Completes.before ?_ (.cons (.refl _)) (by decide : IsLegible [','])
    split at hread
    case h_1 => simp [fail] at hread
    case h_2 ending =>
      obtain ⟨least, _, hfinish⟩ := bind_eq_ok_iff.1 hread
      exact completes_brace hfinish
    case h_3 =>
      obtain ⟨least, _, hread⟩ := bind_eq_ok_iff.1 hread
      rcases hhigh : RepetitionReading.count false ⟨pos + 1, after⟩ with ⟨high, last⟩
      obtain ⟨others, hothers, hlegible⟩ := passes_count hhigh
      simp only [hhigh] at hread
      obtain ⟨most, _, hclose⟩ := bind_eq_ok_iff.1 hread
      exact (completes_close hclose).before hothers hlegible
  case h_3 =>
    obtain ⟨times, _, hclose⟩ := bind_eq_ok_iff.1 hread
    exact completes_close hclose

end RepetitionReading

/-! ## Openings of groups -/

namespace GroupReading

/-- A letter for a flag, or the hyphen between those that are switched on and
those that are switched off. -/
def isFlagLetter (c : Char) : Bool :=
  c == '-' || (flag? c).isSome

/-- The name of a group as far as its end and its beginning are told by it. -/
structure IsGroupName (name : Text) : Prop where
  ne_nil : name ≠ []
  not_mem : '>' ∉ name
  head_ne : ∀ c ∈ name.head?, c ≠ '=' ∧ c ≠ '!'

/-- What can follow the parenthesis at `start`, and where the reading goes on. -/
inductive Opens (start : Nat) (rest : Text) : Opening → Nat → Prop where
  | numbered (hrest : rest.head? ≠ some '?') : Opens start rest .numbered (start + 1)
  | named {sign name after : Text} {span : Span} {stop : Nat}
      (hsign : sign = ['?', '<'] ∨ sign = ['?', 'P', '<']) (hname : IsGroupName name)
      (hpasses : Cursor.Passes ⟨start + 1, rest⟩ (sign ++ name ++ ['>']) ⟨stop, after⟩) :
      Opens start rest (.named name span) stop
  | setFlags {letters after : Text} {span : Span} {items : FlagItems} {stop : Nat}
      (hletters : ∀ c ∈ letters, isFlagLetter c = true)
      (hpasses : Cursor.Passes ⟨start + 1, rest⟩ ('?' :: (letters ++ [')']))
        ⟨stop, after⟩) :
      Opens start rest (.setFlags span items) stop
  | plain {letters after : Text} {items : FlagItems} {stop : Nat}
      (hletters : ∀ c ∈ letters, isFlagLetter c = true)
      (hpasses : Cursor.Passes ⟨start + 1, rest⟩ ('?' :: (letters ++ [':']))
        ⟨stop, after⟩) :
      Opens start rest (.plain items) stop

variable {start pos stop length : Nat} {rest : Text}

theorem passes_nameLength {isFirst : Bool}
    (hlength : nameLength isFirst pos rest = .ok length) :
    ∃ after,
      Cursor.Passes ⟨pos, rest⟩ (rest.take length) ⟨pos + length, '>' :: after⟩ ∧
      '>' ∉ rest.take length ∧
      ∀ c ∈ (rest.take length).head?, isFirst = true → isNameStart c = true := by
  induction rest generalizing isFirst pos length with
  | nil => simp [nameLength, fail] at hlength
  | cons c rest ih =>
      rw [nameLength] at hlength
      split at hlength
      case isTrue hangle =>
        obtain rfl := Except.ok.inj hlength
        rw [hangle]
        exact ⟨rest, .refl _, by simp, by simp⟩
      case isFalse hangle =>
        generalize hallowed : (if isFirst = true then isNameStart c else isNameChar c) =
          allowed at hlength
        cases allowed with
        | false => simp [fail] at hlength
        | true =>
          obtain ⟨others, hothers, hsame⟩ := bind_eq_ok_iff.1 hlength
          obtain rfl := Except.ok.inj hsame
          obtain ⟨after, hpasses, hnone, _⟩ := ih hothers
          refine ⟨after, ?_, ?_, ?_⟩
          · rw [List.take_succ_cons, ← Nat.add_assoc, Nat.add_right_comm]
            exact hpasses.cons
          · rw [List.take_succ_cons, List.mem_cons, not_or]
            exact ⟨fun h => hangle h.symm, hnone⟩
          · intro d hd hfirst
            obtain rfl : c = d := by simpa using hd
            simpa [hfirst] using hallowed

theorem isNameStart_sign : isNameStart '=' = false ∧ isNameStart '!' = false := by
  decide +kernel

/-- A group name ends before its angle and has the form of a name. -/
theorem passes_name {name : Text} {span : Span}
    (hread : GroupReading.name pos rest = .ok (name, span)) :
    ∃ after, Cursor.Passes ⟨pos, rest⟩ name ⟨span.stop, '>' :: after⟩ ∧
      IsGroupName name := by
  obtain ⟨length, hlength, hread⟩ := bind_eq_ok_iff.1 hread
  split at hread
  case isTrue => simp [fail] at hread
  case isFalse hempty =>
    obtain ⟨rfl, rfl⟩ := Prod.mk.inj (Except.ok.inj hread)
    obtain ⟨after, hpasses, hnone, hstart⟩ := passes_nameLength hlength
    refine ⟨after, hpasses, ⟨fun hnil => ?_, hnone, fun c hc => ?_⟩⟩
    · have := hpasses.pos_eq
      rw [hnil] at this
      simp only [List.length_nil] at this
      omega
    · have hletter := hstart c hc rfl
      constructor <;> rintro rfl
      · simp [isNameStart_sign.1] at hletter
      · simp [isNameStart_sign.2] at hletter

theorem passes_flagItems {items settings : Items} {last : Char}
    (hread : flagItems items pos rest = .ok (settings, stop, last)) :
    ∃ letters after, Cursor.Passes ⟨pos, rest⟩ letters ⟨stop, last :: after⟩ ∧
      (∀ c ∈ letters, isFlagLetter c = true) ∧ (last = ':' ∨ last = ')') := by
  induction rest generalizing items pos with
  | nil => simp [flagItems, fail] at hread
  | cons c rest ih =>
      have hmore {others : Items} (hletter : isFlagLetter c = true)
          (hothers : flagItems others (pos + 1) rest = .ok (settings, stop, last)) :
          ∃ letters after, Cursor.Passes ⟨pos, c :: rest⟩ letters ⟨stop, last :: after⟩ ∧
            (∀ c ∈ letters, isFlagLetter c = true) ∧ (last = ':' ∨ last = ')') := by
        obtain ⟨letters, after, hpasses, hletters, hlast⟩ := ih hothers
        exact ⟨c :: letters, after, hpasses.cons,
          List.forall_mem_cons.2 ⟨hletter, hletters⟩, hlast⟩
      rw [flagItems] at hread
      split at hread
      case isTrue hend =>
        split at hread
        case h_1 => simp [fail] at hread
        case h_2 =>
          simp only [Except.ok.injEq, Prod.mk.injEq] at hread
          obtain ⟨rfl, rfl, rfl⟩ := hread
          exact ⟨[], rest, .refl _, by simp, by simpa using hend⟩
      case isFalse =>
        split at hread
        case isTrue hhyphen =>
          split at hread
          case h_1 => simp at hread
          case h_2 => exact hmore (by rw [hhyphen]; rfl) hread
        case isFalse =>
          split at hread
          case h_1 => simp at hread
          case h_2 flag hflag =>
            split at hread
            case h_1 => simp at hread
            case h_2 => exact hmore (by simp [isFlagLetter, hflag]) hread

/-- What opens a group is what the tokens take for its opening. -/
theorem opens_of_opening {opening : Opening}
    (hread : GroupReading.opening false start rest = .ok (opening, stop)) :
    Opens start rest opening stop := by
  unfold GroupReading.opening at hread
  simp only [Cursor.skip_false] at hread
  split at hread
  case h_1 => simp [fail] at hread
  case h_2 hlook =>
    split at hread
    case h_1 rest =>
      obtain ⟨⟨name, span⟩, hname, hsame⟩ := bind_eq_ok_iff.1 hread
      obtain ⟨rfl, rfl⟩ := Prod.mk.inj (Except.ok.inj hsame)
      obtain ⟨after, hpasses, hvalid⟩ := passes_name hname
      exact .named (Or.inr rfl) hvalid hpasses.cons.cons.cons.snoc
    case h_2 rest =>
      obtain ⟨⟨name, span⟩, hname, hsame⟩ := bind_eq_ok_iff.1 hread
      obtain ⟨rfl, rfl⟩ := Prod.mk.inj (Except.ok.inj hsame)
      obtain ⟨after, hpasses, hvalid⟩ := passes_name hname
      exact .named (Or.inl rfl) hvalid hpasses.cons.cons.snoc
    case h_3 => simp [fail] at hread
    case h_4 rest _ _ _ =>
      obtain ⟨⟨items, pos, last⟩, hitems, hread⟩ := bind_eq_ok_iff.1 hread
      obtain ⟨letters, after, hpasses, hletters, hlast⟩ := passes_flagItems hitems
      simp only at hread
      split at hread
      case isTrue hcolon =>
        obtain ⟨rfl, rfl⟩ := Prod.mk.inj (Except.ok.inj hread)
        rw [hcolon] at hpasses
        exact .plain hletters hpasses.snoc.cons
      case isFalse hcolon =>
        split at hread
        case isTrue => simp [fail] at hread
        case isFalse =>
          obtain ⟨rfl, rfl⟩ := Prod.mk.inj (Except.ok.inj hread)
          rw [hlast.resolve_left hcolon] at hpasses
          exact .setFlags hletters hpasses.snoc.cons
    case h_5 hnone =>
      obtain ⟨rfl, rfl⟩ := Prod.mk.inj (Except.ok.inj hread)
      refine .numbered fun hmark => ?_
      obtain ⟨after, hafter⟩ := List.head?_eq_some_iff.1 hmark
      exact hnone after hafter

end GroupReading

end PatternWorkbench.Pattern
