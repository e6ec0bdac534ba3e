import PatternWorkbench.Text

/-!
# Lexemes of a pattern

What can stand at the beginning of a pattern for a reader who looks at its
spelling alone. Lexemes differ in their first character, and among those that
begin with an opening parenthesis the longest one is taken. A group opener whose
name is never closed, a class without its bracket, a brace that bounds nothing
and a backslash at the very end begin no lexeme.
-/

namespace PatternWorkbench.Breakdown

inductive Lexeme where
  | namedGroupOpen
  | nonCapturingOpen
  | groupOpen
  | groupClose
  | escape
  | characterClass
  | quantifier
  | anchor
  | alternation
  | wildcard
  | literal
  deriving DecidableEq, Repr

namespace Lexeme

def opensGroup : Lexeme → Bool
  | namedGroupOpen | nonCapturingOpen | groupOpen => true
  | _ => false

/-- How many characters there are up to the first closing bracket, itself
included. A backslash takes the next character along. -/
def classLength? : Text → Option Nat
  | [] => none
  | ']' :: _ => some 1
  | '\\' :: _ :: rest => (classLength? rest).map (· + 2)
  | '\\' :: [] => none
  | _ :: rest => (classLength? rest).map (· + 1)

/-- How many characters there are up to the first closing angle, itself
included. -/
def nameLength? : Text → Option Nat
  | [] => none
  | c :: rest => if c = '>' then some 1 else (nameLength? rest).map (· + 1)

/-- Whether a character may be the first one of a group name. -/
def beginsName (c : Char) : Bool :=
  c != '>' && c != '=' && c != '!'

/-- The lexeme that begins with an opening parenthesis, given what follows it,
and its length. -/
def groupOpener? : Text → Option (Lexeme × Nat)
  | '?' :: ':' :: _ => some (nonCapturingOpen, 3)
  | '?' :: '<' :: c :: rest =>
    if beginsName c then
      (nameLength? rest).map fun length => (namedGroupOpen, length + 4)
    else some (groupOpen, 1)
  | '?' :: 'P' :: '<' :: c :: rest =>
    if beginsName c then
      (nameLength? rest).map fun length => (namedGroupOpen, length + 5)
    else some (groupOpen, 1)
  | _ => some (groupOpen, 1)

/-- The length of the bounds of a repetition, given what follows their opening
brace. -/
def boundsLength? (text : Text) : Option Nat :=
  let low := text.takeWhile Char.isDigit
  if low.isEmpty then none
  else
    match text.dropWhile Char.isDigit with
    | '}' :: _ => some (low.length + 2)
    | ',' :: rest =>
      let high := rest.takeWhile Char.isDigit
      match rest.dropWhile Char.isDigit with
      | '}' :: _ => some (low.length + high.length + 3)
      | _ => none
    | _ => none

/-- The lexeme at the beginning of a pattern and the number of its
characters. -/
def first? (c : Char) (rest : Text) : Option (Lexeme × Nat) :=
  match c with
  | '(' => groupOpener? rest
  | ')' => some (groupClose, 1)
  | '\\' => if rest.isEmpty then none else some (escape, 2)
  | '[' => (classLength? rest).map fun length => (characterClass, length + 1)
  | '*' | '+' | '?' => some (quantifier, 1)
  | '{' => (boundsLength? rest).map (quantifier, ·)
  | '^' | '$' => some (anchor, 1)
  | '|' => some (alternation, 1)
  | '.' => some (wildcard, 1)
  | _ => some (literal, 1)

theorem classLength?_le {text : Text} {length : Nat}
    (hclass : classLength? text = some length) : length ≤ text.length := by
  fun_induction classLength? text generalizing length with
  | case1 => simp at hclass
  | case2 rest => simp_all
  | case3 c rest ih =>
      obtain ⟨width, hrest, rfl⟩ := Option.map_eq_some_iff.1 hclass
      simpa using ih hrest
  | case4 => simp at hclass
  | case5 c rest _ _ _ ih =>
      obtain ⟨width, hrest, rfl⟩ := Option.map_eq_some_iff.1 hclass
      simpa using ih hrest

theorem nameLength?_le {text : Text} {length : Nat}
    (hname : nameLength? text = some length) : length ≤ text.length := by
  fun_induction nameLength? text generalizing length with
  | case1 => simp at hname
  | case2 rest => simp_all
  | case3 c rest _ ih =>
      obtain ⟨width, hrest, rfl⟩ := Option.map_eq_some_iff.1 hname
      simpa using ih hrest

/-- What opens a group lies within the parenthesis and the text behind it. -/
theorem groupOpener?_bounds {text : Text} {lexeme : Lexeme} {length : Nat}
    (hopener : groupOpener? text = some (lexeme, length)) :
    0 < length ∧ length ≤ text.length + 1 := by
  unfold groupOpener? at hopener
  split at hopener
  case h_1 => grind
  case h_2 c rest =>
    split at hopener
    · obtain ⟨width, hname, heq⟩ := Option.map_eq_some_iff.1 hopener
      have hle := nameLength?_le hname
      grind
    · grind
  case h_3 c rest =>
    split at hopener
    · obtain ⟨width, hname, heq⟩ := Option.map_eq_some_iff.1 hopener
      have hle := nameLength?_le hname
      grind
    · grind
  case h_4 => grind

theorem length_takeWhile_add_dropWhile (p : Char → Bool) (text : Text) :
    (text.takeWhile p).length + (text.dropWhile p).length = text.length := by
  rw [← List.length_append, List.takeWhile_append_dropWhile]

theorem boundsLength?_bounds {text : Text} {length : Nat}
    (hbounds : boundsLength? text = some length) :
    0 < length ∧ length ≤ text.length + 1 := by
  have hlow := length_takeWhile_add_dropWhile Char.isDigit text
  by_cases hdigits : (text.takeWhile Char.isDigit).isEmpty
  · simp [boundsLength?, hdigits] at hbounds
  · simp only [boundsLength?, hdigits, Bool.false_eq_true, if_false] at hbounds
    split at hbounds
    case h_1 rest hafter =>
      rw [hafter, List.length_cons] at hlow
      simp only [Option.some.injEq] at hbounds
      omega
    case h_2 rest hafter =>
      have hhigh := length_takeWhile_add_dropWhile Char.isDigit rest
      rw [hafter, List.length_cons] at hlow
      split at hbounds
      case h_1 hclosing =>
        rw [hclosing, List.length_cons] at hhigh
        simp only [Option.some.injEq] at hbounds
        omega
      case h_2 => simp at hbounds
    case h_3 => simp at hbounds

/-- A lexeme is not empty and lies within the pattern. -/
theorem first?_bounds {c : Char} {rest : Text} {lexeme : Lexeme} {length : Nat}
    (hfirst : first? c rest = some (lexeme, length)) :
    0 < length ∧ length ≤ rest.length + 1 := by
  unfold first? at hfirst
  split at hfirst
  case h_1 => exact groupOpener?_bounds hfirst
  case h_3 =>
    split at hfirst
    · simp at hfirst
    · cases rest <;> simp_all
      omega
  case h_4 =>
    obtain ⟨width, hclass, heq⟩ := Option.map_eq_some_iff.1 hfirst
    have hle := classLength?_le hclass
    grind
  case h_8 =>
    obtain ⟨width, hbounds, heq⟩ := Option.map_eq_some_iff.1 hfirst
    have hle := boundsLength?_bounds hbounds
    grind
  all_goals grind

/-- The lexemes of a pattern with their texts up to the first position where
none begins, and what is left from there on. -/
def readAll (pattern : Text) : List (Lexeme × Text) × Text :=
  match pattern with
  | [] => ([], [])
  | c :: rest =>
    match _ : first? c rest with
    | none => ([], c :: rest)
    | some (lexeme, length) =>
      let (later, left) := readAll ((c :: rest).drop length)
      ((lexeme, (c :: rest).take length) :: later, left)
termination_by pattern.length
decreasing_by
  have hbounds := first?_bounds ‹first? c rest = _›
  simp only [List.length_drop, List.length_cons]
  omega

/-- The byte at which the first character lies that begins no lexeme. -/
def firstUnread? (pattern : Text) : Option Nat :=
  match readAll pattern with
  | (_, []) => none
  | (_, left) => some (byteLength pattern - byteLength left)

end Lexeme

end PatternWorkbench.Breakdown
