import PatternWorkbench.Pattern.Tree

/-!
# Positions inside a pattern

A cursor is a position together with the characters from there on. In verbose
mode blanks and comments between the parts of a pattern do not count.
-/

namespace PatternWorkbench.Pattern

structure Cursor where
  pos : Nat
  rest : Text
  deriving DecidableEq, Repr

namespace Cursor

/-- How many characters of blanks and comments a text begins with. A comment
runs from a number sign to the end of its line. -/
def blankLength : Bool → Text → Nat
  | _, [] => 0
  | true, c :: cs => blankLength (c != '\n') cs + 1
  | false, c :: cs =>
    if Unicode.isBlank c then blankLength false cs + 1
    else if c = '#' then blankLength true cs + 1
    else 0

def skip (verbose : Bool) (cursor : Cursor) : Cursor :=
  if verbose then
    let count := blankLength false cursor.rest
    ⟨cursor.pos + count, cursor.rest.drop count⟩
  else cursor

@[simp]
theorem skip_false (cursor : Cursor) : cursor.skip false = cursor := rfl

theorem length_rest_skip_le (verbose : Bool) (cursor : Cursor) :
    (cursor.skip verbose).rest.length ≤ cursor.rest.length := by
  cases verbose <;> simp [skip]

/-- What stands behind the next character is shorter than what the cursor has. -/
theorem length_lt_of_skip {verbose : Bool} {cursor : Cursor} {pos : Nat}
    {c : Char} {cs : Text} (hskip : cursor.skip verbose = ⟨pos, c :: cs⟩) :
    cs.length < cursor.rest.length := by
  have hle := length_rest_skip_le verbose cursor
  rw [hskip] at hle
  exact hle

/-- The characters from the cursor on that satisfy `p`, with blanks skipped
behind each of them. -/
def collect (verbose : Bool) (p : Char → Bool) : Cursor → Text × Cursor
  | ⟨pos, []⟩ => ([], ⟨pos, []⟩)
  | ⟨pos, c :: cs⟩ =>
    if p c then
      let (taken, after) := collect verbose p (skip verbose ⟨pos + 1, cs⟩)
      (c :: taken, after)
    else ([], ⟨pos, c :: cs⟩)
termination_by cursor => cursor.rest.length
decreasing_by
  have hle := length_rest_skip_le verbose ⟨pos + 1, cs⟩
  simp only [List.length_cons] at *
  omega

/-- White space counts here in every mode, and comments in verbose mode. -/
def skipSpaces (verbose : Bool) (cursor : Cursor) : Cursor :=
  let spaces := (cursor.rest.takeWhile Unicode.isBlank).length
  let after : Cursor := ⟨cursor.pos + spaces, cursor.rest.drop spaces⟩
  if spaces = 0 then after else after.skip verbose

end Cursor

def fail {Value : Type} (cause : Cause) (start stop : Nat) :
    Except Diagnostic Value :=
  .error { cause, span := ⟨start, stop⟩ }

end PatternWorkbench.Pattern
