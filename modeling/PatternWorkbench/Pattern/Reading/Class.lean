import PatternWorkbench.Pattern.Reading.Escape

/-!
# Bracketed classes

A class is a row of characters, ranges, escapes and nested classes, combined by
set operations that all bind alike and apply from left to right. The classes
still open are kept in a list, the innermost first.
-/

namespace PatternWorkbench.Pattern

namespace ClassReading

/-- The items of a class read so far, the last one first. -/
structure Row where
  span : Span
  items : List ClassTree

def Row.empty (pos : Nat) : Row :=
  ⟨⟨pos, pos⟩, []⟩

def Row.push (row : Row) (item : ClassTree) : Row :=
  let start := if row.items.isEmpty then item.span.start else row.span.start
  ⟨⟨start, item.span.stop⟩, item :: row.items⟩

def Row.tree (row : Row) : ClassTree :=
  match row.items with
  | [] => .nothing row.span
  | [item] => item
  | items => .union row.span items.reverse

/-- An open class: the span of its opening, what its last set operation waits to
be applied to, and the row under way. -/
structure Opened where
  span : Span
  negated : Bool
  pending : Option (SetOperation × ClassTree)
  row : Row

def Opened.tree (opened : Opened) : ClassTree :=
  let right := opened.row.tree
  match opened.pending with
  | none => right
  | some (kind, left) =>
    .operation ⟨left.span.start, right.span.stop⟩ kind left right

def Opened.push (opened : Opened) (item : ClassTree) : Opened :=
  { opened with row := opened.row.push item }

def Opened.operate (opened : Opened) (kind : SetOperation) (pos : Nat) : Opened :=
  { opened with pending := some (kind, opened.tree), row := .empty pos }

def plainLiteral (pos : Nat) (char : Char) : ClassTree :=
  .literal { span := ⟨pos, pos + 1⟩, char, asByte := false }

/-- The hyphens that a class begins with stand for themselves. -/
def leadingHyphens (verbose : Bool) (start : Nat) (row : Row) :
    Cursor → Except Diagnostic (Row × Cursor)
  | ⟨pos, []⟩ => .ok (row, ⟨pos, []⟩)
  | ⟨pos, c :: cs⟩ =>
    if c = '-' then
      let after := Cursor.skip verbose ⟨pos + 1, cs⟩
      if after.rest.isEmpty then fail .classUnclosed start start
      else leadingHyphens verbose start (row.push (plainLiteral pos '-')) after
    else .ok (row, ⟨pos, c :: cs⟩)
termination_by cursor => cursor.rest.length
decreasing_by
  have hle := Cursor.length_rest_skip_le verbose ⟨pos + 1, cs⟩
  simp only [List.length_cons] at *
  omega

/-- The opening of a class whose bracket is at `start`: a caret that negates it,
hyphens, and a closing bracket that stands for itself when it comes first. -/
def opening (verbose : Bool) (start : Nat) (rest : Text) :
    Except Diagnostic (Opened × Nat) := do
  let cursor := Cursor.skip verbose ⟨start + 1, rest⟩
  if cursor.rest.isEmpty then fail .classUnclosed start cursor.pos
  else
    let negated := cursor.rest.head? = some '^'
    let cursor :=
      if negated then Cursor.skip verbose ⟨cursor.pos + 1, cursor.rest.tail⟩
      else cursor
    if cursor.rest.isEmpty then fail .classUnclosed start cursor.pos
    else
      let (row, cursor) ←
        leadingHyphens verbose start (.empty cursor.pos) cursor
      match cursor.rest with
      | ']' :: after =>
        if row.items.isEmpty then
          let row := row.push (plainLiteral cursor.pos ']')
          let cursor := Cursor.skip verbose ⟨cursor.pos + 1, after⟩
          if cursor.rest.isEmpty then fail .classUnclosed start cursor.pos
          else return (⟨⟨start, cursor.pos⟩, negated, none, row⟩, cursor.pos)
        else return (⟨⟨start, cursor.pos⟩, negated, none, row⟩, cursor.pos)
      | _ => return (⟨⟨start, cursor.pos⟩, negated, none, row⟩, cursor.pos)

/-- A named class such as `[:alpha:]`, if one begins at this bracket. -/
def named? (start : Nat) (rest : Text) : Option (ClassTree × Nat) :=
  match rest with
  | ':' :: inside =>
    let negated := inside.head? = some '^'
    let body := if negated then inside.tail else inside
    let name := body.takeWhile (· != ':')
    let skipped := if negated then 3 else 2
    match body.drop name.length, NamedClass.ofName? name with
    | ':' :: ']' :: _, some kind =>
      let stop := start + skipped + name.length + 2
      some (.named ⟨start, stop⟩ kind negated, stop)
    | _, _ => none
  | _ => none

/-- The character that decides whether a hyphen makes a range. -/
def afterHyphen (verbose : Bool) (rest : Text) : Option Char :=
  if verbose then
    match rest.dropWhile Unicode.isBlank with
    | [] => rest.head?
    | c :: cs =>
      if c = '#' then (cs.dropWhile Unicode.isBlank).head? <|> rest.head?
      else some c
  else rest.head?

/-- One escape or plain character of a class. -/
def member (verbose : Bool) (pos : Nat) (c : Char) (rest : Text) :
    Except Diagnostic (Tree × Nat) :=
  if c = '\\' then Escape.read verbose pos rest
  else .ok (Escape.literal pos (pos + 1) c false, pos + 1)

def item (tree : Tree) : Except Diagnostic ClassTree :=
  match tree with
  | .literal character => .ok (.literal character)
  | .shorthand span kind negated => .ok (.shorthand span kind negated)
  | .property span query negated => .ok (.property span query negated)
  | other => .error { cause := .classEscapeInvalid, span := other.span }

def rangeEnd (tree : Tree) : Except Diagnostic Literal :=
  match tree with
  | .literal character => .ok character
  | other => .error { cause := .classRangeLiteral, span := other.span }

/-- A member, or the range that a hyphen behind it starts. -/
def memberOrRange (verbose : Bool) (unclosed : Span) (pos : Nat) (c : Char)
    (rest : Text) : Except Diagnostic (ClassTree × Nat) := do
  let (first, stop) ← member verbose pos c rest
  let cursor := Cursor.skip verbose ⟨stop, rest.drop (stop - (pos + 1))⟩
  match cursor.rest with
  | [] => .error { cause := .classUnclosed, span := unclosed }
  | d :: after =>
    if d != '-' || afterHyphen verbose after = some ']' ||
        afterHyphen verbose after = some '-' then
      return (← item first, cursor.pos)
    else
      let cursor := Cursor.skip verbose ⟨cursor.pos + 1, after⟩
      match cursor.rest with
      | [] => .error { cause := .classUnclosed, span := unclosed }
      | e :: after =>
        let (second, stop) ← member verbose cursor.pos e after
        let low ← rangeEnd first
        let high ← rangeEnd second
        let span : Span := ⟨first.span.start, second.span.stop⟩
        if high.char < low.char then
          .error { cause := .classRangeInvalid, span }
        else return (.range span low high, stop)

/-- What one step of reading a class leads to: further reading from a position,
or the end of the outermost class. -/
inductive Step where
  | more (opened : Opened) (outer : List Opened) (pos : Nat)
  | closed (tree : Tree) (pos : Nat)

def operation? : Char → Option SetOperation
  | '&' => some .intersection
  | '-' => some .difference
  | '~' => some .symmetricDifference
  | _ => none

/-- The step at the character `c`, which lies inside the class `opened`. -/
def step (verbose : Bool) (opened : Opened) (outer : List Opened) (pos : Nat)
    (c : Char) (rest : Text) : Except Diagnostic Step := do
  if c = '[' then
    match named? pos rest with
    | some (tree, stop) => return .more (opened.push tree) outer stop
    | none =>
      let (inner, stop) ← opening verbose pos rest
      return .more inner (opened :: outer) stop
  else if c = ']' then
    let span : Span := ⟨opened.span.start, pos + 1⟩
    match outer with
    | [] => return .closed (.bracketed span opened.negated opened.tree) (pos + 1)
    | parent :: outer =>
      let tree := ClassTree.bracketed span opened.negated opened.tree
      return .more (parent.push tree) outer (pos + 1)
  else
    match if rest.head? = some c then operation? c else none with
    | some kind => return .more (opened.operate kind (pos + 2)) outer (pos + 2)
    | none =>
      let (tree, stop) ← memberOrRange verbose opened.span pos c rest
      return .more (opened.push tree) outer stop

/-- Reads on inside `opened` to the end of the outermost class. -/
def inside (verbose : Bool) (opened : Opened) (outer : List Opened) (pos : Nat)
    (rest : Text) : Except Diagnostic (Tree × Nat) :=
  match _ : Cursor.skip verbose ⟨pos, rest⟩ with
  | ⟨_, []⟩ => .error { cause := .classUnclosed, span := opened.span }
  | ⟨pos, c :: cs⟩ =>
    match step verbose opened outer pos c cs with
    | .error diagnostic => .error diagnostic
    | .ok (.closed tree stop) => .ok (tree, stop)
    | .ok (.more opened outer stop) =>
      inside verbose opened outer stop (cs.drop (stop - (pos + 1)))
termination_by rest.length
decreasing_by
  have hlt := Cursor.length_lt_of_skip ‹Cursor.skip verbose _ = _›
  simp only [List.length_drop] at *
  omega

/-- The class whose bracket is at `start`. -/
def read (verbose : Bool) (start : Nat) (rest : Text) :
    Except Diagnostic (Tree × Nat) := do
  let (opened, pos) ← opening verbose start rest
  inside verbose opened [] pos (rest.drop (pos - (start + 1)))

end ClassReading

end PatternWorkbench.Pattern
