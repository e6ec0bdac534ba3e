import PatternWorkbench.Settings.Toml.Atom
import PatternWorkbench.Settings.Toml.Line
import PatternWorkbench.Settings.Toml.Node

/-!
# Values in TOML

Texts in quotes, bare values, lists in brackets and tables in braces. Lists may
go over several lines, tables in braces stay on one.

Lists and tables are read with a reader for what stands in them, which allows one
depth less. That it takes something away from the text ends the search for items.
-/

namespace PatternWorkbench.Settings.Toml

/-! ## Blanks over several lines -/

/-- The text behind blanks, breaks and comments. -/
def skipLines (text : Text) : Text :=
  match _ : lineBreak? (skipComment (skipGap text)) with
  | none => skipComment (skipGap text)
  | some behind => skipLines behind
termination_by text.length
decreasing_by
  have hbreak := length_lineBreak? ‹lineBreak? _ = _›
  have hcomment := length_skipComment_le (skipGap text)
  have hgap := length_skipGap_le text
  omega

theorem length_skipLines_le (text : Text) : (skipLines text).length ≤ text.length := by
  fun_induction skipLines text with
  | case1 text =>
      exact Nat.le_trans (length_skipComment_le (skipGap text)) (length_skipGap_le text)
  | case2 text behind hbreak ih =>
      have hlt := length_lineBreak? hbreak
      have hcomment := length_skipComment_le (skipGap text)
      have hgap := length_skipGap_le text
      omega

/-! ## Lists and tables in one another -/

/-- What reads a value at the beginning of a text. -/
structure Reader where
  read? : Text → Option (Setting × Text)
  shortens : Shortens read?

namespace Reader

/-- An item and the mark behind it are taken from the text. -/
theorem length_behind_item (reader : Reader) {text behind rest : Text} {item : Setting}
    {mark : Char} (hitem : reader.read? (skipLines text) = some (item, behind))
    (hmark : skipLines behind = mark :: rest) : rest.length < text.length := by
  have hfirst := length_skipLines_le text
  have hshort := reader.shortens _ _ _ hitem
  have hbehind := length_skipLines_le behind
  rw [hmark, List.length_cons] at hbehind
  omega

/-- So are a key, its value and the mark behind them. -/
theorem length_behind_pair (reader : Reader) {text first behind rest : Text}
    {path : List Text} {value : Setting} {sign mark : Char}
    (hkey : readKey? text = some (path, sign :: first))
    (hvalue : reader.read? (skipGap first) = some (value, behind))
    (hmark : skipGap behind = mark :: rest) : rest.length < text.length := by
  have hname := shortens_readKey? _ _ _ hkey
  have hfirst := length_skipGap_le first
  have hshort := reader.shortens _ _ _ hvalue
  have hbehind := length_skipGap_le behind
  rw [List.length_cons] at hname
  rw [hmark, List.length_cons] at hbehind
  omega

variable (reader : Reader)

/-- Items with commas between them up to a closing bracket. A comma may also
stand behind the last. -/
def items? (text : Text) : Option (List Setting × Text) :=
  match skipLines text with
  | ']' :: rest => some ([], rest)
  | _ =>
    match _ : reader.read? (skipLines text) with
    | none => none
    | some (item, behind) =>
      match _ : skipLines behind with
      | ']' :: rest => some ([item], rest)
      | ',' :: rest => (items? rest).map fun (items, rest) => (item :: items, rest)
      | _ => none
termination_by text.length
decreasing_by
  exact reader.length_behind_item ‹reader.read? _ = _› ‹skipLines _ = ',' :: _›

theorem shortens_items? : Shortens reader.items? := by
  intro text items rest hread
  fun_induction items? reader text generalizing items with
  | case1 text behind hend =>
      obtain ⟨_, rfl⟩ := Prod.mk.inj (Option.some.inj hread)
      have hlines := length_skipLines_le text
      rw [hend, List.length_cons] at hlines
      omega
  | case2 => contradiction
  | case3 text item behind hitem last hend =>
      obtain ⟨_, rfl⟩ := Prod.mk.inj (Option.some.inj hread)
      exact reader.length_behind_item hitem hend
  | case4 text item behind hitem later hcomma _ ih =>
      obtain ⟨_, hlater⟩ := exists_read_of_map hread fun _ => rfl
      exact Nat.lt_trans (ih _ hlater) (reader.length_behind_item hitem hcomma)
  | case5 => contradiction

/-- Names with values up to a closing brace, with commas between them. -/
def pairs? (nodes : Nodes) (text : Text) : Option (Nodes × Text) :=
  match _ : readKey? text with
  | some (path, '=' :: first) =>
    match _ : reader.read? (skipGap first) with
    | none => none
    | some (value, behind) =>
      match Nodes.assign path value nodes with
      | none => none
      | some nodes =>
        match _ : skipGap behind with
        | '}' :: rest => some (nodes, rest)
        | ',' :: rest => pairs? nodes rest
        | _ => none
  | _ => none
termination_by text.length
decreasing_by
  exact reader.length_behind_pair ‹_› ‹reader.read? _ = _› ‹skipGap _ = ',' :: _›

theorem shortens_pairs? (nodes : Nodes) : Shortens (reader.pairs? nodes) := by
  intro text result rest hread
  fun_induction pairs? reader nodes text with
  | case1 => contradiction
  | case2 => contradiction
  | case3 nodes text path first hkey value behind hvalue _ _ last hend =>
      obtain ⟨_, rfl⟩ := Prod.mk.inj (Option.some.inj hread)
      exact reader.length_behind_pair hkey hvalue hend
  | case4 nodes text path first hkey value behind hvalue _ _ later hcomma ih =>
      exact Nat.lt_trans (ih hread) (reader.length_behind_pair hkey hvalue hcomma)
  | case5 => contradiction
  | case6 => contradiction

end Reader

/-- A value at the beginning of a text. Lists and tables are read with the reader of
what stands in them, and without one not at all. -/
def valueWith? (source : Source) (inner : Option Reader) (text : Text) :
    Option (Setting × Text) :=
  match text with
  | '[' :: rest =>
    inner.bind fun reader =>
      (reader.items? rest).map fun (items, rest) => (.list source items, rest)
  | '{' :: rest =>
    inner.bind fun reader =>
      match skipGap rest with
      | '}' :: rest => some (.table source [], rest)
      | _ =>
        (reader.pairs? [] rest).map fun (nodes, rest) =>
          (.table source (Nodes.toFields source nodes), rest)
  | text =>
    match readQuoted? text with
    | some (quoted, rest) => some (.scalar source (.text quoted), rest)
    | none => (readAtom? text).map fun (atom, rest) => (.scalar source atom, rest)

/-- Every value takes some of the text, whatever reads the values within it. -/
theorem shortens_valueWith? (source : Source) (inner : Option Reader) :
    Shortens (valueWith? source inner) := by
  intro text value rest hread
  unfold valueWith? at hread
  split at hread
  case h_1 first =>
    obtain ⟨reader, _, hlist⟩ := Option.bind_eq_some_iff.1 hread
    obtain ⟨_, hitems⟩ := exists_read_of_map hlist fun _ => rfl
    exact Nat.lt_succ_of_lt (reader.shortens_items? _ _ _ hitems)
  case h_2 first =>
    obtain ⟨reader, _, htable⟩ := Option.bind_eq_some_iff.1 hread
    split at htable
    case h_1 last hend =>
      obtain ⟨_, rfl⟩ := Prod.mk.inj (Option.some.inj htable)
      have hgap := length_skipGap_le first
      rw [hend] at hgap
      exact Nat.lt_succ_of_lt hgap
    case h_2 =>
      obtain ⟨_, hpairs⟩ := exists_read_of_map htable fun _ => rfl
      exact Nat.lt_succ_of_lt (reader.shortens_pairs? [] _ _ _ hpairs)
  case h_3 =>
    split at hread
    case h_1 hquoted =>
      obtain ⟨_, rfl⟩ := Prod.mk.inj (Option.some.inj hread)
      exact shortens_readQuoted? _ _ _ hquoted
    case h_2 =>
      obtain ⟨_, hatom⟩ := exists_read_of_map hread fun _ => rfl
      exact shortens_readAtom? _ _ _ hatom

/-- The reader of values in which lists and tables stand as deep in one another as
`depth` says. -/
def reader (source : Source) : Nat → Reader
  | 0 => ⟨valueWith? source none, shortens_valueWith? source none⟩
  | depth + 1 =>
    ⟨valueWith? source (some (reader source depth)),
      shortens_valueWith? source (some (reader source depth))⟩

/-- A value at the beginning of a text. -/
def readValue? (source : Source) (depth : Nat) (text : Text) : Option (Setting × Text) :=
  (reader source depth).read? text

theorem shortens_readValue? (source : Source) (depth : Nat) :
    Shortens (readValue? source depth) :=
  (reader source depth).shortens

end PatternWorkbench.Settings.Toml
