import PatternWorkbench.Settings.Toml.Value

/-!
# TOML documents

A document is a row of statements, one on each line: a heading opens a table or a
further row of one, and an assignment gives a name in the open table its value.
-/

namespace PatternWorkbench.Settings.Toml

inductive Statement where
  | blank
  | table (path : List Text)
  | row (path : List Text)
  | assign (path : List Text) (value : Setting)

/-- The statement at the beginning of a text, and the text from the end of its
line on. -/
def readStatement? (source : Source) (text : Text) : Option (Statement × Text) :=
  match skipGap text with
  | [] => some (.blank, [])
  | '[' :: '[' :: rest =>
    match readKey? rest with
    | some (path, ']' :: ']' :: rest) => some (.row path, rest)
    | _ => none
  | '[' :: rest =>
    match readKey? rest with
    | some (path, ']' :: rest) => some (.table path, rest)
    | _ => none
  | c :: rest =>
    if c = '#' ∨ c = '\n' ∨ c = '\r' then some (.blank, c :: rest)
    else
      match readKey? (c :: rest) with
      | some (path, '=' :: rest) =>
        (readValue? source depthLimit (skipGap rest)).map fun (value, rest) =>
          (.assign path value, rest)
      | _ => none

/-- A statement may be empty, so all that is known is that nothing is added. -/
theorem length_le_of_readStatement {source : Source} {text rest : Text}
    {statement : Statement} (hread : readStatement? source text = some (statement, rest)) :
    rest.length ≤ text.length := by
  have hgap := length_skipGap_le text
  unfold readStatement? at hread
  split at hread
  case h_1 =>
    obtain ⟨_, rfl⟩ := Prod.mk.inj (Option.some.inj hread)
    exact Nat.zero_le _
  case h_2 first hfirst =>
    rw [hfirst, List.length_cons, List.length_cons] at hgap
    split at hread
    case h_1 hkey =>
      obtain ⟨_, rfl⟩ := Prod.mk.inj (Option.some.inj hread)
      have hshort := shortens_readKey? _ _ _ hkey
      simp only [List.length_cons] at hshort
      omega
    case h_2 => contradiction
  case h_3 first _ hfirst =>
    rw [hfirst, List.length_cons] at hgap
    split at hread
    case h_1 hkey =>
      obtain ⟨_, rfl⟩ := Prod.mk.inj (Option.some.inj hread)
      have hshort := shortens_readKey? _ _ _ hkey
      simp only [List.length_cons] at hshort
      omega
    case h_2 => contradiction
  case h_4 c first _ _ hfirst =>
    rw [hfirst] at hgap
    split at hread
    case isTrue =>
      obtain ⟨_, rfl⟩ := Prod.mk.inj (Option.some.inj hread)
      exact hgap
    case isFalse =>
      split at hread
      case h_1 value hkey =>
        obtain ⟨_, hvalue⟩ := exists_read_of_map hread fun _ => rfl
        have hname := shortens_readKey? _ _ _ hkey
        have hshort := shortens_readValue? _ _ _ _ _ hvalue
        have hsign := length_skipGap_le value
        simp only [List.length_cons] at hname hgap
        omega
      case h_2 => contradiction

/-- All statements of a text. -/
def readStatements? (source : Source) (text : Text) : Option (List Statement) :=
  match _ : readStatement? source text with
  | none => none
  | some (statement, behind) =>
    match _ : lineEnd? behind with
    | none => none
    | some rest =>
      if _ : rest = [] then some [statement]
      else (readStatements? source rest).map (statement :: ·)
termination_by text.length
decreasing_by
  have hstatement := length_le_of_readStatement ‹readStatement? _ _ = _›
  have hend := (eq_nil_or_length_lineEnd? ‹lineEnd? _ = _›).resolve_left ‹_›
  omega

/-- What has been built up so far, and the names that lead to the open table. -/
structure Progress where
  nodes : Nodes
  heading : List Text

def Progress.after (progress : Progress) : Statement → Option Progress
  | .blank => some progress
  | .table path => do
    let name ← path.getLast?
    let nodes ← Nodes.within false (fun _ => Nodes.openTable name) path.dropLast
      .heading progress.nodes
    return ⟨nodes, path⟩
  | .row path => do
    let name ← path.getLast?
    let nodes ← Nodes.within false (fun _ => Nodes.openRow name) path.dropLast
      .heading progress.nodes
    return ⟨nodes, path⟩
  | .assign path value => do
    let nodes ← Nodes.within false (fun _ => Nodes.assign path value)
      progress.heading .heading progress.nodes
    return { progress with nodes }

def withoutByteOrderMark : Text → Text
  | '\ufeff' :: rest => rest
  | text => text

/-- The fields of a document, unless it is malformed or says something twice. -/
def read? (source : Source) (text : Text) : Option Fields := do
  let statements ← readStatements? source (withoutByteOrderMark text)
  let progress ← statements.foldlM Progress.after ⟨[], []⟩
  return Nodes.toFields source progress.nodes

end PatternWorkbench.Settings.Toml
