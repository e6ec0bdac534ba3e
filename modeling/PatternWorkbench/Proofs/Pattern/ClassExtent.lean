import PatternWorkbench.Proofs.Pattern.Extent

/-!
# How far a class extends

A class ends with a closing bracket that no backslash escapes.  Where its inside
has no opening bracket and does not begin with a closing one, that is the first
such bracket.
-/

namespace PatternWorkbench.Pattern

/-! ## Characters that are not escaped -/

/-- A text without its escape sequences of two characters.  A backslash at the
very end escapes nothing. -/
def unescaped : Text → Text
  | [] => []
  | '\\' :: _ :: rest => unescaped rest
  | c :: rest => c :: unescaped rest

inductive IsPaired : Text → Prop where
  | nil : IsPaired []
  | escape (c : Char) {rest : Text} (hrest : IsPaired rest) : IsPaired ('\\' :: c :: rest)
  | cons {c : Char} {rest : Text} (hc : c ≠ '\\') (hrest : IsPaired rest) :
      IsPaired (c :: rest)

section Unescaped

variable {c : Char} {left right text : Text}

@[simp]
theorem unescaped_nil : unescaped [] = [] := rfl

@[simp]
theorem unescaped_escape (c : Char) (rest : Text) :
    unescaped ('\\' :: c :: rest) = unescaped rest := rfl

theorem unescaped_cons (hc : c ≠ '\\') (rest : Text) :
    unescaped (c :: rest) = c :: unescaped rest := by
  rw [unescaped]
  intro _ _ heq
  exact absurd heq hc

theorem unescaped_append (hleft : IsPaired left) (right : Text) :
    unescaped (left ++ right) = unescaped left ++ unescaped right := by
  induction hleft with
  | nil => rfl
  | escape c hrest ih => exact ih
  | cons hc hrest ih =>
      rw [List.cons_append, unescaped_cons hc, unescaped_cons hc, ih, List.cons_append]

theorem unescaped_eq_self (hnone : '\\' ∉ text) : unescaped text = text := by
  induction text with
  | nil => rfl
  | cons c rest ih =>
      rw [List.mem_cons, not_or] at hnone
      rw [unescaped_cons (Ne.symm hnone.1), ih hnone.2]

theorem isPaired_of_not_mem (hnone : '\\' ∉ text) : IsPaired text := by
  induction text with
  | nil => exact .nil
  | cons c rest ih =>
      rw [List.mem_cons, not_or] at hnone
      exact .cons (Ne.symm hnone.1) (ih hnone.2)

theorem IsPaired.append (hleft : IsPaired left) (hright : IsPaired right) :
    IsPaired (left ++ right) := by
  induction hleft with
  | nil => exact hright
  | escape c hrest ih => exact .escape c ih
  | cons hc hrest ih => exact .cons hc ih

end Unescaped

theorem IsLegible.not_mem {text : Text} (hlegible : IsLegible text) :
    '\\' ∉ text ∧ ']' ∉ text :=
  ⟨fun hmem => absurd (hlegible _ hmem) (by decide),
    fun hmem => absurd (hlegible _ hmem) (by decide)⟩

namespace ClassReading

/-! ## Properties that a class asks for -/

def Row.queries (row : Row) : List PropertyQuery :=
  row.items.flatMap ClassTree.queries

def Opened.queries (opened : Opened) : List PropertyQuery :=
  (opened.pending.map (·.2.queries)).getD [] ++ opened.row.queries

/-- A property that one of the open classes asks for. -/
def Asks (opened : Opened) (outer : List Opened) (query : PropertyQuery) : Prop :=
  query ∈ (opened :: outer).flatMap Opened.queries

theorem Row.mem_queries_tree (row : Row) (query : PropertyQuery) :
    query ∈ row.tree.queries ↔ query ∈ row.queries := by
  unfold tree queries
  split
  case h_1 hitems => simp [hitems, ClassTree.queries]
  case h_2 item hitems => simp [hitems]
  case h_3 => simp [ClassTree.queries, ClassTree.queriesAmong_eq]

theorem Opened.mem_queries_tree (opened : Opened) (query : PropertyQuery) :
    query ∈ opened.tree.queries ↔ query ∈ opened.queries := by
  unfold tree queries
  cases opened.pending with
  | none => simp [Row.mem_queries_tree]
  | some pending => simp [ClassTree.queries, Row.mem_queries_tree]

theorem Opened.queries_push (opened : Opened) (item : ClassTree) :
    (opened.push item).queries =
      (opened.pending.map (·.2.queries)).getD [] ++ (item.queries ++ opened.row.queries) := by
  simp [queries, push, Row.push, Row.queries]

/-- Pushing a member adds its queries to those of the open classes. -/
theorem asks_push {opened : Opened} {outer : List Opened} {item : ClassTree}
    {query : PropertyQuery} :
    Asks (opened.push item) outer query ↔
      query ∈ item.queries ∨ Asks opened outer query := by
  rw [Asks, List.flatMap_cons, Opened.queries_push]
  simp only [Asks, List.flatMap_cons, Opened.queries, List.mem_append]
  tauto

theorem asks_operate {opened : Opened} {outer : List Opened} {kind : SetOperation}
    {pos : Nat} {query : PropertyQuery} :
    Asks (opened.operate kind pos) outer query ↔ Asks opened outer query := by
  have hsame : query ∈ (opened.operate kind pos).queries ↔ query ∈ opened.queries := by
    rw [← Opened.mem_queries_tree opened]
    simp [Opened.queries, Opened.operate, Row.queries, Row.empty]
  simp only [Asks, List.flatMap_cons, List.mem_append, hsame]

/-! ## Members and ranges -/

/-- A stretch of a class that neither ends it nor cuts an escape sequence off. -/
structure IsInner (text : Text) : Prop where
  paired : IsPaired text
  not_mem : ']' ∉ unescaped text

theorem IsInner.append {left right : Text} (hleft : IsInner left)
    (hright : IsInner right) : IsInner (left ++ right) where
  paired := hleft.paired.append hright.paired
  not_mem := by
    rw [unescaped_append hleft.paired, List.mem_append, not_or]
    exact ⟨hleft.not_mem, hright.not_mem⟩

theorem isInner_of_not_mem {text : Text} (hnone : '\\' ∉ text ∧ ']' ∉ text) :
    IsInner text where
  paired := isPaired_of_not_mem hnone.1
  not_mem := by
    rw [unescaped_eq_self hnone.1]
    exact hnone.2

theorem isInner_escape {c : Char} {tail : Text} (htail : IsLegible tail) :
    IsInner ('\\' :: c :: tail) where
  paired := .escape c (isPaired_of_not_mem htail.not_mem.1)
  not_mem := (isInner_of_not_mem htail.not_mem).not_mem

variable {pos stop : Nat} {c : Char} {rest : Text}

/-- A member of a class holds no closing bracket, unless it is escaped. -/
theorem passes_member {tree : Tree} (hc : c ≠ ']')
    (hread : member false pos c rest = .ok (tree, stop)) (hanswered : Escape.Answered tree) :
    ∃ tail after, Cursor.Passes ⟨pos + 1, rest⟩ tail ⟨stop, after⟩ ∧
      IsInner (c :: tail) := by
  unfold member at hread
  split at hread
  case isTrue hescape =>
    cases rest with
    | nil => simp [Escape.read, fail] at hread
    | cons d rest =>
        obtain ⟨tail, after, hpasses, htail⟩ := (Escape.extends_read hread).2 hanswered
        rw [hescape]
        exact ⟨d :: tail, after, hpasses.cons, isInner_escape htail⟩
  case isFalse hescape =>
    obtain ⟨rfl, rfl⟩ := Prod.mk.inj (Except.ok.inj hread)
    refine ⟨[], rest, .refl _, isInner_of_not_mem ?_⟩
    simp [Ne.symm hescape, Ne.symm hc]

theorem answered_of_item {tree : Tree} {classItem : ClassTree}
    (hitem : item tree = .ok classItem)
    (hanswered : ∀ query ∈ classItem.queries, query.IsKnown) :
    Escape.Answered tree := by
  intro query hquery
  unfold item at hitem
  split at hitem
  case h_1 | h_2 => simp [Tree.features] at hquery
  case h_3 =>
    obtain rfl := Except.ok.inj hitem
    obtain rfl : query = _ := by simpa [Tree.features] using hquery
    exact hanswered _ (by simp [ClassTree.queries])
  case h_4 => simp at hitem

theorem answered_of_rangeEnd {tree : Tree} {character : Literal}
    (hend : rangeEnd tree = .ok character) : Escape.Answered tree := by
  intro query hquery
  unfold rangeEnd at hend
  split at hend
  case h_1 => simp [Tree.features] at hquery
  case h_2 => simp at hend

/-- A member or a range that asks for existing properties stays within its
class. -/
theorem passes_memberOrRange {unclosed : Span} {classItem : ClassTree} (hc : c ≠ ']')
    (hread : memberOrRange false unclosed pos c rest = .ok (classItem, stop))
    (hanswered : ∀ query ∈ classItem.queries, query.IsKnown) :
    ∃ tail after, Cursor.Passes ⟨pos + 1, rest⟩ tail ⟨stop, after⟩ ∧
      IsInner (c :: tail) := by
  obtain ⟨⟨first, middle⟩, hfirst, hread⟩ := bind_eq_ok_iff.1 hread
  simp only [Cursor.skip_false] at hread
  split at hread
  case h_1 => simp at hread
  case h_2 d after hafter =>
    split at hread
    case isTrue =>
      obtain ⟨other, hitem, hsame⟩ := bind_eq_ok_iff.1 hread
      obtain ⟨rfl, rfl⟩ := Prod.mk.inj (Except.ok.inj hsame)
      exact passes_member hc hfirst (answered_of_item hitem hanswered)
    case isFalse hrange =>
      rw [Bool.not_eq_true, Bool.or_eq_false_iff, Bool.or_eq_false_iff] at hrange
      obtain ⟨⟨hhyphen, hclosing⟩, -⟩ := hrange
      split at hread
      case h_1 => simp at hread
      case h_2 e ending =>
        obtain ⟨⟨second, last⟩, hsecond, hread⟩ := bind_eq_ok_iff.1 hread
        obtain ⟨low, hlow, hread⟩ := bind_eq_ok_iff.1 hread
        obtain ⟨high, hhigh, hread⟩ := bind_eq_ok_iff.1 hread
        split at hread
        case isTrue => simp at hread
        case isFalse =>
          obtain ⟨_, rfl⟩ := Prod.mk.inj (Except.ok.inj hread)
          have he : e ≠ ']' := by
            rintro rfl
            simp [afterHyphen] at hclosing
          obtain ⟨tail, behind, hpasses, hinner⟩ :=
            passes_member hc hfirst (answered_of_rangeEnd hlow)
          obtain ⟨tail', behind', hpasses', hinner'⟩ :=
            passes_member he hsecond (answered_of_rangeEnd hhigh)
          obtain rfl : d = '-' := by simpa using hhyphen
          obtain rfl : behind = '-' :: e :: ending := hpasses.drop_eq.symm.trans hafter
          refine ⟨tail ++ '-' :: e :: tail', behind', hpasses.trans hpasses'.cons.cons, ?_⟩
          have hmark : IsInner ['-'] := isInner_of_not_mem (by simp)
          exact hinner.append (hmark.append hinner')

/-! ## Names and openings -/

theorem not_mem_of_ofName? {name : Text} {kind : NamedClass}
    (hname : NamedClass.ofName? name = some kind) : '\\' ∉ name := by
  have hplain {known : String} (hsame : String.ofList name = known)
      (hknown : '\\' ∉ known.toList) : '\\' ∉ name := by
    rwa [← hsame, String.toList_ofList] at hknown
  unfold NamedClass.ofName? at hname
  split at hname
  case h_15 => simp at hname
  all_goals exact hplain ‹_› (by decide)

/-- The caret that negates a class, if there is one, in front of the rest. -/
theorem exists_caret (text : Text) :
    ∃ sign, text = sign ++ (if text.head? = some '^' then text.tail else text) ∧
      (text.head? = some '^' ∧ sign = ['^'] ∨ text.head? ≠ some '^' ∧ sign = []) := by
  split
  case isTrue hcaret =>
    obtain ⟨body, rfl⟩ := List.head?_eq_some_iff.1 hcaret
    exact ⟨['^'], rfl, Or.inl ⟨rfl, rfl⟩⟩
  case isFalse hcaret => exact ⟨[], rfl, Or.inr ⟨hcaret, rfl⟩⟩

theorem passes_named {tree : ClassTree} (hread : named? pos rest = some (tree, stop)) :
    tree.queries = [] ∧ ∃ tail after,
      Cursor.Passes ⟨pos + 1, rest⟩ tail ⟨stop, after⟩ ∧
      '\\' ∉ tail := by
  unfold named? at hread
  split at hread
  case h_2 => simp at hread
  case h_1 inside =>
    obtain ⟨sign, hinside, hsign⟩ := exists_caret inside
    have hlength : (if inside.head? = some '^' then 3 else 2) = sign.length + 2 ∧
        '\\' ∉ sign := by
      rcases hsign with ⟨hcaret, rfl⟩ | ⟨hcaret, rfl⟩ <;> simp [hcaret]
    simp only [hlength.1] at hread
    generalize (if inside.head? = some '^' then inside.tail else inside) = body
      at hread hinside
    split at hread
    case h_2 => simp at hread
    case h_1 after kind hafter hname =>
      obtain ⟨rfl, rfl⟩ := Prod.mk.inj (Option.some.inj hread)
      have hbody := List.prefix_iff_eq_append.1 (List.takeWhile_prefix (l := body) (· != ':'))
      rw [hafter] at hbody
      refine ⟨rfl, ':' :: (sign ++ body.takeWhile (· != ':') ++ [':', ']']), after,
        ⟨?_, ?_⟩, ?_⟩
      · simp only [hinside, List.cons_append, List.append_assoc, List.nil_append, hbody]
      · simp only [List.length_cons, List.length_append, List.length_nil]
        omega
      · simp [hlength.2, not_mem_of_ofName? hname]

/-- The hyphens that a class begins with are passed. -/
theorem passes_leadingHyphens {start : Nat} {row last : Row} {cursor after : Cursor}
    (hread : leadingHyphens false start row cursor = .ok (last, after)) :
    ∃ count, cursor.Passes (List.replicate count '-') after ∧
      last.queries = row.queries ∧ (last.items = [] → count = 0 ∧ row.items = []) := by
  fun_induction leadingHyphens false start row cursor with
  | case1 row pos =>
      obtain ⟨rfl, rfl⟩ := Prod.mk.inj (Except.ok.inj hread)
      exact ⟨0, .refl _, rfl, fun hnil => ⟨rfl, hnil⟩⟩
  | case2 row pos rest after hempty => simp [fail] at hread
  | case3 row pos rest after hempty ih =>
      obtain ⟨count, hpasses, hqueries, hitems⟩ := ih hread
      refine ⟨count + 1, hpasses.cons, ?_, fun hnil => ?_⟩
      · rw [hqueries]
        simp [Row.queries, Row.push, plainLiteral, ClassTree.queries]
      · simpa [Row.push] using (hitems hnil).2
  | case4 row pos c rest hc =>
      obtain ⟨rfl, rfl⟩ := Prod.mk.inj (Except.ok.inj hread)
      exact ⟨0, .refl _, rfl, fun hnil => ⟨rfl, hnil⟩⟩

/-- A class has been opened at `start` and is to be read on from `stop`, behind a
caret, hyphens, or a closing bracket that stands for itself. -/
structure Begins (opened : Opened) (start : Nat) (rest : Text) (stop : Nat) : Prop where
  start_eq : opened.span.start = start
  queries_eq : opened.queries = []
  exists_passes : ∃ text after,
    Cursor.Passes ⟨start + 1, rest⟩ text ⟨stop, after⟩ ∧ '\\' ∉ text ∧
      (']' ∈ text → text = [']'] ∨ text = ['^', ']'])

/-- A class begins with a text that ends no class, for its only closing bracket stands
for itself. -/
theorem begins_opening {start : Nat} {opened : Opened}
    (hread : opening false start rest = .ok (opened, stop)) :
    Begins opened start rest stop := by
  obtain ⟨sign, hrest, hsign⟩ := exists_caret rest
  obtain ⟨cursor, hcursor, hpasses⟩ : ∃ cursor : Cursor,
      (if rest.head? = some '^' then ⟨start + 1 + 1, rest.tail⟩ else ⟨start + 1, rest⟩) =
        cursor ∧ Cursor.Passes ⟨start + 1, rest⟩ sign cursor := by
    refine ⟨_, rfl, ?_⟩
    rcases hsign with ⟨hcaret, rfl⟩ | ⟨hcaret, rfl⟩
    · rw [if_pos hcaret] at hrest ⊢
      exact ⟨hrest, rfl⟩
    · rw [if_neg hcaret]
      exact .refl _
  have hcaret : '\\' ∉ sign ∧ ']' ∉ sign ∧ (sign = [] ∨ sign = ['^']) := by
    rcases hsign with ⟨-, rfl⟩ | ⟨-, rfl⟩ <;> simp
  unfold opening at hread
  rw [Cursor.skip_false] at hread
  simp only [Cursor.skip_false, hcursor] at hread
  obtain ⟨_, hread⟩ := of_guarded_eq_ok hread
  obtain ⟨_, hread⟩ := of_guarded_eq_ok hread
  obtain ⟨⟨row, ⟨pos, ending⟩⟩, hhyphens, hread⟩ := bind_eq_ok_iff.1 hread
  obtain ⟨count, hmore, hqueries, hitems⟩ := passes_leadingHyphens hhyphens
  let quiet : Opened := ⟨⟨start, pos⟩, decide (rest.head? = some '^'), none, row⟩
  have hquiet (hsame : Except.ok (quiet, pos) = (Except.ok (opened, stop) :
      Except Diagnostic _)) : Begins opened start rest stop := by
    obtain ⟨rfl, rfl⟩ := Prod.mk.inj (Except.ok.inj hsame)
    refine ⟨rfl, ?_, sign ++ List.replicate count '-', ending, hpasses.trans hmore, ?_, ?_⟩
    · rw [Opened.queries, hqueries]
      rfl
    · simp [hcaret.1]
    · simp [hcaret.2.1]
  simp only at hread
  split at hread
  case h_2 => exact hquiet hread
  case h_1 after =>
    split at hread
    case isFalse => exact hquiet hread
    case isTrue hnone =>
      obtain ⟨_, hread⟩ := of_guarded_eq_ok hread
      obtain ⟨rfl, rfl⟩ := Prod.mk.inj (Except.ok.inj hread)
      obtain ⟨rfl, _⟩ := hitems (List.isEmpty_iff.1 hnone)
      rw [List.replicate_zero] at hmore
      refine ⟨rfl, ?_, sign ++ [']'], after, hpasses.trans hmore.snoc, ?_, ?_⟩
      · rw [Row.queries] at hqueries
        simp [Opened.queries, Row.queries, Row.push, hqueries, plainLiteral,
          ClassTree.queries, Row.empty]
      · simp [hcaret.1]
      · rcases hcaret.2.2 with rfl | rfl
        · exact fun _ => Or.inl rfl
        · exact fun _ => Or.inr rfl

/-! ## Steps -/

def outermost : Nat → List Opened → Nat
  | start, [] => start
  | _, parent :: outer => outermost parent.span.start outer

/-- What a step at the character `c` leads to: the end of the outermost class, or
further reading behind some characters of its inside. -/
inductive Leads (opened : Opened) (outer : List Opened) (pos : Nat) (c : Char)
    (rest : Text) : Step → Prop where
  | closed (hc : c = ']') (houter : outer = []) :
      Leads opened outer pos c rest
        (.closed (.bracketed ⟨opened.span.start, pos + 1⟩ opened.negated opened.tree)
          (pos + 1))
  | more {next : Opened} {around : List Opened} {stop : Nat}
      (hstart : outermost next.span.start around = outermost opened.span.start outer)
      (hasks : ∀ query, Asks opened outer query → Asks next around query)
      (hpasses : (∀ query, Asks next around query → query.IsKnown) →
        ∃ tail after, Cursor.Passes ⟨pos + 1, rest⟩ tail ⟨stop, after⟩ ∧
          IsPaired (c :: tail) ∧
          (outer = [] → '[' ∉ unescaped (c :: tail) →
            around = [] ∧ ']' ∉ unescaped (c :: tail))) :
      Leads opened outer pos c rest (.more next around stop)

/-- Operators are written with one character twice, which is no backslash. -/
theorem of_operation {kind : SetOperation}
    (hkind : (if rest.head? = some c then operation? c else none) = some kind) :
    rest.head? = some c ∧ c ≠ '\\' := by
  split at hkind
  case isFalse => simp at hkind
  case isTrue hdouble =>
    refine ⟨hdouble, ?_⟩
    rintro rfl
    simp [operation?] at hkind

/-- A step inside a class closes the outermost one, or passes a piece of its inside. -/
theorem leads_step {opened : Opened} {outer : List Opened} {next : Step}
    (hstep : step false opened outer pos c rest = .ok next) :
    Leads opened outer pos c rest next := by
  unfold step at hstep
  split at hstep
  case isTrue hopening =>
    subst hopening
    have hbracket (tail : Text) : '[' ∈ unescaped ('[' :: tail) := by
      rw [unescaped_cons (by decide)]
      exact List.mem_cons_self
    split at hstep
    case h_1 tree stop hnamed =>
      obtain rfl := Except.ok.inj hstep
      obtain ⟨_, tail, after, hpasses, hnone⟩ := passes_named hnamed
      exact .more rfl (fun query hquery => asks_push.2 (Or.inr hquery)) fun _ =>
        ⟨tail, after, hpasses, isPaired_of_not_mem (by simp [hnone]),
          fun _ hfree => absurd (hbracket tail) hfree⟩
    case h_2 =>
      obtain ⟨⟨inner, stop⟩, hinner, hsame⟩ := bind_eq_ok_iff.1 hstep
      obtain rfl := Except.ok.inj hsame
      obtain ⟨_, _, tail, after, hpasses, hnone, _⟩ := begins_opening hinner
      exact .more rfl (fun query hquery => List.mem_append_right _ hquery) fun _ =>
        ⟨tail, after, hpasses, isPaired_of_not_mem (by simp [hnone]),
          fun _ hfree => absurd (hbracket tail) hfree⟩
  case isFalse hopening =>
    split at hstep
    case isTrue hclosing =>
      subst hclosing
      cases outer with
      | nil =>
          obtain rfl := Except.ok.inj hstep
          exact .closed rfl rfl
      | cons parent outer =>
          obtain rfl := Except.ok.inj hstep
          refine .more rfl (fun query hquery => ?_) fun _ =>
            ⟨[], rest, .refl _, isPaired_of_not_mem (by simp), by simp⟩
          rw [asks_push, ClassTree.queries, Opened.mem_queries_tree]
          exact List.mem_append.1 hquery
    case isFalse hclosing =>
      split at hstep
      case h_1 kind hkind =>
        obtain rfl := Except.ok.inj hstep
        refine .more rfl (fun query hquery => asks_operate.2 hquery) fun _ => ?_
        obtain ⟨hdouble, hnone⟩ := of_operation hkind
        obtain ⟨after, rfl⟩ := List.head?_eq_some_iff.1 hdouble
        have hinner : IsInner [c, c] :=
          isInner_of_not_mem (by simp [Ne.symm hnone, Ne.symm hclosing])
        exact ⟨[c], after, .cons (.refl _), hinner.paired,
          fun houter _ => ⟨houter, hinner.not_mem⟩⟩
      case h_2 =>
        obtain ⟨⟨tree, stop⟩, hitem, hsame⟩ := bind_eq_ok_iff.1 hstep
        obtain rfl := Except.ok.inj hsame
        refine .more rfl (fun query hquery => asks_push.2 (Or.inr hquery))
          fun hanswered => ?_
        obtain ⟨tail, after, hpasses, hinner⟩ := passes_memberOrRange hclosing hitem
          fun query hquery => hanswered query (asks_push.2 (Or.inl hquery))
        exact ⟨tail, after, hpasses, hinner.paired,
          fun houter _ => ⟨houter, hinner.not_mem⟩⟩

/-! ## Whole classes -/

/-- A reading inside a class that succeeds ends behind the bracket that closes the
outermost class. -/
theorem passes_inside {opened : Opened} {outer : List Opened} {tree : Tree}
    (hread : inside false opened outer pos rest = .ok (tree, stop)) :
    ∃ negated body,
      tree = .bracketed ⟨outermost opened.span.start outer, stop⟩ negated body ∧
      (∀ query, Asks opened outer query → query ∈ body.queries) ∧
      (Escape.Answered tree → ∃ text after,
        Cursor.Passes ⟨pos, rest⟩ (text ++ [']']) ⟨stop, after⟩ ∧ IsPaired text ∧
          (outer = [] → '[' ∉ unescaped text → ']' ∉ unescaped text)) := by
  fun_induction inside false opened outer pos rest with
  | case1 | case2 => simp at hread
  | case3 opened outer start rest pos c cs hskip closed last hstep =>
      obtain ⟨rfl, rfl⟩ := Cursor.mk.inj hskip
      obtain ⟨rfl, rfl⟩ := Prod.mk.inj (Except.ok.inj hread)
      cases leads_step hstep with
      | closed hc houter =>
          subst hc houter
          refine ⟨_, _, rfl, fun query hquery => ?_, fun _ =>
            ⟨[], cs, .cons (.refl _), IsPaired.nil, by simp⟩⟩
          rw [Opened.mem_queries_tree]
          simpa [Asks] using hquery
  | case4 opened outer start rest pos c cs hskip next around middle hstep ih =>
      obtain ⟨rfl, rfl⟩ := Cursor.mk.inj hskip
      obtain ⟨negated, body, htree, hbody, hmore⟩ := ih hread
      cases leads_step hstep with
      | more hstart hasks hpasses =>
          refine ⟨negated, body, hstart ▸ htree, fun query hquery =>
            hbody query (hasks query hquery), fun hanswered => ?_⟩
          obtain ⟨tail, after, hstep, hpaired, hfree⟩ := hpasses fun query hquery =>
            hanswered query (by
              rw [htree, Tree.features]
              exact List.mem_cons_of_mem _ (List.mem_map_of_mem (hbody query hquery)))
          obtain ⟨text, behind, hpasses', hpaired', hfree'⟩ := hmore hanswered
          rw [hstep.drop_eq] at hpasses'
          refine ⟨c :: tail ++ text, behind, ?_, hpaired.append hpaired', ?_⟩
          · rw [List.append_assoc]
            exact hstep.cons.trans hpasses'
          · intro houter hnone
            rw [unescaped_append hpaired, List.mem_append, not_or] at hnone ⊢
            obtain ⟨haround, hclosing⟩ := hfree houter hnone.1
            exact ⟨hclosing, hfree' haround hnone.2⟩

/-- No class stands inside, and no closing bracket comes first behind the caret. -/
def IsFlat (inside : Text) : Prop :=
  '[' ∉ unescaped inside ∧
    (if inside.head? = some '^' then inside.tail else inside).head? ≠ some ']'

instance (inside : Text) : Decidable (IsFlat inside) :=
  inferInstanceAs (Decidable (_ ∧ _))

/-- A class that is read ends with a bracket that is not escaped, the first such
one if the class is flat. -/
theorem passes_read {start : Nat} {tree : Tree}
    (hread : ClassReading.read false start rest = .ok (tree, stop)) :
    ∃ queries : List PropertyQuery,
      tree.features = .bracketed ⟨start, stop⟩ :: queries.map .query ∧
      (Escape.Answered tree → ∃ inside after,
        Cursor.Passes ⟨start + 1, rest⟩ (inside ++ [']']) ⟨stop, after⟩ ∧
          IsPaired inside ∧ (IsFlat inside → ']' ∉ unescaped inside)) := by
  obtain ⟨⟨opened, pos⟩, hopening, hinside⟩ := bind_eq_ok_iff.1 hread
  obtain ⟨hstart, _, text, after, hpasses, hnone, hclosing⟩ := begins_opening hopening
  obtain ⟨negated, body, htree, _, hmore⟩ := passes_inside hinside
  refine ⟨body.queries, ?_, fun hanswered => ?_⟩
  · rw [htree, Tree.features, outermost, hstart]
  · obtain ⟨others, behind, hpasses', hpaired, hfree⟩ := hmore hanswered
    simp only [hpasses.drop_eq] at hpasses'
    have htext := isPaired_of_not_mem hnone
    refine ⟨text ++ others, behind, ?_, htext.append hpaired, fun hflat => ?_⟩
    · rw [List.append_assoc]
      exact hpasses.trans hpasses'
    · rw [unescaped_append htext, unescaped_eq_self hnone, List.mem_append, not_or]
      have hopen := hflat.1
      rw [unescaped_append htext, List.mem_append, not_or] at hopen
      refine ⟨fun hmem => hflat.2 ?_, hfree rfl hopen.2⟩
      rcases hclosing hmem with rfl | rfl <;> rfl

end ClassReading

end PatternWorkbench.Pattern
