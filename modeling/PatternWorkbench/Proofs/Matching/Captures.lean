import PatternWorkbench.Proofs.Machine.Greed
import PatternWorkbench.Proofs.Machine.Rounds
import PatternWorkbench.Proofs.Matching.AllOrNothing
import PatternWorkbench.Proofs.Pattern.Groups
import PatternWorkbench.Proofs.Pattern.Numbering
import PatternWorkbench.Proofs.Pattern.Parts

/-!
# Captures of a record

A record lists the groups that its match went through, each with the stretch of
its latest round: those with a name if the pattern has any, and all of them by
number otherwise.  No two entries have the same name, so that a name leads to its
own entry.  A group that stands in a part repeated zero times is no group of the
search, and its name does not count either.
-/

namespace PatternWorkbench.Matching

open Machine (Course Footprint Found Holds Passes Program latest?)
open Pattern (Expr Tree)
open Pattern.Reading (State)
open Unicode (CharSet)

/-! ## Names of captures -/

theorem decimal_injective : Function.Injective decimal :=
  Function.LeftInverse.injective Pattern.RepetitionReading.decimalValue_decimal

theorem groupName_injective : Function.Injective groupName :=
  fun _ _ hsame => decimal_injective (List.append_cancel_left hsame)

/-- Every name leads to its own entry, and any other name to none. -/
structure Record.IsAddressable (record : Record) : Prop where
  distinct : (record.captures.map (·.name)).Nodup
  own : ∀ capture ∈ record.captures, record.capture? capture.name = some capture.value
  missing : ∀ name, name ∉ record.captures.map (·.name) → record.capture? name = none

theorem Record.isAddressable {record : Record}
    (hdistinct : (record.captures.map (·.name)).Nodup) : record.IsAddressable where
  distinct := hdistinct
  own capture hmem := by
    obtain ⟨other, hother⟩ : ∃ other,
        record.captures.find? (·.name == capture.name) = some other := by
      rw [← Option.isSome_iff_exists, List.find?_isSome]
      exact ⟨capture, hmem, beq_self_eq_true _⟩
    have hname : other.name = capture.name := by simpa using List.find?_some hother
    obtain rfl := List.inj_on_of_nodup_map hdistinct (List.mem_of_find?_eq_some hother)
      hmem hname
    rw [capture?, hother, Option.map_some]
  missing name hname := by
    rw [capture?, Option.map_eq_none_iff, List.find?_eq_none]
    intro capture hmem hsame
    exact hname (List.mem_map.2 ⟨capture, hmem, by simpa using hsame⟩)

/-! ## Groups that are listed -/

section Listed

variable {groups : List (Nat × Option Text)} {sample : Text}
  {rounds : List Machine.Round}

def namedGroups (groups : List (Nat × Option Text)) : List (Nat × Text) :=
  groups.filterMap fun (index, name) => name.map ((index, ·))

def numberedGroups (groups : List (Nat × Option Text)) : List (Nat × Text) :=
  groups.map fun (index, _) => (index, groupName index)

theorem reportedGroups_of_named (hnamed : namedGroups groups ≠ []) :
    reportedGroups groups = namedGroups groups :=
  if_neg (mt List.isEmpty_iff.1 hnamed)

theorem reportedGroups_of_unnamed (hnamed : namedGroups groups = []) :
    reportedGroups groups = numberedGroups groups :=
  if_pos (List.isEmpty_iff.2 hnamed)

/-- The groups that have a round, under the given names and in their order, each with
the stretch of its latest round. -/
def listed (sample : Text) (rounds : List Machine.Round) (groups : List (Nat × Text)) :
    List Capture :=
  groups.filterMap fun (index, name) =>
    (latest? rounds index).map fun round => ⟨name, slice sample round.start round.stop⟩

theorem names_namedGroups (groups : List (Nat × Option Text)) :
    (namedGroups groups).map (·.2) = groups.filterMap (·.2) := by
  rw [namedGroups, List.map_filterMap]
  refine List.filterMap_congr fun group _ => ?_
  rw [Option.map_map]
  exact Option.map_id'

theorem names_numberedGroups (groups : List (Nat × Option Text)) :
    (numberedGroups groups).map (·.2) = (groups.map (·.1)).map groupName := by
  rw [numberedGroups, List.map_map, List.map_map]
  rfl

theorem names_listed_sublist (sample : Text) (rounds : List Machine.Round)
    (groups : List (Nat × Text)) :
    ((listed sample rounds groups).map (·.name)).Sublist (groups.map (·.2)) := by
  induction groups with
  | nil => exact List.nil_sublist _
  | cons group rest ih =>
      obtain ⟨index, name⟩ := group
      rw [listed] at ih
      simp only [listed, List.filterMap_cons]
      cases latest? rounds index with
      | none => exact ih.cons name
      | some round => exact ih.cons_cons name

/-- A capture is listed for each group that took part, with what its latest round
matched. -/
theorem mem_listed_iff {given : List (Nat × Text)} {capture : Capture} :
    capture ∈ listed sample rounds given ↔
      ∃ group ∈ given, ∃ round, latest? rounds group.1 = some round ∧
        capture = ⟨group.2, slice sample round.start round.stop⟩ := by
  rw [listed, List.mem_filterMap]
  apply exists_congr
  intro group
  rw [Option.map_eq_some_iff]
  simp only [eq_comm]

/-- A stretch inside another one is part of its text. -/
theorem slice_isInfix {start first last stop : Nat} (hstart : start ≤ first)
    (hstop : last ≤ stop) : slice sample first last <:+: slice sample start stop := by
  have hinner : slice sample first last =
      ((slice sample start stop).drop (first - start)).take (last - first) := by
    rw [slice, slice, List.drop_take, List.take_take, List.drop_drop,
      Nat.add_sub_cancel' hstart, Nat.min_eq_left (by omega)]
  rw [hinner]
  exact (List.take_prefix _ _).isInfix.trans (List.drop_suffix _ _).isInfix

/-- The entries of a record: groups with their latest rounds, or the whole match where
there are no groups. -/
structure Lists (groups : List (Nat × Option Text)) (sample : Text)
    (rounds : List Machine.Round) (record : Record) : Prop where
  named : namedGroups groups ≠ [] →
    record.captures = listed sample rounds (namedGroups groups)
  numbered : namedGroups groups = [] → groups ≠ [] →
    record.captures = listed sample rounds (numberedGroups groups)
  whole : groups = [] → record.captures = [⟨wholeName, record.matchedText⟩]

theorem lists_ofFound {found : Found} (hholds : Holds found.marks rounds)
    (groups : List (Nat × Option Text)) (sample : Text) :
    Lists groups sample rounds (.ofFound groups sample found) := by
  have hlisted (hgroups : groups ≠ []) : capturesOf groups sample found =
      listed sample rounds (reportedGroups groups) := by
    rw [capturesOf, if_neg (mt List.isEmpty_iff.1 hgroups), listed]
    apply List.filterMap_congr
    rintro ⟨index, name⟩ _
    simp only [found.group?_of_holds hholds, Option.map_map]
    rfl
  constructor
  case named =>
    intro hnamed
    have hgroups : groups ≠ [] := by
      rintro rfl
      contradiction
    rw [← reportedGroups_of_named hnamed, ← hlisted hgroups, Record.ofFound]
  case numbered =>
    intro hnamed hgroups
    rw [← reportedGroups_of_unnamed hnamed, ← hlisted hgroups, Record.ofFound]
  case whole =>
    rintro rfl
    rfl

namespace Lists

variable {record : Record}

/-- No two captures of a record have the same name. -/
theorem nodup_names (hlists : Lists groups sample rounds record)
    (hindices : (groups.map (·.1)).Nodup) (hnames : (groups.filterMap (·.2)).Nodup) :
    (record.captures.map (·.name)).Nodup := by
  by_cases hgroups : groups = []
  · rw [hlists.whole hgroups]
    exact List.nodup_singleton _
  by_cases hnamed : namedGroups groups = []
  · rw [hlists.numbered hnamed hgroups]
    apply (names_listed_sublist sample rounds _).nodup
    rw [names_numberedGroups]
    exact hindices.map groupName_injective
  · rw [hlists.named hnamed]
    apply (names_listed_sublist sample rounds _).nodup
    rw [names_namedGroups]
    exact hnames

theorem within (hlists : Lists groups sample rounds record) {start stop : Nat}
    (hmatched : record.matchedText = slice sample start stop)
    (hrounds : ∀ round ∈ rounds, start ≤ round.start ∧ round.stop ≤ stop) :
    ∀ capture ∈ record.captures, capture.value <:+: record.matchedText := by
  have hinside {given : List (Nat × Text)} :
      ∀ capture ∈ listed sample rounds given, capture.value <:+: record.matchedText := by
    intro capture hcapture
    obtain ⟨group, _, round, hlatest, rfl⟩ := mem_listed_iff.1 hcapture
    obtain ⟨hstart, hstop⟩ := hrounds round (List.mem_of_find?_eq_some hlatest)
    rw [hmatched]
    exact slice_isInfix hstart hstop
  by_cases hgroups : groups = []
  · rw [hlists.whole hgroups]
    exact List.forall_mem_singleton.2 (List.infix_refl _)
  by_cases hnamed : namedGroups groups = []
  · rw [hlists.numbered hnamed hgroups]
    exact hinside
  · rw [hlists.named hnamed]
    exact hinside

end Lists

end Listed

/-! ## Records of a run -/

/-- Every record of a run is that of a match of the expression. -/
theorem exists_found_of_execute {pattern sample : Text} {flags : Flags} {budget : Budget}
    {records : List Record} (hpattern : pattern ≠ [])
    (hrun : execute pattern flags sample budget = .ok records) {record : Record}
    (hrecord : record ∈ records) :
    ∃ expr found, Expr.read flags.modes pattern = .ok expr ∧
      found ∈ allFrom (.ofExpr expr) sample.toArray 0 ∧
      record = .ofFound expr.captures sample found := by
  obtain ⟨program, hcompile⟩ := exists_compile_of_execute hpattern hrun
  obtain ⟨expr, hread, _, rfl⟩ := compile_eq_ok hcompile
  rw [execute_eq_executeClocked] at hrun
  obtain rfl := eq_completeRecords _ hpattern hcompile hrun
  obtain ⟨found, hfound, rfl⟩ := List.mem_map.1 hrecord
  refine ⟨expr, found, hread, ?_, rfl⟩
  rw [completeFrom] at hfound
  split at hfound
  case isTrue => exact hfound
  case isFalse => exact List.mem_of_mem_take hfound

/-- A record lists the groups that its match went through. -/
structure Captured (tree : Tree) (expr : Expr) (sample : Text) (found : Found)
    (record : Record) : Prop where
  matched : record.matchedText = slice sample found.start found.stop
  placed : record.startOffset = byteLength (sample.take found.start)
  /-- Groups are missing from the search only if a part is repeated zero times. -/
  kept : tree.keepsAll = true → tree.keptGroups = tree.groups
  increasing : (tree.keptGroups.map (·.1)).Pairwise (· < ·)
  /-- The rounds are those of the match, with the latest ones in its slots. -/
  lists : ∃ rounds, Passes sample.toArray expr found.start found.stop rounds ∧
    Holds found.marks rounds ∧ Lists tree.keptGroups sample rounds record
  addressable : record.IsAddressable
  within : ∀ capture ∈ record.captures, capture.value <:+: record.matchedText

theorem captured_ofFound {tree : Tree} (hnumbered : tree.IsNumbered) {expr : Expr}
    (hcaptures : expr.captures = tree.keptGroups) {sample : Text} {found : Found}
    (hfound : found ∈ allFrom (.ofExpr expr) sample.toArray 0) :
    Captured tree expr sample found (.ofFound expr.captures sample found) := by
  have hincreasing := hnumbered.increasing
  have hindices : (tree.keptGroups.map (·.1)).Nodup := hincreasing.imp Nat.ne_of_lt
  have hnames : (tree.keptGroups.filterMap (·.2)).Nodup :=
    hnumbered.names.sublist (tree.keptGroups_sublist.filterMap _)
  obtain ⟨_, _, _, hcourse⟩ := (scanned_allFrom 0).bounds found hfound
  obtain ⟨rounds, hpasses, hholds⟩ := Machine.exists_passes (hcaptures ▸ hindices) hcourse
  have hlists := lists_ofFound hholds tree.keptGroups sample
  have hrounds : ∀ round ∈ rounds, found.start ≤ round.start ∧ round.stop ≤ found.stop := by
    intro round hround
    obtain ⟨hstart, _, hstop⟩ := hpasses.bounds.2 round hround
    exact ⟨hstart, hstop⟩
  rw [hcaptures]
  exact {
    matched := rfl
    placed := rfl
    kept := Tree.keptGroups_eq
    increasing := hincreasing
    lists := ⟨rounds, hpasses, hholds, hlists⟩
    addressable := Record.isAddressable (hlists.nodup_names hindices hnames)
    within := hlists.within rfl hrounds }

/-- The captures of a run are complete, in order and apart: each record lists the groups
of the pattern that its match went through. -/
theorem captures_of_execute {pattern sample : Text} {flags : Flags} {budget : Budget}
    {records : List Record} (hrun : execute pattern flags sample budget = .ok records) :
    ∀ record ∈ records, ∃ tree expr found, Tree.read pattern = .ok tree ∧ tree.IsNumbered ∧
      Expr.read flags.modes pattern = .ok expr ∧
      found ∈ allFrom (.ofExpr expr) sample.toArray 0 ∧
      Captured tree expr sample found record := by
  intro record hrecord
  by_cases hpattern : pattern = []
  · rw [execute, hpattern] at hrun
    obtain rfl := Except.ok.inj hrun
    exact absurd hrecord List.not_mem_nil
  obtain ⟨expr, found, hread, hfound, rfl⟩ := exists_found_of_execute hpattern hrun hrecord
  obtain ⟨tree, htree, hnumbered, hcaptures⟩ := Expr.captures_of_read hread
  exact ⟨tree, expr, found, htree, hnumbered, hread, hfound,
    captured_ofFound hnumbered hcaptures hfound⟩

/-- Of two groups around the same character only the one with a name is listed. -/
theorem captures_of_execute_nested :
    let record : Record := ⟨"y".toList, 0, 1, [⟨"b".toList, "y".toList⟩]⟩
    execute "((?<b>y))".toList {} "y".toList {} = .ok [record] ∧
      ∃ tree expr found, Tree.read "((?<b>y))".toList = .ok tree ∧
        Captured tree expr "y".toList found record := by
  have hname : Pattern.GroupReading.isName ['b'] = true := by decide +kernel
  have htree : State.initial.read 0 "((?<b>y))".toList =
      .ok (.group ⟨0, 9⟩ (.capture 1 none) (.group ⟨1, 8⟩ (.capture 2 (some ['b']))
        (Pattern.Escape.literal 6 7 'y' false))) := by
    calc
      State.initial.read 0 "((?<b>y))".toList
      _ = _ := State.read_numbered rfl 0 "?<b>y))".toList (by decide)
      _ = _ := State.read_named rfl 1 "y))".toList hname List.not_mem_nil
      _ = _ := State.read_char rfl (by decide) 6 "))".toList
      _ = _ := State.read_close rfl rfl 7 [')']
      _ = _ := State.read_close rfl rfl 8 []
      _ = _ := State.read_nil rfl 9
  have hread : Expr.read ({} : Flags).modes "((?<b>y))".toList =
      .ok (.capture 1 none (.capture 2 (some ['b']) (.set (.single 'y')))) := by
    rw [Expr.read, Tree.read, htree]
    rfl
  have hsize : Machine.exceeds ({} : Budget).sizeLimit
      (.capture 1 none (.capture 2 (some ['b']) (.set (.single 'y')))) = false := by
    apply exceeds_of_bytes_le <;>
      simp only [Footprint.ofExpr, Footprint.addExpr, Footprint.addSet,
        CharSet.single?_single (c := 'y') (by decide) (by decide)] <;>
      decide
  have htake : Course.take "y".toList.toArray (.single 'y') 0 1 [] :=
    ⟨⟨'y', rfl, by simp⟩, rfl, rfl⟩
  have hsearch : (Program.ofExpr
      (.capture 1 none (.capture 2 (some ['b']) (.set (.single 'y'))))).search?
        "y".toList.toArray 0 = some ⟨0, 1, [(3, 1), (5, 1), (4, 0), (2, 0)]⟩ :=
    Program.search?_of_prefers _ (Nat.zero_le _) ⟨_, ⟨_, htake, rfl⟩, rfl⟩
  have hrun := execute_of_search? (by decide) rfl (by decide) hread hsize hsearch
  obtain ⟨tree, expr, found, htree, _, _, _, hcaptured⟩ :=
    captures_of_execute hrun _ (List.mem_singleton_self _)
  exact ⟨hrun, tree, expr, found, htree, hcaptured⟩

/-- A named group in a part that is repeated zero times keeps no other group from being
listed by number. -/
theorem captures_ne_of_dropped_group :
    let pattern := "(?<a>x)\x7b0\x7d(y)".toList
    let groups : List (Nat × Option Text) := [(1, some ['a']), (2, none)]
    (Tree.read pattern).map Tree.groups = .ok groups ∧ namedGroups groups ≠ [] ∧
      ∃ record, execute pattern {} "y".toList {} = .ok [record] ∧
        ∀ rounds, record.captures ≠ listed "y".toList rounds (namedGroups groups) := by
  have hname : Pattern.GroupReading.isName ['a'] = true := by decide +kernel
  have htree : Tree.read "(?<a>x)\x7b0\x7d(y)".toList = .ok (.concat ⟨0, 13⟩
      [.repetition ⟨0, 10⟩ ⟨0, some 0⟩ true (.group ⟨0, 7⟩ (.capture 1 (some ['a']))
        (Pattern.Escape.literal 5 6 'x' false)),
      .group ⟨10, 13⟩ (.capture 2 none) (Pattern.Escape.literal 11 12 'y' false)]) := by
    have hwhole := calc
      State.initial.read 0 "(?<a>x)\x7b0\x7d(y)".toList
      _ = _ := State.read_named rfl 0 "x)\x7b0\x7d(y)".toList hname List.not_mem_nil
      _ = _ := State.read_char rfl (by decide) 5 ")\x7b0\x7d(y)".toList
      _ = _ := State.read_close rfl rfl 6 "\x7b0\x7d(y)".toList
      _ = _ := State.read_counted rfl 7 0 "(y)".toList (by decide) (by decide) rfl
      _ = _ := State.read_numbered rfl 10 [')'] (by decide)
      _ = _ := State.read_char rfl (by decide) 11 [')']
      _ = _ := State.read_close rfl rfl 12 []
      _ = _ := State.read_nil rfl 13
    rw [Tree.read, hwhole]
    rfl
  have hread : Expr.read ({} : Flags).modes "(?<a>x)\x7b0\x7d(y)".toList =
      .ok (.capture 2 none (.set (.single 'y'))) := by
    rw [Expr.read, htree]
    rfl
  have hsize : Machine.exceeds ({} : Budget).sizeLimit
      (.capture 2 none (.set (.single 'y'))) = false := by
    apply exceeds_of_bytes_le <;>
      simp only [Footprint.ofExpr, Footprint.addExpr, Footprint.addSet,
        CharSet.single?_single (c := 'y') (by decide) (by decide)] <;>
      decide
  have htake : Course.take "y".toList.toArray (.single 'y') 0 1 [] :=
    ⟨⟨'y', rfl, by simp⟩, rfl, rfl⟩
  have hsearch : (Program.ofExpr (.capture 2 none (.set (.single 'y')))).search?
      "y".toList.toArray 0 = some ⟨0, 1, [(5, 1), (4, 0)]⟩ :=
    Program.search?_of_prefers _ (Nat.zero_le _) ⟨_, htake, rfl⟩
  have hrun := execute_of_search? (by decide) rfl (by decide) hread hsize hsearch
  refine ⟨by rw [htree]; rfl, by decide, _, hrun, ?_⟩
  intro rounds hlisted
  have hnames := names_listed_sublist "y".toList rounds
    (namedGroups [(1, some ['a']), (2, none)])
  rw [← hlisted] at hnames
  exact absurd hnames (by decide)

end PatternWorkbench.Matching
