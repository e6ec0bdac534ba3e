import PatternWorkbench.Proofs.Inference.Pieces
import PatternWorkbench.Proofs.Inference.Probe

/-!
# Greedy segmentation

What a rule covers is what its pattern finds at the beginning of a text.  So the
segments of a sample are the greedy tiling of it: each is what the first rule
with a claim finds in the rest of the sample, or a single character.
-/

namespace PatternWorkbench.Inference

open Matching (FindsFirst)

/-! ## Claims -/

/-- A rule claims what its probe finds, if that is not empty and, for a status code,
a blank or the end of the text is behind it. -/
structure Rule.Claims (rule : Rule) (text piece : Text) : Prop where
  found : FindsFirst rule.probe text piece
  nonempty : piece ≠ []
  followed : rule.follow = .blankOrEnd →
    ∀ c, (text.drop piece.length).head? = some c → Unicode.isBlank c = true

theorem Follow.blankOrEnd_agrees_iff {after : Text} :
    blankOrEnd.agrees after = true ↔
      ∀ c, after.head? = some c → Unicode.isBlank c = true := by
  cases after <;> simp [agrees]

/-- A rule claims what it covers and nothing else. -/
theorem Rule.claims_iff {rule : Rule} {text piece : Text} :
    rule.Claims text piece ↔
      ∃ length, rule.cover? text = some length ∧ piece = text.take length := by
  constructor
  · rintro ⟨hfound, hne, hfollowed⟩
    obtain ⟨length, hshape, hword, rfl⟩ := rule.findsFirst_probe_iff.1 hfound
    rw [List.length_take_of_le (Shape.cover?_le hshape)] at hfollowed
    have hlength : 0 < length := by
      apply Nat.pos_of_ne_zero
      rintro rfl
      exact hne rfl
    have hagrees : rule.follow.agrees (text.drop length) = true := by
      cases hfollow : rule.follow with
      | anything => rfl
      | blankOrEnd => exact Follow.blankOrEnd_agrees_iff.2 (hfollowed hfollow)
      | wordEnd => exact hfollow ▸ hword hfollow
    exact ⟨length, cover?_eq_some_iff.2 ⟨hshape, hlength, hagrees⟩, rfl⟩
  · rintro ⟨length, hcover, rfl⟩
    obtain ⟨hshape, hlength, hagrees⟩ := cover?_eq_some_iff.1 hcover
    have htake := List.length_take_of_le (Shape.cover?_le hshape)
    refine ⟨rule.findsFirst_probe_iff.2 ⟨length, hshape, fun _ => hagrees, rfl⟩, ?_, ?_⟩
    · intro hnil
      rw [hnil, List.length_nil] at htake
      omega
    · intro hfollow
      rw [htake]
      rw [hfollow] at hagrees
      exact Follow.blankOrEnd_agrees_iff.1 hagrees

/-- A rule claims no piece of a text exactly where it covers nothing. -/
theorem Rule.not_claims_iff {rule : Rule} {text : Text} :
    (∀ piece, ¬ rule.Claims text piece) ↔ rule.cover? text = none := by
  constructor
  · intro hvain
    rw [Option.eq_none_iff_forall_ne_some]
    intro length hcover
    exact hvain _ (claims_iff.2 ⟨length, hcover, rfl⟩)
  · intro hnone piece hclaims
    obtain ⟨length, hcover, _⟩ := claims_iff.1 hclaims
    rw [hnone] at hcover
    contradiction

/-! ## Tilings -/

/-- What is cut from the beginning of a text: the claim of the first rule that has
one, or a single character if no rule has. -/
inductive Cut (text : Text) : Option Rule → Text → Prop where
  | claim {rule : Rule} {piece : Text} {earlier later : List Rule}
      (hall : Rule.all = earlier ++ rule :: later) (hclaims : rule.Claims text piece)
      (hearlier : ∀ other ∈ earlier, ∀ piece, ¬ other.Claims text piece) :
      Cut text (some rule) piece
  | literal {c : Char} {rest : Text} (htext : text = c :: rest)
      (hvain : ∀ rule ∈ Rule.all, ∀ piece, ¬ rule.Claims text piece) :
      Cut text none [c]

/-- The segments make up the text, each begins and ends where its text does, each is
what is cut from the rest of the text, and its fragment accepts it. -/
structure IsGreedyTiling (text : Text) (segments : List Segment) : Prop where
  whole : (segments.map Segment.text).flatten = text
  nonempty : ∀ segment ∈ segments, segment.text ≠ []
  start : ∀ before segment after, segments = before ++ segment :: after →
    segment.start = byteLength (before.map Segment.text).flatten
  stop : ∀ before segment after, segments = before ++ segment :: after →
    segment.stop = byteLength ((before ++ [segment]).map Segment.text).flatten
  cut : ∀ before segment after, segments = before ++ segment :: after →
    Cut ((segment :: after).map Segment.text).flatten segment.rule segment.text
  accepted : ∀ segment ∈ segments, Accepts {} segment.fragment segment.text

/-- What is cut from a text is its first segment. -/
theorem cut_iff (start : Nat) {c : Char} {rest piece : Text} {rule : Option Rule} :
    Cut (c :: rest) rule piece ↔ rule = (Segment.first start c rest).rule ∧
      piece = (Segment.first start c rest).text := by
  constructor
  · rintro (@⟨rule, _, earlier, later, hall, hclaims, hearlier⟩ | ⟨htext, hvain⟩)
    · obtain ⟨length, hcover, rfl⟩ := Rule.claims_iff.1 hclaims
      have hcovering : Segment.coveringRule? (c :: rest) = some (rule, length) := by
        refine List.findSome?_eq_some_iff.2 ⟨_, _, _, hall, by rw [hcover, Option.map_some],
          fun other hother => ?_⟩
        rw [Rule.not_claims_iff.1 (hearlier other hother), Option.map_none]
      rw [Segment.first, hcovering]
      exact ⟨rfl, rfl⟩
    · obtain ⟨rfl, rfl⟩ := List.cons.inj htext
      have hcovering : Segment.coveringRule? (c :: rest) = none := by
        refine List.findSome?_eq_none_iff.2 fun rule hrule => ?_
        rw [Rule.not_claims_iff.1 (hvain rule hrule), Option.map_none]
      rw [Segment.first, hcovering]
      exact ⟨rfl, rfl⟩
  · rintro ⟨rfl, rfl⟩
    unfold Segment.first
    split
    case h_1 rule length hcovered =>
      obtain ⟨earlier, tried, later, hall, htried, hearlier⟩ :=
        List.findSome?_eq_some_iff.1 hcovered
      obtain ⟨width, hcover, hsame⟩ := Option.map_eq_some_iff.1 htried
      obtain ⟨rfl, rfl⟩ := Prod.mk.inj hsame
      refine .claim hall (Rule.claims_iff.2 ⟨width, hcover, rfl⟩) fun other hother => ?_
      exact Rule.not_claims_iff.2 (Option.map_eq_none_iff.1 (hearlier other hother))
    case h_2 hnone =>
      refine .literal rfl fun rule hrule => ?_
      have hvain := List.findSome?_eq_none_iff.1 hnone rule hrule
      exact Rule.not_claims_iff.2 (Option.map_eq_none_iff.1 hvain)

/-- The segments of a sample are the greedy tiling of it. -/
theorem segments_isGreedyTiling (text : Text) : IsGreedyTiling text (segments text) := by
  have hwhole : ((segments text).map Segment.text).flatten = text :=
    flatten_text_segmentsFrom 0 text
  have hstart : ∀ before segment after, segments text = before ++ segment :: after →
      segment.start = byteLength (before.map Segment.text).flatten := by
    intro before segment after hsegments
    obtain ⟨c, rest, _, rfl⟩ := exists_eq_first hsegments
    rw [start_first, Nat.zero_add]
  have hcut : ∀ before segment after, segments text = before ++ segment :: after →
      Cut ((segment :: after).map Segment.text).flatten segment.rule segment.text := by
    intro before segment after hsegments
    obtain ⟨c, rest, htext, hfirst⟩ := exists_eq_first hsegments
    have hrest : ((segment :: after).map Segment.text).flatten = c :: rest := by
      rw [hsegments, List.map_append, List.flatten_append] at hwhole
      exact List.append_cancel_left (hwhole.trans htext)
    rw [hrest, hfirst]
    exact (cut_iff _).2 ⟨rfl, rfl⟩
  constructor
  · exact hwhole
  · intro segment hsegment
    obtain ⟨before, after, hsegments⟩ := List.append_of_mem hsegment
    obtain ⟨c, rest, _, rfl⟩ := exists_eq_first hsegments
    exact Segment.text_first_ne_nil _ c rest
  · exact hstart
  · intro before segment after hsegments
    rw [Segment.stop, hstart before segment after hsegments]
    simp
  · exact hcut
  · intro segment hsegment
    exact (fits_of_mem_segmentsFrom {} 0 text segment hsegment).accepts rfl

theorem Segment.eq_of_fields {left right : Segment} (hrule : left.rule = right.rule)
    (htext : left.text = right.text) (hstart : left.start = right.start) :
    left = right := by
  cases left
  cases right
  simp_all

/-- Tiles that begin one behind the other, each cut from the rest of the text, are
the segments. -/
theorem eq_segmentsFrom {start : Nat} {text : Text} {tiles : List Segment}
    (hwhole : (tiles.map Segment.text).flatten = text)
    (hnonempty : ∀ tile ∈ tiles, tile.text ≠ [])
    (hstart : ∀ before tile after, tiles = before ++ tile :: after →
      tile.start = start + byteLength (before.map Segment.text).flatten)
    (hcut : ∀ before tile after, tiles = before ++ tile :: after →
      Cut ((tile :: after).map Segment.text).flatten tile.rule tile.text) :
    tiles = segmentsFrom start text := by
  -- The first tile is the first segment, and the others begin where it ends.
  induction tiles generalizing start text with
  | nil =>
      obtain rfl : [] = text := hwhole
      rw [segmentsFrom]
  | cons tile later ih =>
      obtain ⟨hne, hothers⟩ := List.forall_mem_cons.1 hnonempty
      obtain ⟨c, rest, rfl⟩ : ∃ c rest, text = c :: rest := by
        obtain ⟨c, others, htile⟩ := List.exists_cons_of_ne_nil hne
        rw [List.map_cons, List.flatten_cons, htile, List.cons_append] at hwhole
        exact ⟨c, _, hwhole.symm⟩
      have hfirst := hcut [] tile later rfl
      rw [hwhole] at hfirst
      obtain ⟨hrule, htext⟩ := (cut_iff start).1 hfirst
      obtain rfl : tile = Segment.first start c rest := by
        refine Segment.eq_of_fields hrule htext ?_
        exact (hstart [] tile later rfl).trans (start_first start c rest).symm
      have hlater : (later.map Segment.text).flatten =
          (c :: rest).drop (Segment.first start c rest).text.length := by
        rw [List.map_cons, List.flatten_cons] at hwhole
        exact List.append_cancel_left
          (hwhole.trans (Segment.text_first_append_drop start c rest).symm)
      rw [segmentsFrom, ← ih hlater hothers]
      · intro before tile after hsplit
        have hplace := hstart (Segment.first start c rest :: before) tile after
          (by rw [hsplit, List.cons_append])
        rw [hplace, Segment.stop, start_first, List.map_cons, List.flatten_cons,
          byteLength_append, Nat.add_assoc]
      · intro before tile after hsplit
        exact hcut (Segment.first start c rest :: before) tile after
          (by rw [hsplit, List.cons_append])

/-- There is no other greedy tiling. -/
theorem IsGreedyTiling.eq_segments {text : Text} {tiles : List Segment}
    (htiling : IsGreedyTiling text tiles) : tiles = segments text := by
  apply eq_segmentsFrom htiling.whole htiling.nonempty
  · intro before tile after htiles
    rw [Nat.zero_add]
    exact htiling.start before tile after htiles
  · exact htiling.cut

end PatternWorkbench.Inference
