import PatternWorkbench.Unicode.CharSet

/-!
# Characters as bytes

The encoded forms of the characters of a range are laid out as sequences of byte
ranges: a text matches a sequence when each of its bytes lies in the range at its
place. A range of characters is first cut where the encoding gets longer, and
then where a byte starts over while the bytes before it have moved on.
-/

namespace PatternWorkbench.Unicode

abbrev ByteRange := UInt8 × UInt8

namespace Encoding

/-- The blocks of characters with encodings of one length each. -/
def lengths : RangeTable :=
  [(0, 0x7F), (0x80, 0x7FF), (0x800, 0xD7FF), (0xE000, 0xFFFF),
    (0x10000, 0x10FFFF)]

/-- What a range has in common with each of the given blocks. -/
def cutBy (blocks : RangeTable) (range : Nat × Nat) : RangeTable :=
  blocks.filterMap fun (low, high) =>
    let first := max low range.1
    let last := min high range.2
    if first ≤ last then some (first, last) else none

/-- A range that spans several aligned blocks of a size is cut into what stands
before the first whole block, the whole blocks, and what stands after the last. -/
def cutAt (size : Nat) (range : Nat × Nat) : RangeTable :=
  let (first, last) := range
  if first / size = last / size then [range]
  else
    let inner := if first % size = 0 then first else (first / size + 1) * size
    let outer := if last % size = size - 1 then last + 1 else last / size * size
    cutBy [(first, inner - 1), (inner, outer - 1), (outer, last)] range

/-- The values that a byte after the first one can have. -/
def fan : Nat := 64

/-- The parts of a range whose encodings vary byte by byte. -/
def parts (range : Nat × Nat) : RangeTable :=
  (cutBy lengths range).flatMap fun part =>
    if part.2 < 0x80 then [part]
    else
      (cutAt fan part).flatMap fun part =>
        (cutAt (fan * fan) part).flatMap (cutAt (fan * fan * fan))

def bytes (code : Nat) : List UInt8 :=
  String.utf8EncodeChar (Char.ofNat code)

end Encoding

/-- The encoded forms of the members of a set, in order. -/
def CharSet.encodings (set : CharSet) : List (List ByteRange) :=
  (set.ranges.flatMap Encoding.parts).map fun (first, last) =>
    (Encoding.bytes first).zip (Encoding.bytes last)

end PatternWorkbench.Unicode
