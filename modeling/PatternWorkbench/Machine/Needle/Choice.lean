import PatternWorkbench.Machine.Needle

/-!
# The choice of words to look for

A pattern whose matches are exactly the listed words is searched for by them
alone, unless words that are shorter, rarer or fewer are chosen in their place:
those only tell where a match may begin.
-/

namespace PatternWorkbench.Machine

namespace Needle

/-- How common each byte is, counted from the rarest; bytes above those listed
are the most common. -/
def frequencies : Array Nat :=
  #[55, 52, 51, 50, 49, 48, 47, 46, 45, 103, 242, 66, 67, 229, 44, 43, 42, 41,
    40, 39, 38, 37, 36, 35, 34, 33, 56, 32, 31, 30, 29, 28, 255, 148, 164, 149,
    136, 160, 155, 173, 221, 222, 134, 122, 232, 202, 215, 224, 208, 220, 204,
    187, 183, 179, 177, 168, 178, 200, 226, 195, 154, 184, 174, 126, 120, 191,
    157, 194, 170, 189, 162, 161, 150, 193, 142, 137, 171, 176, 185, 167, 186,
    112, 175, 192, 188, 156, 140, 143, 123, 133, 128, 147, 138, 146, 114, 223,
    151, 249, 216, 238, 236, 253, 227, 218, 230, 247, 135, 180, 241, 233, 246,
    244, 231, 139, 245, 243, 251, 235, 201, 196, 240, 214, 152, 182, 205, 181,
    127, 27, 212, 211, 210, 213, 228, 197, 169, 159, 131, 172, 105, 80, 98, 96,
    97, 81, 207, 145, 116, 115, 144, 130, 153, 121, 107, 132, 109, 110, 124,
    111, 82, 108, 118, 141, 113, 129, 119, 125, 165, 117, 92, 106, 83, 72, 99,
    93, 65, 79, 166, 237, 163, 199, 190, 225, 209, 203, 198, 217, 219, 206, 234,
    248, 158, 239]

def frequency (byte : UInt8) : Nat :=
  frequencies[byte.toNat]?.getD 255

/-- A word found almost everywhere. -/
def isUbiquitous (needle : Needle) : Bool :=
  match needle.bytes with
  | [] => true
  | [byte] => 250 ≤ frequency byte
  | _ => false

end Needle

namespace Needles

/-- Drops every word that begins with a preferred one. -/
def withoutExtensions (needles : List Needle) : List Needle :=
  needles.foldl
    (fun kept needle =>
      if kept.any (·.bytes.isPrefixOf needle.bytes) then kept
      else kept ++ [needle])
    []

def commonBytes : List UInt8 → List UInt8 → List UInt8
  | left :: lefts, right :: rights =>
    if left = right then left :: commonBytes lefts rights else []
  | _, _ => []

/-- What all words begin with. -/
def beginning : List Needle → List UInt8
  | [] => []
  | first :: rest => rest.foldl (fun common needle =>
      commonBytes common needle.bytes) first.bytes

/-- Lengths to cut the words to while the list is longer than the limit beside
them. -/
def cuts : List (Nat × Nat) :=
  [(5, 10), (4, 10), (3, 64), (2, 64), (1, 10)]

def shortened : List (Nat × Nat) → List Needle → List Needle
  | [], needles => needles
  | (length, limit) :: rest, needles =>
    if needles.length ≤ limit then needles
    else shortened rest (withoutExtensions (needles.map (.cut length)))

/-- Shorter words in place of a list, where those are still telling. -/
def telling? (needles : List Needle) : Option (List Needle) :=
  let words := shortened cuts needles
  if words.any (·.isUbiquitous) || words.any (·.bytes.length ≤ 2) ||
      64 < words.length then none
  else some words

/-- Whether the words to look for are the matches themselves. A list gives way
to a common beginning that is rare or long, and to shorter words. -/
def suffice (needles : Needles) : Bool :=
  match needles with
  | none => false
  | some all =>
    if all.isEmpty || all.any (·.bytes.isEmpty) then false
    else
      let words := withoutExtensions all
      let common := beginning words
      if 1 < all.length && 0 < common.length && common.length ≤ 3 &&
          common.head?.any (Needle.frequency · < 200) then
        (words.map (Needle.cut 1)).all (·.complete)
      else
        let isShort := words.all (·.complete) && words.length ≤ 16
        let usesCommon :=
          4 < common.length || (1 < common.length && !isShort)
        let words :=
          if usesCommon then merged (words.map (.cut common.length)) else words
        words.all (·.complete) && ((telling? words).getD words).all (·.complete)

end Needles

end PatternWorkbench.Machine
