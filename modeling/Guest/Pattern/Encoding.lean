/-!
# Ranges of bytes

The UTF-8 form of the characters in a range.  A range of code points is cut into pieces whose
encodings are all the combinations of one range of bytes for each place.
-/

namespace Guest

namespace Pattern

/-- The bytes of a code point. -/
def utf8Bytes (code : Nat) : List Nat :=
  let tail (shift : Nat) : Nat := 0x80 + (code >>> shift) % 0x40
  if code < 0x80 then [code]
  else if code < 0x800 then [0xC0 + code >>> 6, tail 0]
  else if code < 0x10000 then [0xE0 + code >>> 12, tail 6, tail 0]
  else [0xF0 + code >>> 18, tail 12, tail 6, tail 0]

/-- The place before which a range has to be cut so that its encodings have the same length, none
of them surrogates. -/
def lengthCut? (first last : Nat) : Option Nat :=
  [0x80, 0x800, 0x10000].find? fun cut => first < cut && cut ≤ last

/-- The place before which a range has to be cut so that the last `count` bytes take all their
values or stay the same. -/
def blockCut? (first last count : Nat) : Option Nat :=
  let block := 1 <<< (6 * count)
  if first / block = last / block then none
  else if first % block ≠ 0 then some ((first / block + 1) * block)
  else if last % block ≠ block - 1 then some (last / block * block)
  else none

/-- The place before which a range has to be cut first, if it has to be cut. -/
def cut? (first last : Nat) : Option Nat :=
  (lengthCut? first last).or <|
    if last < 0x80 then none
    else (blockCut? first last 1).or ((blockCut? first last 2).or (blockCut? first last 3))

/-- The pieces of a range without surrogates, each with its ranges of bytes; a range is cut at most
`fuel` times on the way to a piece. -/
def piecesIn : Nat → Nat → Nat → List (List (Nat × Nat))
  | 0, _, _ => []
  | fuel + 1, first, last =>
    match cut? first last with
    | some cut => piecesIn fuel first (cut - 1) ++ piecesIn fuel cut last
    | none => [(utf8Bytes first).zip (utf8Bytes last)]

/-- The pieces of a range, each with its ranges of bytes.  There are at most three cuts for the
length, and two for each of three places. -/
def pieces (range : Nat × Nat) : List (List (Nat × Nat)) :=
  let (first, last) := range
  let part (first last : Nat) := if first ≤ last then piecesIn 10 first last else []
  part first (min last 0xD7FF) ++ part (max first 0xE000) last

end Pattern

end Guest
