import Criteria.Filter
import Criteria.SipHash

/-!
# Fingerprints

A fingerprint is a number that tells filters with different values apart, short of
a collision of hashes.  Every criterion contributes the hash of its name, a tag for
the shape of its value, and the value; the two numbers of the page contribute
under names of their own.  The contributions are combined by exclusive or, so the
order of the criteria does not matter, and the elements of a list enter through
the sum of their hashes, so their order does not matter either.
-/

namespace Criteria

/-- The `width` lowest bytes of a number, the least significant first. -/
def littleEndian : Nat → Nat → List UInt8
  | 0, _ => []
  | width + 1, n => UInt8.ofNat (n % 256) :: littleEndian width (n / 256)

/-- The bytes of a signed number in two's complement of a width. -/
def signedBytes (width : Nat) (n : Int) : List UInt8 :=
  littleEndian width (n % Nat.pow 256 width).toNat

/-- The bytes of a text: its UTF-8 form and a byte that ends it. -/
def textBytes (s : String) : List UInt8 :=
  s.toList.flatMap String.utf8EncodeChar ++ [0xff]

namespace Fingerprint

/-- The sum of the hashes of texts. -/
def elementSum (values : List String) : UInt64 :=
  values.foldl (fun sum s => sum + SipHash.hash (textBytes s)) 0

/-- The bytes of a value after the name of its field: a tag, and the value if
there is one. -/
def valueBytes : Reading → List UInt8
  | .text none => [0]
  | .text (some s) => 1 :: textBytes s
  | .textList none => [2]
  | .textList (some values) =>
    3 :: (littleEndian 8 values.length ++ littleEndian 8 (elementSum values).toNat)
  | .date none => [4]
  | .date (some t) => 5 :: signedBytes 16 t.nanos
  | .unreadable => [6]

/-- The bytes that a field contributes. -/
def fieldBytes (name : String) (reading : Reading) : List UInt8 :=
  textBytes name ++ valueBytes reading

/-- The bytes that the start of the page contributes. -/
def startBytes (paging : Paging) : List UInt8 :=
  textBytes "starting_index" ++ signedBytes 4 paging.startingIndex.toInt

/-- The bytes that the length of the page contributes. -/
def sizeBytes (paging : Paging) : List UInt8 :=
  textBytes "page_size" ++ signedBytes 4 paging.pageSize.toInt

/-- Everything that a filter contributes. -/
def contributions (f : Filter) : List (List UInt8) :=
  f.scan.map (fun s => fieldBytes s.criterion.name s.reading)
    ++ [startBytes f.paging, sizeBytes f.paging]

end Fingerprint

/-- The fingerprint of a filter. -/
def Filter.fingerprint (f : Filter) : UInt64 :=
  ((Fingerprint.contributions f).map SipHash.hash).foldl (· ^^^ ·) 0

namespace Fingerprint

/-- A word as sixteen hexadecimal digits. -/
def text (word : UInt64) : String :=
  let digits := Nat.toDigits 16 word.toNat
  String.ofList (List.replicate (16 - digits.length) '0' ++ digits)

/-- For each number the index of the first that equals it. -/
def classes (numbers : List UInt64) : List Nat :=
  numbers.map fun n => numbers.idxOf n

end Fingerprint

end Criteria
