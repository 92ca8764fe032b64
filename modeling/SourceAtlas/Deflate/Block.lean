import SourceAtlas.Deflate.PrefixCode
import SourceAtlas.Deflate.Symbol

/-!
# Blocks

Symbols are written in blocks.  A block is written in the cheapest of three forms: as plain bytes,
with the fixed codes, or with codes of its own, whose lengths precede it.  Ties favour the simpler
form.
-/

namespace SourceAtlas.Deflate

/-- How many symbols a block may have. -/
def blockSize : Nat := 16383

/-- The longest word of a code for symbols. -/
def wordLimit : Nat := 15

/-- The longest word of a code for lengths. -/
def lengthWordLimit : Nat := 7

/-- The codes of a block: for bytes and lengths, and for distances. -/
structure Codes where
  main : List Nat
  distance : List Nat
  deriving DecidableEq, Repr

/-- The codes that need not be written. -/
def fixedCodes : Codes :=
  { main :=
      List.replicate 144 8 ++ List.replicate 112 9 ++ List.replicate 24 7 ++ List.replicate 8 8
    distance := List.replicate 30 5 }

/-- All coded parts of the symbols of a block that use the main code; its end is one of them. -/
def mainParts (symbols : List Symbol) : List Coded :=
  symbols.map Symbol.main ++ [⟨endCode, 0, 0⟩]

/-- All coded parts of the symbols of a block that use the code for distances. -/
def distanceParts (symbols : List Symbol) : List Coded := symbols.filterMap Symbol.distance?

/-- How often each code occurs. -/
def weightsOf (size : Nat) (parts : List Coded) : List Nat :=
  (parts.foldl (fun (w : Array Nat) p => w.modify p.code (· + 1)) (Array.replicate size 0)).toList

/-- How many bits coded parts take. -/
def costOf (lengths : List Nat) (parts : List Coded) : Nat :=
  let table := lengths.toArray
  parts.foldl (fun sum p => sum + table.getD p.code 0 + p.extraBits) 0

/-- The codes made for the symbols of a block. -/
def ownCodes (symbols : List Symbol) : Codes :=
  { main := codeLengths wordLimit (weightsOf mainCodes (mainParts symbols))
    distance := codeLengths wordLimit (weightsOf distanceCodes (distanceParts symbols)) }

/-! ## Lengths of words -/

/-- The lengths without the zeros at their end. -/
def dropZeros (lengths : List Nat) : List Nat := (lengths.reverse.dropWhile (· = 0)).reverse

/-- The code for repeating the length before. -/
def repeatCode (n : Nat) : Coded := ⟨16, 2, n - 3⟩

/-- The code for zeros. -/
def zerosCode (n : Nat) : Coded := if n ≤ 10 then ⟨17, 3, n - 3⟩ else ⟨18, 7, n - 11⟩

/-- The parts for further copies of a length. -/
def repeatParts (length : Nat) : Nat → Nat → List Coded
  | 0, _ => []
  | rounds + 1, n =>
    let m := min n 6
    if n = 0 then []
    else if m < 3 then List.replicate m ⟨length, 0, 0⟩
    else repeatCode m :: repeatParts length rounds (n - m)

/-- The parts for a number of zeros. -/
def zeroParts : Nat → Nat → List Coded
  | 0, _ => []
  | rounds + 1, n =>
    let m := min n 138
    if n = 0 then []
    else if m < 3 then List.replicate m ⟨0, 0, 0⟩
    else zerosCode m :: zeroParts rounds (n - m)

/-- The parts for a run of equal lengths. -/
def runParts (length n : Nat) : List Coded :=
  if length = 0 then zeroParts n n
  else if n < 4 then List.replicate n ⟨length, 0, 0⟩
  else ⟨length, 0, 0⟩ :: repeatParts length n (n - 1)

/-- The parts for a list of lengths; `length` is that of the run so far and `n` its count. -/
def lengthPartsFrom (length n : Nat) : List Nat → List Coded
  | [] => runParts length n
  | l :: ls =>
    if l = length then lengthPartsFrom length (n + 1) ls
    else runParts length n ++ lengthPartsFrom l 1 ls

/-- The parts for a list of lengths. -/
def lengthParts : List Nat → List Coded
  | [] => []
  | l :: ls => lengthPartsFrom l 1 ls

/-- The order in which the lengths of the code for lengths are written. -/
def lengthOrder : List Nat :=
  [16, 17, 18, 0, 8, 7, 9, 6, 10, 5, 11, 4, 12, 3, 13, 2, 14, 1, 15]

/-- What precedes a block with codes of its own. -/
structure Preamble where
  mainCount : Nat
  distanceCount : Nat
  lengthCode : List Nat
  lengthCount : Nat
  parts : List Coded
  deriving DecidableEq, Repr

/-- The preamble that describes codes. -/
def preambleOf (codes : Codes) : Preamble :=
  let main := dropZeros codes.main
  let distance := dropZeros codes.distance
  let parts := lengthParts main ++ lengthParts distance
  let lengthCode := codeLengths lengthWordLimit (weightsOf 19 parts)
  let ordered := lengthOrder.map fun c => lengthCode.getD c 0
  { mainCount := main.length
    distanceCount := distance.length
    lengthCode
    lengthCount := max 4 (dropZeros ordered).length
    parts }

/-- How many bits a preamble takes. -/
def Preamble.cost (p : Preamble) : Nat := 14 + 3 * p.lengthCount + costOf p.lengthCode p.parts

/-! ## Bits -/

/-- The bits of a coded part. -/
def Coded.bits (words : Array (List Bool)) (c : Coded) : List Bool :=
  words.getD c.code [] ++ lowFirst c.extraBits c.extra

/-- The bits of a preamble. -/
def Preamble.bits (p : Preamble) : List Bool :=
  let words := wordsOf p.lengthCode
  let ordered := (lengthOrder.take p.lengthCount).map fun c => p.lengthCode.getD c 0
  lowFirst 5 (p.mainCount - 257) ++ lowFirst 5 (p.distanceCount - 1) ++
    lowFirst 4 (p.lengthCount - 4) ++ ordered.flatMap (lowFirst 3) ++
    p.parts.flatMap (·.bits words)

/-- The bits of the symbols of a block in given codes, and of its end. -/
def symbolBits (codes : Codes) (symbols : List Symbol) : List Bool :=
  let main := wordsOf codes.main
  let distance := wordsOf codes.distance
  let ofSymbol (s : Symbol) : List Bool :=
    s.main.bits main ++ ((s.distance?.map (·.bits distance)).getD [])
  symbols.flatMap ofSymbol ++ main.getD endCode []

/-- The bits of bytes. -/
def byteBits (bytes : Bytes) : List Bool := bytes.flatMap fun b => lowFirst 8 b.toNat

/-- A block: its symbols and the bytes that they stand for. -/
structure Block where
  symbols : List Symbol
  bytes : Bytes
  deriving DecidableEq, Repr

/-- The bits in which a block begins: whether it is the last one, and its form. -/
def headBits (isLast : Bool) (form : Nat) : List Bool := isLast :: lowFirst 2 form

/-- The bits of a block after `before` other bits. -/
def Block.bits (b : Block) (isLast : Bool) (before : Nat) : List Bool :=
  let own := ownCodes b.symbols
  let preamble := preambleOf own
  let main := mainParts b.symbols
  let distance := distanceParts b.symbols
  let bytesFor (bits : Nat) : Nat := (bits + 3 + 7) / 8
  let ownCost := bytesFor (preamble.cost + costOf own.main main + costOf own.distance distance)
  let fixedCost := bytesFor (costOf fixedCodes.main main + costOf fixedCodes.distance distance)
  let size := b.bytes.length
  if size + 4 ≤ min ownCost fixedCost then
    headBits isLast 0 ++ List.replicate ((8 - (before + 3) % 8) % 8) false ++
      lowFirst 16 size ++ lowFirst 16 (65535 - size) ++ byteBits b.bytes
  else if fixedCost ≤ ownCost then headBits isLast 1 ++ symbolBits fixedCodes b.symbols
  else headBits isLast 2 ++ preamble.bits ++ symbolBits own b.symbols

end SourceAtlas.Deflate
