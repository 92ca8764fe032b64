import SourceAtlas.Text.Basic

/-!
# Symbols of compressed data

Compressed data is a sequence of symbols: a byte as it is, or a copy of bytes that came before.  The
length and the distance of a copy are written as a code for a class of values and some extra bits
that tell the value within its class.
-/

namespace SourceAtlas.Deflate

/-- A byte, or a copy of `length` bytes from `distance` bytes before. -/
inductive Symbol
  | literal (b : UInt8)
  | copy (length distance : Nat)
  deriving DecidableEq, Repr

/-- How many bytes a symbol stands for. -/
def Symbol.size : Symbol → Nat
  | .literal _ => 1
  | .copy length _ => length

/-- The bytes after a symbol was added to those before it. -/
def Symbol.appendTo (done : Array UInt8) : Symbol → Array UInt8
  | .literal b => done.push b
  | .copy length distance =>
    (List.range length).foldl (fun out _ => out.push (out.getD (out.size - distance) 0)) done

/-- The bytes that symbols stand for. -/
def expand (symbols : List Symbol) : Bytes := (symbols.foldl Symbol.appendTo #[]).toList

/-- A class of values: the least one and how many extra bits tell them apart. -/
structure ValueClass where
  least : Nat
  extraBits : Nat
  deriving DecidableEq, Repr, Inhabited

/-- The classes of lengths. -/
def lengthClasses : List ValueClass :=
  [⟨3, 0⟩, ⟨4, 0⟩, ⟨5, 0⟩, ⟨6, 0⟩, ⟨7, 0⟩, ⟨8, 0⟩, ⟨9, 0⟩, ⟨10, 0⟩, ⟨11, 1⟩, ⟨13, 1⟩, ⟨15, 1⟩,
    ⟨17, 1⟩, ⟨19, 2⟩, ⟨23, 2⟩, ⟨27, 2⟩, ⟨31, 2⟩, ⟨35, 3⟩, ⟨43, 3⟩, ⟨51, 3⟩, ⟨59, 3⟩, ⟨67, 4⟩,
    ⟨83, 4⟩, ⟨99, 4⟩, ⟨115, 4⟩, ⟨131, 5⟩, ⟨163, 5⟩, ⟨195, 5⟩, ⟨227, 5⟩, ⟨258, 0⟩]

/-- The classes of distances. -/
def distanceClasses : List ValueClass :=
  [⟨1, 0⟩, ⟨2, 0⟩, ⟨3, 0⟩, ⟨4, 0⟩, ⟨5, 1⟩, ⟨7, 1⟩, ⟨9, 2⟩, ⟨13, 2⟩, ⟨17, 3⟩, ⟨25, 3⟩, ⟨33, 4⟩,
    ⟨49, 4⟩, ⟨65, 5⟩, ⟨97, 5⟩, ⟨129, 6⟩, ⟨193, 6⟩, ⟨257, 7⟩, ⟨385, 7⟩, ⟨513, 8⟩, ⟨769, 8⟩,
    ⟨1025, 9⟩, ⟨1537, 9⟩, ⟨2049, 10⟩, ⟨3073, 10⟩, ⟨4097, 11⟩, ⟨6145, 11⟩, ⟨8193, 12⟩,
    ⟨12289, 12⟩, ⟨16385, 13⟩, ⟨24577, 13⟩]

/-- A code with the extra bits that follow it. -/
structure Coded where
  code : Nat
  extraBits : Nat := 0
  extra : Nat := 0
  deriving DecidableEq, Repr

/-- The class of a value: the last one that does not begin above it. -/
def classOf (classes : List ValueClass) (value : Nat) : Coded :=
  let code := (classes.takeWhile (·.least ≤ value)).length - 1
  let c := classes.getD code ⟨0, 0⟩
  ⟨code, c.extraBits, value - c.least⟩

/-- The code that ends a block. -/
def endCode : Nat := 256

/-- How many codes there are for bytes, the end of a block and classes of lengths. -/
def mainCodes : Nat := 286

/-- How many codes there are for classes of distances. -/
def distanceCodes : Nat := 30

/-- The code of a byte or a length. -/
def Symbol.main : Symbol → Coded
  | .literal b => ⟨b.toNat, 0, 0⟩
  | .copy length _ =>
    let c := classOf lengthClasses length
    { c with code := endCode + 1 + c.code }

/-- The code of a distance. -/
def Symbol.distance? : Symbol → Option Coded
  | .literal _ => none
  | .copy _ distance => some (classOf distanceClasses distance)

end SourceAtlas.Deflate
