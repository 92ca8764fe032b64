import SourceAtlas.Deflate.Block
import SourceAtlas.Deflate.Matching

/-!
# Compressed streams

A stream is a header of two bytes, the blocks of the data, and a checksum of the data.  The symbols
are cut into blocks of one size; a cut right after the last copy leaves an empty block at the end.
-/

namespace SourceAtlas.Deflate

/-- Whether the last symbol is a copy. -/
def endsInCopy (symbols : List Symbol) : Bool :=
  match symbols.getLast? with
  | some (.copy ..) => true
  | _ => false

/-- Cuts symbols into blocks of the block size; `count` bounds the number of blocks. -/
def blocksFrom : Nat → List Symbol → Bytes → List Block
  | 0, symbols, bytes => [⟨symbols, bytes⟩]
  | count + 1, symbols, bytes =>
    let chunk := symbols.take blockSize
    let rest := symbols.drop blockSize
    let goesOn := !rest.isEmpty || endsInCopy chunk
    if chunk.length = blockSize ∧ goesOn then
      let size := chunk.foldl (fun n s => n + s.size) 0
      ⟨chunk, bytes.take size⟩ :: blocksFrom count rest (bytes.drop size)
    else [⟨symbols, bytes⟩]

/-- The bits of blocks after `before` other bits. -/
def blocksBits (before : Nat) : List Block → List Bool
  | [] => []
  | b :: bs =>
    let bits := b.bits bs.isEmpty before
    bits ++ blocksBits (before + bits.length) bs

/-- The byte of at most eight bits. -/
def byteOfBits (bits : List Bool) : UInt8 :=
  UInt8.ofNat (bits.foldr (fun b n => (if b then 1 else 0) + 2 * n) 0)

/-- The bytes of bits, the last one filled up with zeros. -/
def bytesOfBits : List Bool → Bytes
  | [] => []
  | b0 :: b1 :: b2 :: b3 :: b4 :: b5 :: b6 :: b7 :: rest =>
    byteOfBits [b0, b1, b2, b3, b4, b5, b6, b7] :: bytesOfBits rest
  | bits => [byteOfBits bits]

/-- The checksum of data: two sums modulo the greatest prime below 65536. -/
def checksum (bytes : Bytes) : Nat × Nat :=
  bytes.foldl (fun (a, b) byte => let a := (a + byte.toNat) % 65521; (a, (b + a) % 65521)) (1, 0)

/-- The two bytes of a number, the higher one first. -/
def twoBytes (n : Nat) : Bytes := [UInt8.ofNat (n / 256), UInt8.ofNat n]

/-- Compresses data. -/
def compress (bytes : Bytes) : Bytes :=
  let symbols := symbolsOf bytes
  let blocks := blocksFrom (symbols.length + 1) symbols bytes
  let (a, b) := checksum bytes
  [0x78, 0x9C] ++ bytesOfBits (blocksBits 0 blocks) ++ twoBytes b ++ twoBytes a

end SourceAtlas.Deflate
