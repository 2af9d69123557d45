import XdotViewer.Raster

/-! # Rasters as PNG files

The file holds the pixels as they are, with eight bits for each of four channels and without
compression.
-/

namespace XdotViewer.Png

/-- One step of the polynomial division behind the checksum, eight bits at a time. -/
def crcStep (value : UInt32) : UInt32 :=
  if value &&& 1 = 1 then (0xedb88320 : UInt32) ^^^ (value >>> 1) else value >>> 1

def crcTable : Array UInt32 :=
  Array.ofFn fun i : Fin 256 => (List.range 8).foldl (fun value _ => crcStep value) (.ofNat i)

/-- The checksum of a chunk. -/
def crc (bytes : ByteArray) : UInt32 :=
  bytes.foldl
    (fun value byte =>
      crcTable.getD ((value ^^^ byte.toUInt32) &&& 0xff).toNat 0 ^^^ (value >>> 8))
    0xffffffff ^^^ 0xffffffff

/-- The checksum of the uncompressed data. -/
def adler (bytes : ByteArray) : UInt32 :=
  let (low, high) := bytes.foldl
    (fun ((low, high) : Nat × Nat) byte =>
      let low := (low + byte.toNat) % 65521
      (low, (high + low) % 65521))
    (1, 0)
  .ofNat (high * 65536 + low)

/-- A word with its highest byte first. -/
def word (value : UInt32) : ByteArray :=
  ⟨#[(value >>> 24).toUInt8, (value >>> 16).toUInt8, (value >>> 8).toUInt8, value.toUInt8]⟩

def chunk (name : String) (data : ByteArray) : ByteArray :=
  let body := name.toUTF8 ++ data
  word (.ofNat data.size) ++ body ++ word (crc body)

/-- Sixteen bits with the lowest byte first. -/
def half (value : Nat) : ByteArray :=
  ⟨#[.ofNat value, .ofNat (value / 256)]⟩

/-- The greatest block that is stored as it is. -/
def maxBlock : Nat := 65535

/-- The blocks of a number of bytes from a place on. -/
def blocks (bytes : ByteArray) : Nat → Nat → ByteArray → ByteArray
  | 0, _, done => done
  | count + 1, start, done =>
    let size := min maxBlock (bytes.size - start)
    let last : UInt8 := if count = 0 then 1 else 0
    blocks bytes count (start + size)
      (done.push last ++ half size ++ half (maxBlock - size) ++ bytes.extract start (start + size))

/-- The data as an uncompressed stream with its header and checksum. -/
def stream (bytes : ByteArray) : ByteArray :=
  let count := max 1 ((bytes.size + maxBlock - 1) / maxBlock)
  blocks bytes count 0 ⟨#[0x78, 0x01]⟩ ++ word (adler bytes)

/-- The pixels row by row, each row after the number of its filter: none. -/
def rows (raster : Raster) : ByteArray :=
  raster.height.fold
    (fun y _ bytes => raster.width.fold
      (fun x _ bytes =>
        let c := raster.pixel x y
        (((bytes.push c.red).push c.green).push c.blue).push c.alpha)
      (bytes.push 0))
    .empty

def signature : ByteArray :=
  ⟨#[0x89, 0x50, 0x4e, 0x47, 0x0d, 0x0a, 0x1a, 0x0a]⟩

def encode (raster : Raster) : ByteArray :=
  let header := word (.ofNat raster.width) ++ word (.ofNat raster.height) ++ ⟨#[8, 6, 0, 0, 0]⟩
  signature ++ chunk "IHDR" header ++ chunk "IDAT" (stream (rows raster)) ++ chunk "IEND" .empty

end XdotViewer.Png
