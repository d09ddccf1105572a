import PacketSmith.Disk

/-!
# The bytes of archives

An archive file holds a record for every entry, a directory that says where the records
begin, and an end that says where the directory begins. The data of an entry are in the
deflate format, in blocks that are not compressed. The time stamp of every entry is the
earliest one there is, so that the bytes depend on the entries alone.
-/

namespace PacketSmith

namespace Archive

/-- A number in a number of bytes, lowest first. -/
def number : Nat → Nat → List UInt8
  | 0, _ => []
  | width + 1, value => UInt8.ofNat value :: number width (value / 256)

/-- Several numbers, each behind its number of bytes. -/
def numbers (values : List (Nat × Nat)) : List UInt8 :=
  values.flatMap fun (width, value) => number width value

/-! ## Checksums -/

/-- Divide a remainder by the generating polynomial, bit by bit. -/
def divideBits : Nat → UInt32 → UInt32
  | 0, remainder => remainder
  | count + 1, remainder =>
    divideBits count <|
      if remainder &&& 1 = 1 then (remainder >>> 1) ^^^ 0xedb88320 else remainder >>> 1

/-- The cyclic redundancy check of bytes, with 32 bits. -/
def checksum (bytes : List UInt8) : UInt32 :=
  bytes.foldl (fun remainder byte => divideBits 8 (remainder ^^^ byte.toUInt32)) 0xffffffff
    ^^^ 0xffffffff

/-! ## Data -/

/-- The greatest number of bytes in a block. -/
def blockSize : Nat := 65535

/-- A block that is not compressed. -/
def block (isLast : Bool) (bytes : List UInt8) : List UInt8 :=
  numbers [(1, if isLast then 1 else 0), (2, bytes.length), (2, blockSize - bytes.length)] ++ bytes

/-- Bytes in blocks that are not compressed; the number of further blocks is given. -/
def blocks : Nat → List UInt8 → List UInt8
  | 0, bytes => block true bytes
  | count + 1, bytes => block false (bytes.take blockSize) ++ blocks count (bytes.drop blockSize)

/-- Bytes in the deflate format. -/
def deflated (bytes : List UInt8) : List UInt8 :=
  blocks ((bytes.length - 1) / blockSize) bytes

/-! ## Records -/

/-- An entry as it is written. -/
structure Record where
  /-- The name. -/
  name : List UInt8
  /-- What the file holds. -/
  held : List UInt8
  /-- What the file holds in the deflate format. -/
  data : List UInt8

/-- The record of an entry. -/
def Record.ofEntry (entry : String × List UInt8) : Record :=
  ⟨entry.1.toUTF8.data.toList, entry.2, deflated entry.2⟩

/-- What both the record and the directory say about an entry: the version and the encoding
of names, the deflate format, the time stamp, the checksum and the sizes. -/
def Record.description (entry : Record) : List UInt8 :=
  numbers [(2, 20), (2, 0x800), (2, 8), (2, 0), (2, 0x21), (4, (checksum entry.held).toNat),
    (4, entry.data.length), (4, entry.held.length), (2, entry.name.length), (2, 0)]

/-- The bytes of an entry. -/
def Record.bytes (entry : Record) : List UInt8 :=
  number 4 0x04034b50 ++ entry.description ++ entry.name ++ entry.data

/-- The bytes of the directory for an entry that begins at an offset. -/
def Record.listed (entry : Record) (offset : Nat) : List UInt8 :=
  numbers [(4, 0x02014b50), (2, 20)] ++ entry.description ++
    numbers [(2, 0), (2, 0), (2, 0), (4, 0), (4, offset)] ++ entry.name

/-- The directory of entries, the first of which begins at an offset. -/
def listing (offset : Nat) : List Record → List UInt8
  | [] => []
  | entry :: entries => entry.listed offset ++ listing (offset + entry.bytes.length) entries

/-- The bytes of an archive. -/
def bytes (entries : List (String × List UInt8)) : List UInt8 :=
  let records := entries.map Record.ofEntry
  let data := records.flatMap Record.bytes
  let directory := listing 0 records
  data ++ directory ++ numbers [(4, 0x06054b50), (2, 0), (2, 0), (2, records.length),
    (2, records.length), (4, directory.length), (4, data.length), (2, 0)]

end Archive

namespace Content

/-- The bytes of a text. -/
def textBytes (words : String) : List UInt8 :=
  words.toUTF8.data.toList

/-- The entries of an archive with the bytes of each. -/
def entries? : Content → Option (List (String × List UInt8))
  | text _ | data _ => none
  | archive entries => some (entries.map fun (name, words) => (name, textBytes words))
  | bundle entries => some entries

/-- The bytes of a file. -/
def bytes : Content → List UInt8
  | text words => textBytes words
  | data bytes => bytes
  | archive entries => Archive.bytes (entries.map fun (name, words) => (name, textBytes words))
  | bundle entries => Archive.bytes entries

/-- What a file holds if it is a text. -/
def text? : Content → Option String
  | text words => some words
  | data _ | archive _ | bundle _ => none

/-- The archive of files, each with the name of its entry. -/
def ofEntries (entries : List (String × Content)) : Content :=
  match entries.mapM fun (name, content) => content.text?.map fun words => (name, words) with
  | some texts => archive texts
  | none => bundle (entries.map fun (name, content) => (name, content.bytes))

end Content
end PacketSmith
