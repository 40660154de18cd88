import EntityDiagram.Text.Utf8

/-! # Archives as bytes

An archive is a list of named parts. As bytes it has a record per part, then a directory that
repeats the records with their offsets, then the end record. The data of a part stands in stored
blocks of the deflate format, so every part is marked as deflated.
-/

namespace EntityDiagram

/-- One named part of an archive. -/
structure Part where
  name : String
  data : List UInt8
  deriving DecidableEq, Repr

namespace Archive

/-- The `width` lowest bytes of `n`, the lowest first. -/
def littleEndian : Nat → Nat → List UInt8
  | 0, _ => []
  | width + 1, n => UInt8.ofNat n :: littleEndian width (n / 256)

def polynomial : UInt32 := 0xEDB88320

def shiftCheck (check : UInt32) : UInt32 :=
  if check &&& 1 = 1 then (check >>> 1) ^^^ polynomial else check >>> 1

def stepCheck (check : UInt32) (b : UInt8) : UInt32 :=
  (fun c => shiftCheck (shiftCheck (shiftCheck (shiftCheck c))))
    ((fun c => shiftCheck (shiftCheck (shiftCheck (shiftCheck c)))) (check ^^^ b.toUInt32))

/-- The cyclic redundancy check of `data`. -/
def checksum (data : List UInt8) : UInt32 := data.foldl stepCheck 0xFFFFFFFF ^^^ 0xFFFFFFFF

def largestBlock : Nat := 65535

def block (final : Bool) (data : List UInt8) : List UInt8 :=
  (if final then 1 else 0) :: littleEndian 2 data.length ++
    littleEndian 2 (largestBlock - data.length) ++ data

/-- `data` in stored blocks, the last of which is marked as such. -/
def stored (data : List UInt8) : List UInt8 :=
  if data.length ≤ largestBlock then block true data
  else block false (data.take largestBlock) ++ stored (data.drop largestBlock)
termination_by data.length
decreasing_by simp [largestBlock] at *; omega

def deflated : Nat := 8

/-- What the record of a part and its entry in the directory have in common: the version that reads
it, the method, a fixed date, the check, both sizes and the length of the name. -/
def attributes (part : Part) : List UInt8 :=
  littleEndian 2 20 ++ littleEndian 2 0 ++ littleEndian 2 deflated ++ littleEndian 2 0 ++
    littleEndian 2 0x21 ++ littleEndian 4 (checksum part.data).toNat ++
    littleEndian 4 (stored part.data).length ++ littleEndian 4 part.data.length ++
    littleEndian 2 (Text.encode part.name.toList).length ++ littleEndian 2 0

def signature (a b : UInt8) : List UInt8 := [0x50, 0x4B, a, b]

def record (part : Part) : List UInt8 :=
  signature 3 4 ++ attributes part ++ Text.encode part.name.toList ++ stored part.data

def directoryEntry (offset : Nat) (part : Part) : List UInt8 :=
  signature 1 2 ++ littleEndian 2 20 ++ attributes part ++ littleEndian 2 0 ++ littleEndian 2 0 ++
    littleEndian 2 0 ++ littleEndian 4 0 ++ littleEndian 4 offset ++ Text.encode part.name.toList

/-- The directory of records that begin at `offset`. -/
def directory (offset : Nat) : List Part → List UInt8
  | [] => []
  | part :: rest => directoryEntry offset part ++ directory (offset + (record part).length) rest

def endRecord (parts : List Part) : List UInt8 :=
  signature 5 6 ++ littleEndian 2 0 ++ littleEndian 2 0 ++ littleEndian 2 parts.length ++
    littleEndian 2 parts.length ++ littleEndian 4 (directory 0 parts).length ++
    littleEndian 4 (parts.flatMap record).length ++ littleEndian 2 0

def encode (parts : List Part) : List UInt8 :=
  parts.flatMap record ++ directory 0 parts ++ endRecord parts

end Archive

end EntityDiagram
