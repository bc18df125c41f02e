/-!
The checksum of a text: the 32-bit cyclic redundancy check with the Castagnoli polynomial over its
UTF-8 bytes, least significant bit first, shown as eight hexadecimal digits.
-/

namespace Statechart.Checksum

/-- The polynomial with its bits reversed. -/
def polynomial : UInt32 := 0x82F63B78

/-- Divides one bit out of the remainder. -/
def stepBit (r : UInt32) : UInt32 :=
  if r &&& 1 == 1 then (r >>> 1) ^^^ polynomial else r >>> 1

/-- Takes one byte into the remainder. -/
def stepByte (r : UInt32) (b : UInt8) : UInt32 :=
  let r := r ^^^ b.toUInt32
  stepBit (stepBit (stepBit (stepBit (stepBit (stepBit (stepBit (stepBit r)))))))

/-- The check of a sequence of bytes. -/
def crc (bytes : ByteArray) : UInt32 :=
  bytes.foldl stepByte 0xFFFFFFFF ^^^ 0xFFFFFFFF

/-- Eight hexadecimal digits of a word, in lower case. -/
def hex (w : UInt32) : String :=
  let ds := Nat.toDigits 16 w.toNat
  String.ofList (List.replicate (8 - ds.length) '0' ++ ds)

/-- The checksum of a text. -/
def ofText (s : String) : String := hex (crc s.toUTF8)

end Statechart.Checksum
