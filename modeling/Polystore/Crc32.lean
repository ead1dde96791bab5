/-!
# CRC-32

The cyclic redundancy check of the reflected polynomial `EDB88320`, continued
from the check of the text before.
-/

namespace Polystore.Crc32

/-- Divide by the polynomial for one bit. -/
def stepBit (register : UInt32) : UInt32 :=
  if register &&& 1 = 1 then (register >>> 1) ^^^ 0xEDB88320 else register >>> 1

/-- Take one byte into the register. -/
def stepByte (register : UInt32) (byte : UInt8) : UInt32 :=
  (List.range 8).foldl (fun register _ => stepBit register)
    (register ^^^ byte.toUInt32)

/-- The check of some bytes that follow a text whose check is `initial`. -/
def continued (initial : UInt32) (bytes : List UInt8) : UInt32 :=
  ~~~(bytes.foldl stepByte (~~~initial))

/-- The check of some bytes. -/
def checksum (bytes : List UInt8) : UInt32 :=
  continued 0 bytes

end Polystore.Crc32
