/-! # Digests

    A hash of some bytes for comparing them at a glance: the FNV-1a hash of 64
    bits, written in sixteen hexadecimal digits. -/

namespace ChassisRegistry.Digest

/-- The hash of no bytes. -/
def basis : UInt64 := 14695981039346656037

/-- The factor of every step. -/
def factor : UInt64 := 1099511628211

/-- The hash of some bytes. -/
def fnv1a (bytes : ByteArray) : UInt64 :=
  bytes.foldl (fun h b => (h ^^^ b.toUInt64) * factor) basis

/-- A hash in sixteen hexadecimal digits. -/
def hexText (h : UInt64) : String :=
  let digits := Nat.toDigits 16 h.toNat
  String.ofList (List.replicate (16 - digits.length) '0' ++ digits)

end ChassisRegistry.Digest
