import DeviceAuth.Octets

/-!
# Words and their bytes

Machine words of 32 and 64 bits written and read with the most or the least significant byte
first, and rotations of them.
-/

namespace DeviceAuth.Crypto

/-- A 32-bit word from its bytes, most significant first. -/
def be32 (a b c d : UInt8) : UInt32 :=
  a.toUInt32 <<< 24 ||| b.toUInt32 <<< 16 ||| c.toUInt32 <<< 8 ||| d.toUInt32

/-- The 32-bit words of a byte string, most significant byte first. -/
def words32be : Octets → List UInt32
  | a :: b :: c :: d :: rest => be32 a b c d :: words32be rest
  | _ => []

/-- The 32-bit words of a byte string, least significant byte first. -/
def words32le : Octets → List UInt32
  | a :: b :: c :: d :: rest => be32 d c b a :: words32le rest
  | _ => []

/-- The 64-bit words of a byte string, least significant byte first. -/
def words64le : Octets → List UInt64
  | a :: b :: c :: d :: e :: f :: g :: h :: rest =>
    ((be32 h g f e).toUInt64 <<< 32 ||| (be32 d c b a).toUInt64) :: words64le rest
  | _ => []

/-- The four bytes of a word, most significant first. -/
def octets32be (w : UInt32) : Octets :=
  [(w >>> 24).toUInt8, (w >>> 16).toUInt8, (w >>> 8).toUInt8, w.toUInt8]

/-- The four bytes of a word, least significant first. -/
def octets32le (w : UInt32) : Octets :=
  [w.toUInt8, (w >>> 8).toUInt8, (w >>> 16).toUInt8, (w >>> 24).toUInt8]

/-- The eight bytes of a word, most significant first. -/
def octets64be (w : UInt64) : Octets :=
  octets32be (w >>> 32).toUInt32 ++ octets32be w.toUInt32

/-- The eight bytes of a word, least significant first. -/
def octets64le (w : UInt64) : Octets :=
  octets32le w.toUInt32 ++ octets32le (w >>> 32).toUInt32

/-- Rotation of a 32-bit word towards its most significant bit. -/
def rotateLeft32 (w : UInt32) (n : UInt32) : UInt32 := w <<< n ||| w >>> (32 - n)

/-- Rotation of a 32-bit word towards its least significant bit. -/
def rotateRight32 (w : UInt32) (n : UInt32) : UInt32 := w >>> n ||| w <<< (32 - n)

/-- Rotation of a 64-bit word towards its least significant bit. -/
def rotateRight64 (w : UInt64) (n : UInt64) : UInt64 := w >>> n ||| w <<< (64 - n)

@[simp] theorem length_octets32be (w : UInt32) : (octets32be w).length = 4 := rfl

@[simp] theorem length_octets32le (w : UInt32) : (octets32le w).length = 4 := rfl

@[simp] theorem length_octets64le (w : UInt64) : (octets64le w).length = 8 := rfl

end DeviceAuth.Crypto
