import DeviceAuth.Crypto.Quad
import DeviceAuth.Crypto.Words

/-!
# AES-256

The block cipher with keys of 32 bytes, for encryption only: a block stands in four columns of
four bytes, and each of fourteen rounds substitutes bytes, shifts rows, mixes columns and adds a
round key.
-/

namespace DeviceAuth.Crypto.Aes256

/-- Four bytes of a block that stand together. -/
abbrev Column := Quad UInt8

/-- A block or a round key, column by column. -/
abbrev State := Quad Column

/-- The substitution: the inverse in the field of 256 elements, then an affine map. -/
def substitutions : Array UInt8 :=
  #[0x63, 0x7c, 0x77, 0x7b, 0xf2, 0x6b, 0x6f, 0xc5, 0x30, 0x01, 0x67, 0x2b, 0xfe, 0xd7, 0xab, 0x76,
    0xca, 0x82, 0xc9, 0x7d, 0xfa, 0x59, 0x47, 0xf0, 0xad, 0xd4, 0xa2, 0xaf, 0x9c, 0xa4, 0x72, 0xc0,
    0xb7, 0xfd, 0x93, 0x26, 0x36, 0x3f, 0xf7, 0xcc, 0x34, 0xa5, 0xe5, 0xf1, 0x71, 0xd8, 0x31, 0x15,
    0x04, 0xc7, 0x23, 0xc3, 0x18, 0x96, 0x05, 0x9a, 0x07, 0x12, 0x80, 0xe2, 0xeb, 0x27, 0xb2, 0x75,
    0x09, 0x83, 0x2c, 0x1a, 0x1b, 0x6e, 0x5a, 0xa0, 0x52, 0x3b, 0xd6, 0xb3, 0x29, 0xe3, 0x2f, 0x84,
    0x53, 0xd1, 0x00, 0xed, 0x20, 0xfc, 0xb1, 0x5b, 0x6a, 0xcb, 0xbe, 0x39, 0x4a, 0x4c, 0x58, 0xcf,
    0xd0, 0xef, 0xaa, 0xfb, 0x43, 0x4d, 0x33, 0x85, 0x45, 0xf9, 0x02, 0x7f, 0x50, 0x3c, 0x9f, 0xa8,
    0x51, 0xa3, 0x40, 0x8f, 0x92, 0x9d, 0x38, 0xf5, 0xbc, 0xb6, 0xda, 0x21, 0x10, 0xff, 0xf3, 0xd2,
    0xcd, 0x0c, 0x13, 0xec, 0x5f, 0x97, 0x44, 0x17, 0xc4, 0xa7, 0x7e, 0x3d, 0x64, 0x5d, 0x19, 0x73,
    0x60, 0x81, 0x4f, 0xdc, 0x22, 0x2a, 0x90, 0x88, 0x46, 0xee, 0xb8, 0x14, 0xde, 0x5e, 0x0b, 0xdb,
    0xe0, 0x32, 0x3a, 0x0a, 0x49, 0x06, 0x24, 0x5c, 0xc2, 0xd3, 0xac, 0x62, 0x91, 0x95, 0xe4, 0x79,
    0xe7, 0xc8, 0x37, 0x6d, 0x8d, 0xd5, 0x4e, 0xa9, 0x6c, 0x56, 0xf4, 0xea, 0x65, 0x7a, 0xae, 0x08,
    0xba, 0x78, 0x25, 0x2e, 0x1c, 0xa6, 0xb4, 0xc6, 0xe8, 0xdd, 0x74, 0x1f, 0x4b, 0xbd, 0x8b, 0x8a,
    0x70, 0x3e, 0xb5, 0x66, 0x48, 0x03, 0xf6, 0x0e, 0x61, 0x35, 0x57, 0xb9, 0x86, 0xc1, 0x1d, 0x9e,
    0xe1, 0xf8, 0x98, 0x11, 0x69, 0xd9, 0x8e, 0x94, 0x9b, 0x1e, 0x87, 0xe9, 0xce, 0x55, 0x28, 0xdf,
    0x8c, 0xa1, 0x89, 0x0d, 0xbf, 0xe6, 0x42, 0x68, 0x41, 0x99, 0x2d, 0x0f, 0xb0, 0x54, 0xbb, 0x16]

/-- The substitution of one byte. -/
def substitute (b : UInt8) : UInt8 := substitutions.getD b.toNat 0

/-- Twice a byte in the field modulo x⁸ + x⁴ + x³ + x + 1. -/
def twice (b : UInt8) : UInt8 := b <<< 1 ^^^ (if b < 0x80 then 0 else 0x1b)

/-- A column multiplied by the circulant matrix of 2, 3, 1, 1. -/
def mixColumn (q : Column) : Column :=
  let all := q.a ^^^ q.b ^^^ q.c ^^^ q.d
  ⟨q.a ^^^ all ^^^ twice (q.a ^^^ q.b), q.b ^^^ all ^^^ twice (q.b ^^^ q.c),
   q.c ^^^ all ^^^ twice (q.c ^^^ q.d), q.d ^^^ all ^^^ twice (q.d ^^^ q.a)⟩

/-- Row `i` is shifted round by `i` places. -/
def shiftRows (s : State) : State :=
  ⟨⟨s.a.a, s.b.b, s.c.c, s.d.d⟩, ⟨s.b.a, s.c.b, s.d.c, s.a.d⟩,
   ⟨s.c.a, s.d.b, s.a.c, s.b.d⟩, ⟨s.d.a, s.a.b, s.b.c, s.c.d⟩⟩

/-- Exclusive or of two columns. -/
def addColumn (p q : Column) : Column := p.zipWith (· ^^^ ·) q

/-- Exclusive or with a round key. -/
def addKey (s k : State) : State := s.zipWith addColumn k

/-- A round without the mixing of columns, which the last round leaves out. -/
def lastRound (s k : State) : State :=
  addKey (shiftRows (s.map (·.map substitute))) k

/-- A whole round. -/
def round (s k : State) : State :=
  addKey ((shiftRows (s.map (·.map substitute))).map mixColumn) k

/-- The round key after two others: each column is the one four before it added to the one just
before it, which is first passed through `f` at the start of a round key. -/
def nextKey (f : Column → Column) (older newer : State) : State :=
  let a := addColumn older.a (f newer.d)
  let b := addColumn older.b a
  let c := addColumn older.c b
  ⟨a, b, c, addColumn older.d c⟩

/-- The round keys after two others, one pair for each round constant. -/
def expand : List UInt8 → State → State → List State
  | [], _, _ => []
  | constant :: more, older, newer =>
    let k := nextKey (fun q => addColumn (q.turn.map substitute) ⟨constant, 0, 0, 0⟩) older newer
    let l := nextKey (·.map substitute) newer k
    k :: l :: expand more k l

/-- A column from the bytes at its place. -/
def column (bs : Octets) (i : Nat) : Column :=
  ⟨bs.getD (4 * i) 0, bs.getD (4 * i + 1) 0, bs.getD (4 * i + 2) 0, bs.getD (4 * i + 3) 0⟩

/-- The state of sixteen bytes. -/
def State.ofOctets (bs : Octets) : State := ⟨column bs 0, column bs 1, column bs 2, column bs 3⟩

/-- The sixteen bytes of a state. -/
def State.block (s : State) : Block 16 := ⟨s.toList.flatMap Quad.toList, rfl⟩

/-- The first two round keys, which are the key, and the thirteen that follow them. -/
def roundKeys (key : Block 32) : State × List State :=
  let k0 := State.ofOctets (key.octets.take 16)
  let k1 := State.ofOctets (key.octets.drop 16)
  (k0, k1 :: expand [0x01, 0x02, 0x04, 0x08, 0x10, 0x20, 0x40] k0 k1)

/-- The rounds with the given keys, the last of them without mixing. -/
def applyRounds : List State → State → State
  | [], s => s
  | [k], s => lastRound s k
  | k :: ks, s => applyRounds ks (round s k)

/-- The encryption of a block under expanded keys. -/
def encryptWith (keys : State × List State) (b : Block 16) : Block 16 :=
  State.block (applyRounds (keys.2.take 14) (addKey (State.ofOctets b.octets) keys.1))

/-- The encryption of one block. -/
def encrypt (key : Block 32) (b : Block 16) : Block 16 := encryptWith (roundKeys key) b

end DeviceAuth.Crypto.Aes256
