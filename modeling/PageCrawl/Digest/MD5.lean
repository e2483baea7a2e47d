/-!
# MD5

The message digest of 128 bits. A message is padded to blocks of sixteen words of 32 bits, little
end first; each block is stirred into a state of four words in 64 steps, each with its own
constant, rotation and order of the words of the block.
-/

namespace PageCrawl.Digest.MD5

/-- The four words that blocks are stirred into. -/
structure State where
  a : UInt32
  b : UInt32
  c : UInt32
  d : UInt32
deriving Repr, DecidableEq, Inhabited

/-- The state before the first block. -/
def State.start : State := ⟨0x67452301, 0xefcdab89, 0x98badcfe, 0x10325476⟩

/-- The constants of the steps: step `i` has the whole part of the sine of `i + 1`, without its
sign and times `2^32`. -/
def constants : Array UInt32 := #[
   0xd76aa478, 0xe8c7b756, 0x242070db, 0xc1bdceee,
   0xf57c0faf, 0x4787c62a, 0xa8304613, 0xfd469501,
   0x698098d8, 0x8b44f7af, 0xffff5bb1, 0x895cd7be,
   0x6b901122, 0xfd987193, 0xa679438e, 0x49b40821,
   0xf61e2562, 0xc040b340, 0x265e5a51, 0xe9b6c7aa,
   0xd62f105d, 0x02441453, 0xd8a1e681, 0xe7d3fbc8,
   0x21e1cde6, 0xc33707d6, 0xf4d50d87, 0x455a14ed,
   0xa9e3e905, 0xfcefa3f8, 0x676f02d9, 0x8d2a4c8a,
   0xfffa3942, 0x8771f681, 0x6d9d6122, 0xfde5380c,
   0xa4beea44, 0x4bdecfa9, 0xf6bb4b60, 0xbebfbc70,
   0x289b7ec6, 0xeaa127fa, 0xd4ef3085, 0x04881d05,
   0xd9d4d039, 0xe6db99e5, 0x1fa27cf8, 0xc4ac5665,
   0xf4292244, 0x432aff97, 0xab9423a7, 0xfc93a039,
   0x655b59c3, 0x8f0ccc92, 0xffeff47d, 0x85845dd1,
   0x6fa87e4f, 0xfe2ce6e0, 0xa3014314, 0x4e0811a1,
   0xf7537e82, 0xbd3af235, 0x2ad7d2bb, 0xeb86d391
]

/-- The rotations of the steps: four for each of the four rounds, in turn. -/
def rotations : Array (Array UInt32) :=
  #[#[7, 12, 17, 22], #[5, 9, 14, 20], #[4, 11, 16, 23], #[6, 10, 15, 21]]

/-- A word with its bits moved round to the left. -/
def rotated (x n : UInt32) : UInt32 := (x <<< n) ||| (x >>> (32 - n))

/-- The mixture of three words in a step, and the place of the word of the block that it takes. -/
def mixture (s : State) (i : Nat) : UInt32 × Nat :=
  match i / 16 with
  | 0 => ((s.b &&& s.c) ||| (~~~s.b &&& s.d), i)
  | 1 => ((s.d &&& s.b) ||| (~~~s.d &&& s.c), (5 * i + 1) % 16)
  | 2 => (s.b ^^^ s.c ^^^ s.d, (3 * i + 5) % 16)
  | _ => (s.c ^^^ (s.b ||| ~~~s.d), (7 * i) % 16)

/-- One step. -/
def step (block : Array UInt32) (s : State) (i : Nat) : State :=
  let (f, place) := mixture s i
  let sum := s.a + f + constants.getD i 0 + block.getD place 0
  let turn := (rotations.getD (i / 16) #[]).getD (i % 4) 0
  ⟨s.d, s.b + rotated sum turn, s.b, s.c⟩

/-- Stirs a block into a state. -/
def stir (s : State) (block : Array UInt32) : State :=
  let t := (List.range 64).foldl (step block) s
  ⟨s.a + t.a, s.b + t.b, s.c + t.c, s.d + t.d⟩

/-- The bytes of a number, lowest first. -/
def littleEnd : Nat → Nat → List UInt8
  | 0, _ => []
  | k + 1, n => UInt8.ofNat n :: littleEnd k (n / 256)

/-- What is put behind a message of the given length: a byte that marks its end, zeros up to eight
bytes before the end of a block, and the length in bits. -/
def padding (length : Nat) : List UInt8 :=
  0x80 :: List.replicate ((119 - length % 64) % 64) 0 ++ littleEnd 8 (8 * length)

/-- The words of bytes, four for each. -/
def toWords : List UInt8 → List UInt32
  | a :: b :: c :: d :: rest =>
    (a.toUInt32 ||| b.toUInt32 <<< 8 ||| c.toUInt32 <<< 16 ||| d.toUInt32 <<< 24) :: toWords rest
  | _ => []

/-- Stirs words into a state, in at most the given number of blocks. -/
def stirAll : Nat → State → List UInt32 → State
  | 0, s, _ => s
  | n + 1, s, words =>
    if words.isEmpty then s else stirAll n (stir s (words.take 16).toArray) (words.drop 16)

/-- The bytes of a word as hexadecimal digits, lowest byte first. -/
def hexWord (w : UInt32) : List Char :=
  (littleEnd 4 w.toNat).flatMap fun byte =>
    [Nat.digitChar (byte.toNat / 16), Nat.digitChar (byte.toNat % 16)]

/-- The digest of bytes as 32 hexadecimal digits. -/
def hex (bytes : List UInt8) : String :=
  let words := toWords (bytes ++ padding bytes.length)
  let s := stirAll (words.length / 16) .start words
  String.ofList (hexWord s.a ++ hexWord s.b ++ hexWord s.c ++ hexWord s.d)

end PageCrawl.Digest.MD5
