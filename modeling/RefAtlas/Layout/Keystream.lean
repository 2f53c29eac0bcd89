/-! # A repeatable stream of random words

From a seed, eight key words are drawn; from the key, blocks of sixteen words are made by stirring
the key, a block number and a constant for twelve rounds and adding what was there before.

* `keyOfSeed`: the key of a seed.
* `block`: one block of words.
* `randomWords`: the first words of the stream.
-/

namespace RefAtlas.Layout.Keystream
set_option autoImplicit false

structure Row where
  a : UInt32
  b : UInt32
  c : UInt32
  d : UInt32
deriving DecidableEq

namespace Row

def zipWith (f : UInt32 → UInt32 → UInt32) (r s : Row) : Row :=
  ⟨f r.a s.a, f r.b s.b, f r.c s.c, f r.d s.d⟩

def rotate (r : Row) : Row := ⟨r.b, r.c, r.d, r.a⟩

def toList (r : Row) : List UInt32 := [r.a, r.b, r.c, r.d]

end Row

structure State where
  r0 : Row
  r1 : Row
  r2 : Row
  r3 : Row
deriving DecidableEq

namespace State

def zipWith (f : UInt32 → UInt32 → UInt32) (s t : State) : State :=
  ⟨s.r0.zipWith f t.r0, s.r1.zipWith f t.r1, s.r2.zipWith f t.r2, s.r3.zipWith f t.r3⟩

def toList (s : State) : List UInt32 := s.r0.toList ++ s.r1.toList ++ s.r2.toList ++ s.r3.toList

end State

/-- Moves the bits of a word to the left, those that fall out to the right end. -/
def rotateBits (n : UInt32) (x : UInt32) : UInt32 := (x <<< n) ||| (x >>> (32 - n))

def mix (n : UInt32) (x y : UInt32) : UInt32 := rotateBits n (x ^^^ y)

def stirLanes (s : State) : State :=
  let r0 := s.r0.zipWith (· + ·) s.r1
  let r3 := s.r3.zipWith (mix 16) r0
  let r2 := s.r2.zipWith (· + ·) r3
  let r1 := s.r1.zipWith (mix 12) r2
  let r0 := r0.zipWith (· + ·) r1
  let r3 := r3.zipWith (mix 8) r0
  let r2 := r2.zipWith (· + ·) r3
  let r1 := r1.zipWith (mix 7) r2
  ⟨r0, r1, r2, r3⟩

def doubleRound (s : State) : State :=
  let s := stirLanes s
  let s := stirLanes ⟨s.r0, s.r1.rotate, s.r2.rotate.rotate, s.r3.rotate.rotate.rotate⟩
  ⟨s.r0, s.r1.rotate.rotate.rotate, s.r2.rotate.rotate, s.r3.rotate⟩

def constants : Row := ⟨0x61707865, 0x3320646e, 0x79622d32, 0x6b206574⟩

def block (key : Row × Row) (number : UInt64) : List UInt32 :=
  let start : State := ⟨constants, key.1, key.2, ⟨number.toUInt32, (number >>> 32).toUInt32, 0, 0⟩⟩
  (start.zipWith (· + ·) (Nat.repeat doubleRound 6 start)).toList

/-! ## Seeds -/

def advance (s : UInt64) : UInt64 := s * 6364136223846793005 + 11634580027462260723

def keyWord (s : UInt64) : UInt32 :=
  let x := (((s >>> 18) ^^^ s) >>> 27).toUInt32
  let turn : UInt32 := (s >>> 59).toUInt32
  rotateBits ((32 - turn) % 32) x

def keyOfSeed (seed : UInt64) : Row × Row :=
  let s1 := advance seed
  let s2 := advance s1
  let s3 := advance s2
  let s4 := advance s3
  let s5 := advance s4
  let s6 := advance s5
  let s7 := advance s6
  let s8 := advance s7
  (⟨keyWord s1, keyWord s2, keyWord s3, keyWord s4⟩,
    ⟨keyWord s5, keyWord s6, keyWord s7, keyWord s8⟩)

def randomWords (seed : UInt64) (n : Nat) : List UInt32 :=
  let key := keyOfSeed seed
  ((List.range (n / 16 + 1)).flatMap fun i => block key (UInt64.ofNat i)).take n

end RefAtlas.Layout.Keystream
