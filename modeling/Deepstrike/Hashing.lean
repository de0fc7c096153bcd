import Mathlib.Algebra.GroupWithZero.Nat

/-!
The secure hash with 256 bits over 32 bit words: padding, the message schedule and 64 rounds for each block.
-/
namespace Deepstrike.Hashing

def rotated (word shift : UInt32) : UInt32 := (word >>> shift) ||| (word <<< (32-shift))

/-- The fractional parts of the cube roots of the first 64 primes. -/
def roundConstants : List UInt32 := [
  0x428a2f98,0x71374491,0xb5c0fbcf,0xe9b5dba5,0x3956c25b,0x59f111f1,0x923f82a4,0xab1c5ed5,
  0xd807aa98,0x12835b01,0x243185be,0x550c7dc3,0x72be5d74,0x80deb1fe,0x9bdc06a7,0xc19bf174,
  0xe49b69c1,0xefbe4786,0x0fc19dc6,0x240ca1cc,0x2de92c6f,0x4a7484aa,0x5cb0a9dc,0x76f988da,
  0x983e5152,0xa831c66d,0xb00327c8,0xbf597fc7,0xc6e00bf3,0xd5a79147,0x06ca6351,0x14292967,
  0x27b70a85,0x2e1b2138,0x4d2c6dfc,0x53380d13,0x650a7354,0x766a0abb,0x81c2c92e,0x92722c85,
  0xa2bfe8a1,0xa81a664b,0xc24b8b70,0xc76c51a3,0xd192e819,0xd6990624,0xf40e3585,0x106aa070,
  0x19a4c116,0x1e376c08,0x2748774c,0x34b0bcb5,0x391c0cb3,0x4ed8aa4a,0x5b9cca4f,0x682e6ff3,
  0x748f82ee,0x78a5636f,0x84c87814,0x8cc70208,0x90befffa,0xa4506ceb,0xbef9a3f7,0xc67178f2]

structure Words where
  a : UInt32
  b : UInt32
  c : UInt32
  d : UInt32
  e : UInt32
  f : UInt32
  g : UInt32
  h : UInt32

/-- The fractional parts of the square roots of the first eight primes. -/
def initialWords : Words := ⟨0x6a09e667,0xbb67ae85,0x3c6ef372,0xa54ff53a,0x510e527f,0x9b05688c,0x1f83d9ab,0x5be0cd19⟩

/-- The message, a one bit, zeros up to a multiple of 64 bytes, and the count of bits at the end. -/
def padded (message : List UInt8) : List UInt8 :=
  let zeros := (119-message.length%64)%64
  let bits := message.length*8
  message ++ [0x80] ++ List.replicate zeros 0 ++ (List.range 8).map fun place => UInt8.ofNat (bits/256^(7-place))

def blockWords : List UInt8 → List UInt32
  | first :: second :: third :: fourth :: rest =>
    ((first.toUInt32 <<< 24) ||| (second.toUInt32 <<< 16) ||| (third.toUInt32 <<< 8) ||| fourth.toUInt32) :: blockWords rest
  | _ => []

/-- Extend a schedule, the latest word in front. -/
def extend : Nat → List UInt32 → List UInt32
  | 0,words => words
  | more+1,words =>
    let early := words.getD 14 0
    let late := words.getD 1 0
    let small := rotated early 7 ^^^ rotated early 18 ^^^ (early >>> 3)
    let large := rotated late 17 ^^^ rotated late 19 ^^^ (late >>> 10)
    extend more ((words.getD 15 0+small+words.getD 6 0+large) :: words)

def round (words : Words) (input : UInt32) : Words :=
  let choice := (words.e &&& words.f) ^^^ ((words.e ^^^ 0xffffffff) &&& words.g)
  let majority := (words.a &&& words.b) ^^^ (words.a &&& words.c) ^^^ (words.b &&& words.c)
  let upper := rotated words.a 2 ^^^ rotated words.a 13 ^^^ rotated words.a 22
  let lower := rotated words.e 6 ^^^ rotated words.e 11 ^^^ rotated words.e 25
  let mixed := words.h+lower+choice+input
  ⟨mixed+upper+majority,words.a,words.b,words.c,words.d+mixed,words.e,words.f,words.g⟩

def compress (before : Words) (block : List UInt8) : Words :=
  let schedule := (extend 48 (blockWords block).reverse).reverse
  let after := (List.zipWith (· + ·) roundConstants schedule).foldl round before
  ⟨before.a+after.a,before.b+after.b,before.c+after.c,before.d+after.d,before.e+after.e,before.f+after.f,before.g+after.g,before.h+after.h⟩

def digestBlocks : Nat → Words → List UInt8 → Words
  | 0,words,_ => words
  | blocks+1,words,bytes => digestBlocks blocks (compress words (bytes.take 64)) (bytes.drop 64)

def Words.byte (words : Words) (place : Nat) : UInt8 :=
  let word := [words.a,words.b,words.c,words.d,words.e,words.f,words.g,words.h].getD (place/4) 0
  UInt8.ofNat (word.toNat/256^(3-place%4))

def sha256 (message : List UInt8) : Vector UInt8 32 :=
  let bytes := padded message
  let words := digestBlocks (bytes.length/64) initialWords bytes
  Vector.ofFn fun place => words.byte place.val

/-- The digest of `abc`. -/
example : (sha256 [0x61,0x62,0x63]).toList = [
    0xba,0x78,0x16,0xbf,0x8f,0x01,0xcf,0xea,0x41,0x41,0x40,0xde,0x5d,0xae,0x22,0x23,
    0xb0,0x03,0x61,0xa3,0x96,0x17,0x7a,0x9c,0xb4,0x10,0xff,0x61,0xf2,0x00,0x15,0xad] := by decide +kernel

end Deepstrike.Hashing
