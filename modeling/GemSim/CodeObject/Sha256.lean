import GemSim.Domain.CodeObject
import Mathlib.Data.Fin.VecNotation

/-!
# The digest of an image

The padded message is taken in blocks of 64 bytes; each block is expanded into 64 words,
which are mixed into eight working words, round by round.

## Main definitions

* `padded` — the message with its end mark and its length in bits
* `schedule` — the 64 words of a block
* `compress` — one block mixed into the state
* `sha256` — the digest
-/

namespace GemSim.CodeObject

open GemSim.Domain

def Sha256Constants : List UInt32 :=
  [0x428a2f98, 0x71374491, 0xb5c0fbcf, 0xe9b5dba5, 0x3956c25b, 0x59f111f1, 0x923f82a4, 0xab1c5ed5,
    0xd807aa98, 0x12835b01, 0x243185be, 0x550c7dc3, 0x72be5d74, 0x80deb1fe, 0x9bdc06a7, 0xc19bf174,
    0xe49b69c1, 0xefbe4786, 0x0fc19dc6, 0x240ca1cc, 0x2de92c6f, 0x4a7484aa, 0x5cb0a9dc, 0x76f988da,
    0x983e5152, 0xa831c66d, 0xb00327c8, 0xbf597fc7, 0xc6e00bf3, 0xd5a79147, 0x06ca6351, 0x14292967,
    0x27b70a85, 0x2e1b2138, 0x4d2c6dfc, 0x53380d13, 0x650a7354, 0x766a0abb, 0x81c2c92e, 0x92722c85,
    0xa2bfe8a1, 0xa81a664b, 0xc24b8b70, 0xc76c51a3, 0xd192e819, 0xd6990624, 0xf40e3585, 0x106aa070,
    0x19a4c116, 0x1e376c08, 0x2748774c, 0x34b0bcb5, 0x391c0cb3, 0x4ed8aa4a, 0x5b9cca4f, 0x682e6ff3,
    0x748f82ee, 0x78a5636f, 0x84c87814, 0x8cc70208, 0x90befffa, 0xa4506ceb, 0xbef9a3f7, 0xc67178f2]

def rotateRight (value : UInt32) (amount : UInt32) : UInt32 :=
  (value >>> amount) ||| (value <<< (32 - amount))

/-- The eight working words. -/
structure Working where
  a : UInt32 := 0x6a09e667
  b : UInt32 := 0xbb67ae85
  c : UInt32 := 0x3c6ef372
  d : UInt32 := 0xa54ff53a
  e : UInt32 := 0x510e527f
  f : UInt32 := 0x9b05688c
  g : UInt32 := 0x1f83d9ab
  h : UInt32 := 0x5be0cd19

/-- The message with its end mark, zeros, and its length in bits. -/
def padded (image : List UInt8) : List UInt8 :=
  let bitLength := UInt64.ofNat image.length * 8
  let paddedSize := (image.length + 9 + 63) / 64 * 64
  image ++ 0x80 :: List.replicate (paddedSize - image.length - 9) 0 ++
    (List.range 8).map fun byte => (bitLength >>> UInt64.ofNat ((7 - byte) * 8)).toUInt8

/-- The big-endian word at an offset. -/
def bigWord (bytes : List UInt8) (offset : ℕ) : UInt32 :=
  (bytes.getD offset 0).toUInt32 <<< 24 ||| (bytes.getD (offset + 1) 0).toUInt32 <<< 16 |||
    (bytes.getD (offset + 2) 0).toUInt32 <<< 8 ||| (bytes.getD (offset + 3) 0).toUInt32

/-- The 64 words of the block at an offset. -/
def schedule (bytes : List UInt8) (block : ℕ) : List UInt32 :=
  (List.range' 16 48).foldl
    (fun words index =>
      let early := words.getD (index - 15) 0
      let late := words.getD (index - 2) 0
      let s0 := rotateRight early 7 ^^^ rotateRight early 18 ^^^ (early >>> 3)
      let s1 := rotateRight late 17 ^^^ rotateRight late 19 ^^^ (late >>> 10)
      words ++ [words.getD (index - 16) 0 + s0 + words.getD (index - 7) 0 + s1])
    ((List.range 16).map fun index => bigWord bytes (block + index * 4))

/-- One round, with its constant and its word. -/
def round (working : Working) (input : UInt32 × UInt32) : Working :=
  let s1 := rotateRight working.e 6 ^^^ rotateRight working.e 11 ^^^ rotateRight working.e 25
  let choose := (working.e &&& working.f) ^^^ (~~~working.e &&& working.g)
  let temp1 := working.h + s1 + choose + input.1 + input.2
  let s0 := rotateRight working.a 2 ^^^ rotateRight working.a 13 ^^^ rotateRight working.a 22
  let majority := (working.a &&& working.b) ^^^ (working.a &&& working.c) ^^^
    (working.b &&& working.c)
  let temp2 := s0 + majority
  { a := temp1 + temp2, b := working.a, c := working.b, d := working.c
    e := working.d + temp1, f := working.e, g := working.f, h := working.g }

/-- One block mixed into the state. -/
def compress (bytes : List UInt8) (state : Working) (block : ℕ) : Working :=
  let mixed := (Sha256Constants.zip (schedule bytes block)).foldl round state
  { a := state.a + mixed.a, b := state.b + mixed.b, c := state.c + mixed.c, d := state.d + mixed.d
    e := state.e + mixed.e, f := state.f + mixed.f, g := state.g + mixed.g, h := state.h + mixed.h }

/-- The words of the state, in order. -/
def Working.words (state : Working) : List UInt32 :=
  [state.a, state.b, state.c, state.d, state.e, state.f, state.g, state.h]

def sha256 (image : List UInt8) : Sha256 :=
  let bytes := padded image
  let state := ((List.range (bytes.length / 64)).map (· * 64)).foldl (compress bytes) {}
  Vector.ofFn fun index =>
    (state.words.getD (index.val / 4) 0 >>> UInt32.ofNat (24 - index.val % 4 * 8)).toUInt8

/-- The digest of the three letters of the alphabet's start. -/
example : ((sha256 [0x61, 0x62, 0x63]).toList.take 4) = [0xba, 0x78, 0x16, 0xbf] := by
  decide +kernel

end GemSim.CodeObject
