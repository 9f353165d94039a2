import Mathlib.Data.List.Nodup
import Mathlib.Data.String.Basic
import Mathlib.Logic.Function.Basic
import Tally.Library.Words

/-!
# SHA-256

The hash function is a parameter of whatever uses it, given as an instance of
`Sha256`: results that need it say that no two inputs collide. The standard
function itself is here too, computable by the kernel, for evaluation on
concrete inputs, and so is an injective function that agrees with the standard
one on a given list of inputs.
-/

set_option autoImplicit false

namespace Library

open Words

abbrev Bytes := List UInt8

/-- The UTF-8 encoding of a text. -/
def encode (text : String) : Bytes := text.toByteArray.data.toList

/-- The bytes of a text are those of its characters, one after the other. -/
theorem encode_ofList (text : List Char) :
    encode (String.ofList text) = text.flatMap String.utf8EncodeChar := by
  unfold encode
  rw [String.toByteArray_ofList, List.utf8Encode, List.toList_data_toByteArray]

theorem encode_injective : Function.Injective encode := by
  intro a b h
  have hdata := Array.toList_inj.mp h
  exact String.toByteArray_inj.mp (ByteArray.ext hdata)

/-- A hash function on byte strings. -/
class Sha256 where
  digest : Bytes → Bytes

namespace Sha256

/-! ## Hexadecimal digests -/

def hexChars (bytes : Bytes) : List Char :=
  bytes.flatMap fun b => [hexDigit (b.toNat / 16), hexDigit (b.toNat % 16)]

theorem hexChars_injective : Function.Injective hexChars := by
  intro a
  induction a with
  | nil =>
      intro b h
      cases b with
      | nil => rfl
      | cons y b => simp [hexChars] at h
  | cons x a ih =>
      intro b h
      cases b with
      | nil => simp [hexChars] at h
      | cons y b =>
          simp only [hexChars, List.flatMap_cons, List.cons_append, List.nil_append,
            List.cons.injEq] at h
          obtain ⟨hhigh, hlow, htail⟩ := h
          have hx := x.toNat_lt
          have hy := y.toNat_lt
          have h1 := hexDigit_injective _ (by omega) _ (by omega) hhigh
          have h2 := hexDigit_injective _ (by omega) _ (by omega) hlow
          have hxy : x = y := UInt8.toNat_inj.mp (by omega)
          rw [hxy, ih htail]

/-- A hexadecimal text holds digits and the letters a to f only. -/
theorem mem_hexChars {bytes : Bytes} {c : Char} (hc : c ∈ hexChars bytes) :
    ∃ n < 16, c = hexDigit n := by
  unfold hexChars at hc
  obtain ⟨b, _, hb⟩ := List.mem_flatMap.mp hc
  have hlt := b.toNat_lt
  rcases List.mem_cons.mp hb with rfl | hb
  · exact ⟨b.toNat / 16, by omega, rfl⟩
  · exact ⟨b.toNat % 16, by omega, by simpa using hb⟩

def hexdigest [Sha256] (bytes : Bytes) : String := String.ofList (hexChars (digest bytes))

/-- No two byte strings have one digest. -/
def CollisionFree [Sha256] : Prop := Function.Injective (digest : Bytes → Bytes)

/-- Two byte strings with one digest. -/
def Collision [Sha256] (a b : Bytes) : Prop := a ≠ b ∧ digest a = digest b

theorem eq_or_collision [Sha256] {a b : Bytes} (h : hexdigest a = hexdigest b) :
    a = b ∨ Collision a b := by
  by_cases heq : a = b
  · exact Or.inl heq
  · exact Or.inr ⟨heq, hexChars_injective (String.ofList_injective h)⟩

theorem hexdigest_injective [Sha256] (hfree : CollisionFree) :
    Function.Injective (hexdigest : Bytes → String) := by
  intro a b h
  rcases eq_or_collision h with heq | ⟨hne, hdigest⟩
  · exact heq
  · exact absurd (hfree hdigest) hne

/-! ## The standard function -/

def roundConstants : List Nat :=
  [0x428a2f98, 0x71374491, 0xb5c0fbcf, 0xe9b5dba5, 0x3956c25b, 0x59f111f1, 0x923f82a4, 0xab1c5ed5,
   0xd807aa98, 0x12835b01, 0x243185be, 0x550c7dc3, 0x72be5d74, 0x80deb1fe, 0x9bdc06a7, 0xc19bf174,
   0xe49b69c1, 0xefbe4786, 0x0fc19dc6, 0x240ca1cc, 0x2de92c6f, 0x4a7484aa, 0x5cb0a9dc, 0x76f988da,
   0x983e5152, 0xa831c66d, 0xb00327c8, 0xbf597fc7, 0xc6e00bf3, 0xd5a79147, 0x06ca6351, 0x14292967,
   0x27b70a85, 0x2e1b2138, 0x4d2c6dfc, 0x53380d13, 0x650a7354, 0x766a0abb, 0x81c2c92e, 0x92722c85,
   0xa2bfe8a1, 0xa81a664b, 0xc24b8b70, 0xc76c51a3, 0xd192e819, 0xd6990624, 0xf40e3585, 0x106aa070,
   0x19a4c116, 0x1e376c08, 0x2748774c, 0x34b0bcb5, 0x391c0cb3, 0x4ed8aa4a, 0x5b9cca4f, 0x682e6ff3,
   0x748f82ee, 0x78a5636f, 0x84c87814, 0x8cc70208, 0x90befffa, 0xa4506ceb, 0xbef9a3f7, 0xc67178f2]

def rotateRight (x n : Nat) : Nat := (x >>> n ||| x <<< (32 - n)) % 4294967296

def add32 (a b : Nat) : Nat := (a + b) % 4294967296

/-- The first 16 words of a block and the given number of words expanded from
them. -/
def schedule : Nat → List Nat → List Nat
  | n + 1, w :: words =>
    let a := words.getD 0 0
    let b := words.getD 13 0
    let s0 := rotateRight a 7 ^^^ rotateRight a 18 ^^^ (a >>> 3)
    let s1 := rotateRight b 17 ^^^ rotateRight b 19 ^^^ (b >>> 10)
    w :: schedule n (words ++ [add32 (add32 s1 (words.getD 8 0)) (add32 s0 w)])
  | _, words => words

/-- The eight working words. -/
structure Registers where
  a : Nat
  b : Nat
  c : Nat
  d : Nat
  e : Nat
  f : Nat
  g : Nat
  h : Nat

def Registers.initial : Registers :=
  ⟨0x6a09e667, 0xbb67ae85, 0x3c6ef372, 0xa54ff53a, 0x510e527f, 0x9b05688c, 0x1f83d9ab, 0x5be0cd19⟩

def round (r : Registers) (constant word : Nat) : Registers :=
  let s1 := rotateRight r.e 6 ^^^ rotateRight r.e 11 ^^^ rotateRight r.e 25
  let choice := (r.e &&& r.f) ^^^ ((4294967295 ^^^ r.e) &&& r.g)
  let t1 := (r.h + s1 + choice + constant + word) % 4294967296
  let s0 := rotateRight r.a 2 ^^^ rotateRight r.a 13 ^^^ rotateRight r.a 22
  let majority := (r.a &&& r.b) ^^^ (r.a &&& r.c) ^^^ (r.b &&& r.c)
  ⟨add32 t1 (add32 s0 majority), r.a, r.b, r.c, add32 r.d t1, r.e, r.f, r.g⟩

def rounds : Registers → List Nat → List Nat → Registers
  | r, constant :: constants, word :: words => rounds (round r constant word) constants words
  | r, _, _ => r

def compress (r : Registers) (block : List Nat) : Registers :=
  let q := rounds r roundConstants (schedule 48 block)
  ⟨add32 r.a q.a, add32 r.b q.b, add32 r.c q.c, add32 r.d q.d, add32 r.e q.e, add32 r.f q.f,
    add32 r.g q.g, add32 r.h q.h⟩

def compressBlocks : Nat → List Nat → Registers → Registers
  | 0, _, r => r
  | n + 1, words, r => compressBlocks n (words.drop 16) (compress r (words.take 16))

def toWords : List Nat → List Nat
  | a :: b :: c :: d :: rest => (a * 16777216 + b * 65536 + c * 256 + d) :: toWords rest
  | _ => []

def padded (bytes : Bytes) : List Nat :=
  let length := bytes.length
  bytes.map UInt8.toNat ++ 128 :: List.replicate ((119 - length % 64) % 64) 0 ++
    (List.range 8).map fun i => (length * 8) >>> (8 * (7 - i)) % 256

def wordBytes (word : Nat) : Bytes :=
  [UInt8.ofNat (word / 16777216), UInt8.ofNat (word / 65536), UInt8.ofNat (word / 256),
    UInt8.ofNat word]

def standardDigest (bytes : Bytes) : Bytes :=
  let words := toWords (padded bytes)
  let r := compressBlocks (words.length / 16) words Registers.initial
  [r.a, r.b, r.c, r.d, r.e, r.f, r.g, r.h].flatMap wordBytes

/-- The standard hash function. -/
@[reducible] def standard : Sha256 := ⟨standardDigest⟩

example : @hexdigest standard (encode "abc") =
    "ba7816bf8f01cfea414140de5dae2223b00361a396177a9cb410ff61f20015ad" := by
  decide +kernel

theorem length_standardDigest (bytes : Bytes) : (standardDigest bytes).length = 32 := rfl

/-- An injective function that agrees with the standard one on some inputs: any
other input is mapped to itself behind a prefix longer than a digest. -/
@[reducible] def agreeingOn (inputs : List Bytes) : Sha256 :=
  ⟨fun bytes => if bytes ∈ inputs then standardDigest bytes else List.replicate 33 0 ++ bytes⟩

theorem agreeingOn_collisionFree {inputs : List Bytes}
    (hdistinct : (inputs.map standardDigest).Nodup) :
    @CollisionFree (agreeingOn inputs) := by
  intro a b h
  change (if a ∈ inputs then standardDigest a else List.replicate 33 0 ++ a) =
    (if b ∈ inputs then standardDigest b else List.replicate 33 0 ++ b) at h
  by_cases ha : a ∈ inputs
  · by_cases hb : b ∈ inputs
    · rw [if_pos ha, if_pos hb] at h
      exact List.inj_on_of_nodup_map hdistinct ha hb h
    · rw [if_pos ha, if_neg hb] at h
      have hlen := congrArg List.length h
      rw [length_standardDigest, List.length_append, List.length_replicate] at hlen
      omega
  · by_cases hb : b ∈ inputs
    · rw [if_neg ha, if_pos hb] at h
      have hlen := congrArg List.length h
      rw [length_standardDigest, List.length_append, List.length_replicate] at hlen
      omega
    · rw [if_neg ha, if_neg hb] at h
      exact List.append_cancel_left h

end Sha256
end Library
