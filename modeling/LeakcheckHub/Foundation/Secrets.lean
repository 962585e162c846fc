import LeakcheckHub.Foundation.PyText

/-!
# Passwords, digests and Base32 seeds

A password hash as a function that carries what verification says of it, a
keyed digest, and `base64.b32encode` and `base64.b32decode` of the standard
library.
-/

namespace LeakcheckHub.Foundation

/-- A salted password hash: a verifier accepts the password it was made from
and no other. -/
structure PasswordHasher where
  hash : Bytes → Bytes → PyStr
  verify : PyStr → Bytes → Bool
  /-- The parameters of a verifier are not the current ones. -/
  checkNeedsRehash : PyStr → Bool
  verify_hash : ∀ salt p q, verify (hash salt p) q = decide (q = p)

namespace PasswordHasher

structure TestVector where
  salt : Bytes
  password : Bytes
  encoded : PyStr
deriving DecidableEq

/-- The spelling of a password that no vector lists, behind a zero. -/
def spell (p : Bytes) : PyStr := 0 :: p.map fun b => Fin.ofNat _ b.toNat

theorem spell_injective {p q : Bytes} (h : spell p = spell q) : p = q := by
  have hmap := (List.cons.inj h).2
  refine List.map_injective_iff.mpr ?_ hmap
  intro b c hbc
  have hval : b.toNat % 0x110000 = c.toNat % 0x110000 :=
    congrArg Fin.val hbc
  have hb := b.toNat_lt
  have hc := c.toNat_lt
  exact UInt8.toNat_inj.mp (by omega)

/-- The hasher of a list of vectors, of which none starts with a zero. -/
def ofVectors (vs : List TestVector)
    (hzero : ∀ v ∈ vs, v.encoded.head? ≠ some 0)
    (hpassword : ∀ v ∈ vs, ∀ w ∈ vs, v.encoded = w.encoded →
      v.password = w.password) : PasswordHasher where
  hash salt p :=
    match vs.find? fun v => v.salt == salt && v.password == p with
    | some v => v.encoded
    | none => spell p
  verify encoded q :=
    match vs.find? fun v => v.encoded == encoded with
    | some v => decide (q = v.password)
    | none => decide (encoded = spell q)
  checkNeedsRehash _ := false
  verify_hash := by
    intro salt p q
    split
    · rename_i w hw
      have hwm := List.mem_of_find?_eq_some hw
      have hwp := List.find?_some hw
      rw [beq_iff_eq] at hwp
      split at hwp
      · rename_i v hv
        -- the vector that hashed it verifies it
        have hvp := List.find?_some hv
        simp only [Bool.and_eq_true, beq_iff_eq] at hvp
        rw [hpassword w hwm v (List.mem_of_find?_eq_some hv) hwp, hvp.2]
      · exact absurd (by rw [hwp]; rfl) (hzero w hwm)
    · rename_i hnone
      split at hnone
      · rename_i v hv
        have := List.find?_eq_none.mp hnone v (List.mem_of_find?_eq_some hv)
        exact absurd (beq_self_eq_true _) this
      · refine decide_eq_decide.mpr ⟨fun h => (spell_injective h).symm, ?_⟩
        rintro rfl
        rfl

end PasswordHasher

/-- HMAC-SHA-256: a digest of 32 bytes for each key and message. -/
structure Hmac where
  digest : Bytes → Bytes → Bytes
  length_digest : ∀ key message, (digest key message).length = 32

/-- `n.to_bytes(len, "big")`. -/
def bigEndian (len n : ℕ) : Bytes :=
  (List.range len).map fun i => UInt8.ofNat (n / 256 ^ (len - 1 - i) % 256)

theorem length_bigEndian (len n : ℕ) : (bigEndian len n).length = len := by
  rw [bigEndian, List.length_map, List.length_range]

/-- The digests of a list of keys and messages; all others are zero. -/
def Hmac.ofVectors (vs : List (Bytes × Bytes × ℕ)) : Hmac where
  digest key message := bigEndian 32
    (((vs.find? fun v => v.1 == key && v.2.1 == message).map
      fun v => v.2.2).getD 0)
  length_digest _ _ := length_bigEndian 32 _

/-- `int.from_bytes(s, "big")`. -/
def ofBigEndian (s : Bytes) : ℕ := s.foldl (fun acc b => acc * 256 + b.toNat) 0

/-- `s[i : i + n]` for `i` in `range(0, len(s), n)`. -/
def slices {α : Type} (n : ℕ) (s : List α) : List (List α) :=
  (List.range ((s.length + n - 1) / n)).map fun i => (s.drop (n * i)).take n

def b32Alphabet : PyStr := PyStr.lit "ABCDEFGHIJKLMNOPQRSTUVWXYZ234567"

def b32Pad : CodePoint := PyStr.ofChar '='

/-- The eight characters of five bytes. -/
def b32Quantum (s : Bytes) : PyStr :=
  (List.range 8).map fun i =>
    b32Alphabet.getD (ofBigEndian s / 32 ^ (7 - i) % 32) b32Pad

/-- `base64.b32encode`. -/
def b32encode (s : Bytes) : PyStr :=
  let leftover := s.length % 5
  let padded :=
    if leftover = 0 then s else s ++ List.replicate (5 - leftover) 0
  let encoded := (slices 5 padded).flatMap b32Quantum
  let pad := [0, 6, 4, 3, 1].getD leftover 0
  encoded.take (encoded.length - pad) ++ List.replicate pad b32Pad

/-- The value of the digits of a quantum; `none` for a non-base32 digit. -/
def b32Value (quantum : PyStr) : Option ℕ :=
  quantum.foldlM (fun acc c =>
    if b32Alphabet.idxOf c < 32 then some (acc * 32 + b32Alphabet.idxOf c)
    else none) 0

/-- `base64.b32decode(s, casefold=False)`; `none` is `binascii.Error`. -/
def b32decode (s : PyStr) : Option Bytes :=
  if s.length % 8 ≠ 0 then none
  else
    let body := (s.reverse.dropWhile (· == b32Pad)).reverse
    let padchars := s.length - body.length
    match (slices 8 body).mapM b32Value with
    | none => none
    | some accs =>
        if !([0, 1, 3, 4, 6].contains padchars) then none
        else if padchars = 0 then some (accs.flatMap (bigEndian 5))
        else
          -- the last quantum is shifted to its place and cut
          let last := bigEndian 5 (accs.getLastD 0 * 32 ^ padchars)
          some (accs.dropLast.flatMap (bigEndian 5) ++
            last.take ((43 - 5 * padchars) / 8))

/-- The value of a character of `urlsafe_b64decode`, which translates `-` and
`_` and still takes `+` and `/`. -/
def sextet (c : CodePoint) : Option ℕ :=
  if 65 ≤ c.val ∧ c.val ≤ 90 then some (c.val - 65)
  else if 97 ≤ c.val ∧ c.val ≤ 122 then some (c.val - 71)
  else if 48 ≤ c.val ∧ c.val ≤ 57 then some (c.val + 4)
  else if c.val = 43 ∨ c.val = 45 then some 62
  else if c.val = 47 ∨ c.val = 95 then some 63
  else none

/-- `binascii.a2b_base64`, not strict, `place` characters into a quantum with
the bits `left` over: a character outside the alphabet is passed over, and a
quantum that the padding completes ends the input. -/
def a2bBase64 : PyStr → (place left pads : ℕ) → Option Bytes
  | [], place, _, _ => if place = 0 then some [] else none
  | c :: rest, place, left, pads =>
      if c.val = 61 then
        if place < 2 then a2bBase64 rest place left pads
        else if 4 ≤ place + (pads + 1) then some []
        else a2bBase64 rest place left (pads + 1)
      else
        match sextet c, place with
        | none, _ => a2bBase64 rest place left pads
        | some v, 0 => a2bBase64 rest 1 v 0
        | some v, 1 => do
            let tail ← a2bBase64 rest 2 (v % 16) 0
            pure (UInt8.ofNat (left * 4 + v / 16) :: tail)
        | some v, 2 => do
            let tail ← a2bBase64 rest 3 (v % 4) 0
            pure (UInt8.ofNat (left * 16 + v / 4) :: tail)
        | some v, _ => do
            let tail ← a2bBase64 rest 0 0 0
            pure (UInt8.ofNat (left * 64 + v) :: tail)

/-- `base64.urlsafe_b64decode` of a `str`; `none` is a `ValueError`. -/
def urlsafeB64decode (s : PyStr) : Option Bytes :=
  if s.isAscii then a2bBase64 s 0 0 0 else none

end LeakcheckHub.Foundation
