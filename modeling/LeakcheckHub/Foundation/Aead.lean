import LeakcheckHub.Foundation.PyText

/-!
# Authenticated encryption

An AEAD as a pair of functions that carries its correctness law, and the
re-encryption of a ciphertext from one key to another. `Aead.ofVectors` turns
published test vectors into an AEAD that agrees with them, so that a statement
about every AEAD can be tried on real ciphertexts; `Aead.ofBoundVectors` makes
one that also rejects foreign associated data.
-/

namespace LeakcheckHub.Foundation

structure Aead (Key Nonce Plain Cipher Data : Type) where
  encrypt : Key → Nonce → Plain → Data → Cipher
  decrypt : Key → Nonce → Cipher → Data → Option Plain
  decrypt_encrypt : ∀ k n p a, decrypt k n (encrypt k n p a) a = some p

namespace Aead

section Recrypt

variable {Key Nonce Plain Cipher Data : Type}
  {A : Aead Key Nonce Plain Cipher Data} {old new : Key} {n : Nonce}
  {c : Cipher} {a : Data} {p : Plain}

/-- Decrypts under one key and encrypts under another, with the same nonce and
associated data; `none` where the ciphertext does not authenticate. -/
def recrypt (A : Aead Key Nonce Plain Cipher Data) (old new : Key) (n : Nonce)
    (c : Cipher) (a : Data) : Option Cipher :=
  (A.decrypt old n c a).map fun p => A.encrypt new n p a

theorem recrypt_of_decrypt (h : A.decrypt old n c a = some p) :
    A.recrypt old new n c a = some (A.encrypt new n p a) := by
  rw [recrypt, h, Option.map_some]

end Recrypt

/-! ## Test vectors -/

structure TestVector where
  key : Bytes
  nonce : Bytes
  plain : Bytes
  data : Bytes
  cipher : Bytes
deriving DecidableEq

abbrev OverBytes : Type := Aead Bytes Bytes Bytes Bytes Bytes

/-- Every ciphertext carries a tag, so that nothing decrypts from no bytes. -/
def Tagged (A : OverBytes) : Prop := ∀ k n a, A.decrypt k n [] a = none

theorem of_find_plain {vs : List TestVector} {v : TestVector} {k n p a : Bytes}
    (hv : vs.find? (fun v =>
      v.key == k && v.nonce == n && v.plain == p && v.data == a) = some v) :
    v ∈ vs ∧ v.key = k ∧ v.nonce = n ∧ v.plain = p ∧ v.data = a := by
  have hvp := List.find?_some hv
  simp only [Bool.and_eq_true, beq_iff_eq] at hvp
  obtain ⟨⟨⟨hk, hn⟩, hp⟩, ha⟩ := hvp
  exact ⟨List.mem_of_find?_eq_some hv, hk, hn, hp, ha⟩

theorem of_find_cipher {vs : List TestVector} {v : TestVector} {k n c : Bytes}
    (hv : vs.find? (fun v =>
      v.key == k && v.nonce == n && v.cipher == c) = some v) :
    v ∈ vs ∧ v.key = k ∧ v.nonce = n ∧ v.cipher = c := by
  have hvp := List.find?_some hv
  simp only [Bool.and_eq_true, beq_iff_eq] at hvp
  obtain ⟨⟨hk, hn⟩, hc⟩ := hvp
  exact ⟨List.mem_of_find?_eq_some hv, hk, hn, hc⟩

/-- The AEAD of a list of vectors. Outside the list a ciphertext is the
plaintext behind a zero byte, with which no listed ciphertext may start. -/
def ofVectors (vs : List TestVector)
    (hzero : ∀ v ∈ vs, v.cipher.head? ≠ some 0)
    (hplain : ∀ v ∈ vs, ∀ w ∈ vs, v.key = w.key → v.nonce = w.nonce →
      v.data = w.data → v.cipher = w.cipher → v.plain = w.plain) :
    OverBytes where
  encrypt k n p a :=
    match vs.find? fun v =>
        v.key == k && v.nonce == n && v.plain == p && v.data == a with
    | some v => v.cipher
    | none => 0 :: p
  decrypt k n c a :=
    match vs.find? fun v =>
        v.key == k && v.nonce == n && v.cipher == c && v.data == a with
    | some v => some v.plain
    | none => if c.head? = some 0 then some c.tail else none
  decrypt_encrypt := by
    intro k n p a
    split
    · rename_i w hw
      have hwm := List.mem_of_find?_eq_some hw
      have hwp := List.find?_some hw
      simp only [Bool.and_eq_true, beq_iff_eq] at hwp
      obtain ⟨⟨⟨hkey, hnonce⟩, hcipher⟩, hdata⟩ := hwp
      split at hcipher
      · rename_i v hv
        obtain ⟨hvm, hk, hn, hp, ha⟩ := of_find_plain hv
        have := hplain w hwm v hvm
          (hkey.trans hk.symm) (hnonce.trans hn.symm) (hdata.trans ha.symm)
          hcipher
        rw [this, hp]
      · exact absurd (by rw [hcipher]; rfl) (hzero w hwm)
    · rename_i hnone
      split
      · rename_i v hv
        obtain ⟨hvm, hk, hn, -, ha⟩ := of_find_plain hv
        rw [hv] at hnone
        -- the vector that encrypted it decrypts it
        have hno := List.find?_eq_none.mp hnone v hvm
        simp [hk, hn, ha] at hno
      · rfl

theorem ofVectors_tagged {vs : List TestVector}
    (hzero : ∀ v ∈ vs, v.cipher.head? ≠ some 0)
    (hplain : ∀ v ∈ vs, ∀ w ∈ vs, v.key = w.key → v.nonce = w.nonce →
      v.data = w.data → v.cipher = w.cipher → v.plain = w.plain)
    (hcipher : ∀ v ∈ vs, v.cipher ≠ []) :
    (ofVectors vs hzero hplain).Tagged := by
  intro k n a
  have hnone : vs.find? (fun v =>
      v.key == k && v.nonce == n && v.cipher == [] && v.data == a) = none := by
    apply List.find?_eq_none.mpr
    intro v hv
    simp [hcipher v hv]
  simp only [ofVectors, hnone]
  rfl

/-! ## Bound associated data -/

/-- A ciphertext opens with the associated data of its encryption only. -/
def Binds (A : OverBytes) : Prop :=
  ∀ k n p a a', a ≠ a' → A.decrypt k n (A.encrypt k n p a) a' = none

/-- Data in front of a text, so that its end can be told. -/
def attach : Bytes → Bytes → Bytes
  | [], p => 0 :: p
  | b :: a, p => 1 :: b :: attach a p

def detach : Bytes → Bytes → Option Bytes
  | [], 0 :: p => some p
  | b :: a, 1 :: c :: rest => if b = c then detach a rest else none
  | _, _ => none

theorem detach_attach (a p : Bytes) : detach a (attach a p) = some p := by
  induction a with
  | nil => rfl
  | cons b a ih => rw [attach, detach, if_pos rfl, ih]

theorem detach_attach_of_ne {a a' : Bytes} (hne : a ≠ a') (p : Bytes) :
    detach a' (attach a p) = none := by
  induction a generalizing a' with
  | nil =>
      cases a' with
      | nil => exact absurd rfl hne
      | cons c a' => rfl
  | cons b a ih =>
      cases a' with
      | nil => rfl
      | cons c a' =>
          rw [attach, detach]
          by_cases hc : c = b
          · subst hc
            rw [if_pos rfl]
            exact ih fun h => hne (by rw [h])
          · rw [if_neg hc]

/-- The AEAD of a list of vectors that binds the associated data. -/
def ofBoundVectors (vs : List TestVector)
    (hzero : ∀ v ∈ vs, v.cipher.head? ≠ some 0)
    (hsame : ∀ v ∈ vs, ∀ w ∈ vs, v.key = w.key → v.nonce = w.nonce →
      v.cipher = w.cipher → v = w) : OverBytes where
  encrypt k n p a :=
    match vs.find? fun v =>
        v.key == k && v.nonce == n && v.plain == p && v.data == a with
    | some v => v.cipher
    | none => 0 :: attach a p
  decrypt k n c a :=
    match vs.find? fun v => v.key == k && v.nonce == n && v.cipher == c with
    | some v => if v.data = a then some v.plain else none
    | none => if c.head? = some 0 then detach a c.tail else none
  decrypt_encrypt := by
    intro k n p a
    split
    · rename_i w hw
      obtain ⟨hwm, hkey, hnonce, hcipher⟩ := of_find_cipher hw
      split at hcipher
      · rename_i v hv
        obtain ⟨hvm, hk, hn, hp, ha⟩ := of_find_plain hv
        have heq := hsame w hwm v hvm
          (hkey.trans hk.symm) (hnonce.trans hn.symm) hcipher
        rw [heq, if_pos ha, hp]
      · exact absurd (by rw [hcipher]; rfl) (hzero w hwm)
    · rename_i hnone
      split
      · rename_i v hv
        obtain ⟨hvm, hk, hn, -, -⟩ := of_find_plain hv
        rw [hv] at hnone
        have hno := List.find?_eq_none.mp hnone v hvm
        simp [hk, hn] at hno
      · exact detach_attach a p

theorem ofBoundVectors_binds {vs : List TestVector}
    (hzero : ∀ v ∈ vs, v.cipher.head? ≠ some 0)
    (hsame : ∀ v ∈ vs, ∀ w ∈ vs, v.key = w.key → v.nonce = w.nonce →
      v.cipher = w.cipher → v = w) :
    (ofBoundVectors vs hzero hsame).Binds := by
  intro k n p a a' hne
  simp only [ofBoundVectors]
  cases hv : vs.find? fun v =>
      v.key == k && v.nonce == n && v.plain == p && v.data == a with
  | none =>
      dsimp only
      split
      · rename_i w hw
        obtain ⟨hwm, -, -, hcipher⟩ := of_find_cipher hw
        exact absurd (by rw [hcipher]; rfl) (hzero w hwm)
      · exact detach_attach_of_ne hne p
  | some v =>
      obtain ⟨hvm, hk, hn, -, ha⟩ := of_find_plain hv
      dsimp only
      split
      · rename_i w hw
        obtain ⟨hwm, hkey, hnonce, hcipher⟩ := of_find_cipher hw
        have heq := hsame w hwm v hvm
          (hkey.trans hk.symm) (hnonce.trans hn.symm) hcipher
        rw [heq, ha, if_neg hne]
      · rw [if_neg (hzero v hvm)]

theorem ofBoundVectors_tagged {vs : List TestVector}
    (hzero : ∀ v ∈ vs, v.cipher.head? ≠ some 0)
    (hsame : ∀ v ∈ vs, ∀ w ∈ vs, v.key = w.key → v.nonce = w.nonce →
      v.cipher = w.cipher → v = w)
    (hcipher : ∀ v ∈ vs, v.cipher ≠ []) :
    (ofBoundVectors vs hzero hsame).Tagged := by
  intro k n a
  have hnone : vs.find? (fun v =>
      v.key == k && v.nonce == n && v.cipher == []) = none := by
    apply List.find?_eq_none.mpr
    intro v hv
    simp [hcipher v hv]
  simp only [ofBoundVectors, hnone]
  rfl

end Aead

end LeakcheckHub.Foundation
