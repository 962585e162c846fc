import LeakcheckHub.Foundation.PyText

/-!
# UTF-8

`bytes.decode()`, strict as the encoder is, and the round trip: what
`str.encode()` gives is decoded to the text it came from.

§1 encodable text · §2 decoding · §3 the round trip.
-/

namespace LeakcheckHub.Foundation

namespace PyStr

variable {s t : PyStr} {c : CodePoint} {b : Bytes}

/-! ## §1  Encodable text -/

/-- Text without lone surrogates. -/
def Scalar (s : PyStr) : Prop := ∀ c ∈ s, isSurrogate c = false

theorem Scalar.append (hs : Scalar s) (ht : Scalar t) : Scalar (s ++ t) := by
  intro c hc
  rcases List.mem_append.mp hc with hc | hc
  · exact hs c hc
  · exact ht c hc

theorem scalar_of_ascii (h : ∀ c ∈ s, c.val < 128) : Scalar s := by
  intro c hc
  have hlt := h c hc
  rw [isSurrogate, Bool.and_eq_false_iff, decide_eq_false_iff_not]
  left
  omega

theorem scalar_of_isAscii (h : s.isAscii = true) : Scalar s :=
  scalar_of_ascii fun c hc => of_decide_eq_true (List.all_eq_true.mp h c hc)

theorem encode_eq_some :
    encode s = some b ↔ Scalar s ∧ b = s.flatMap utf8Char := by
  have hscalar : s.any isSurrogate = false ↔ Scalar s := by
    rw [List.any_eq_false]
    exact forall₂_congr fun c _ => Bool.eq_false_iff.symm
  unfold encode
  split
  · rename_i hany
    constructor
    · intro h
      cases h
    · rintro ⟨hs, -⟩
      rw [hscalar.mpr hs] at hany
      cases hany
  · rename_i hany
    rw [Option.some.injEq]
    constructor
    · intro h
      exact ⟨hscalar.mp (Bool.eq_false_iff.mpr hany), h.symm⟩
    · rintro ⟨-, h⟩
      exact h.symm

theorem length_utf8Char (c : CodePoint) : (utf8Char c).length ≤ 4 := by
  unfold utf8Char
  split
  · simp
  · split
    · simp
    · split <;> simp

theorem length_encode (h : encode s = some b) : b.length ≤ 4 * s.length := by
  obtain ⟨-, rfl⟩ := encode_eq_some.mp h
  clear h
  induction s with
  | nil => simp
  | cons c s ih =>
      rw [List.flatMap_cons, List.length_append, List.length_cons]
      have hc := length_utf8Char c
      omega

/-! ## §2  Decoding -/

/-- A decoded character before the rest. -/
def prepend (n : ℕ) (s : Option PyStr) : Option PyStr :=
  if h : n < 0x110000 then s.map fun s => ⟨n, h⟩ :: s else none

def isTail (b : UInt8) : Bool := 0x80 ≤ b.toNat && b.toNat < 0xC0

/-- `bytes.decode()`; `none` is the `UnicodeDecodeError`. -/
def decode : Bytes → Option PyStr
  | [] => some []
  | a :: bs =>
      if a.toNat < 0x80 then prepend a.toNat (decode bs)
      else match bs with
        | [] => none
        | b :: bs =>
            if !isTail b then none
            else if a.toNat < 0xC2 then none
            else if a.toNat < 0xE0 then
              prepend ((a.toNat - 0xC0) * 0x40 + (b.toNat - 0x80)) (decode bs)
            else match bs with
              | [] => none
              | c :: bs =>
                  let n := (a.toNat - 0xE0) * 0x1000 +
                    (b.toNat - 0x80) * 0x40 + (c.toNat - 0x80)
                  if !isTail c then none
                  else if a.toNat < 0xF0 then
                    if n < 0x800 ∨ (0xD800 ≤ n ∧ n ≤ 0xDFFF) then none
                    else prepend n (decode bs)
                  else match bs with
                    | [] => none
                    | d :: bs =>
                        let n := (a.toNat - 0xF0) * 0x40000 +
                          (b.toNat - 0x80) * 0x1000 +
                          (c.toNat - 0x80) * 0x40 + (d.toNat - 0x80)
                        if !isTail d then none
                        else if n < 0x10000 then none
                        else prepend n (decode bs)

/-! ## §3  The round trip -/

theorem prepend_val (c : CodePoint) (s : Option PyStr) :
    prepend c.val s = s.map (c :: ·) := by
  rw [prepend, dif_pos c.isLt]

theorem toNat_ofNat {n : ℕ} (h : n < 256) : (UInt8.ofNat n).toNat = n := by
  rw [UInt8.toNat_ofNat', Nat.mod_eq_of_lt h]

theorem isTail_ofNat {n : ℕ} (hn : n < 0x40) :
    isTail (UInt8.ofNat (0x80 + n)) = true := by
  rw [isTail, toNat_ofNat (by omega), Bool.and_eq_true, decide_eq_true_eq,
    decide_eq_true_eq]
  omega

theorem decode_one {a : UInt8} (h : a.toNat < 0x80) (rest : Bytes) :
    decode (a :: rest) = prepend a.toNat (decode rest) := by
  rw [decode.eq_def]
  exact if_pos h

theorem decode_two {x y : ℕ} (hx : 2 ≤ x) (hx' : x < 0x20) (hy : y < 0x40)
    (rest : Bytes) :
    decode (UInt8.ofNat (0xC0 + x) :: UInt8.ofNat (0x80 + y) :: rest) =
      prepend (x * 0x40 + y) (decode rest) := by
  have ha := toNat_ofNat (show 0xC0 + x < 256 by omega)
  have hb := toNat_ofNat (show 0x80 + y < 256 by omega)
  have htail := isTail_ofNat hy
  rw [decode.eq_def]
  dsimp only
  rw [ha, hb, htail, if_neg (by omega), if_neg (by decide),
    if_neg (by omega), if_pos (by omega), Nat.add_sub_cancel_left,
    Nat.add_sub_cancel_left]

theorem decode_three {x y z : ℕ} (hx : x < 0x10) (hy : y < 0x40)
    (hz : z < 0x40) (hn : 0x800 ≤ x * 0x1000 + y * 0x40 + z)
    (hs : ¬ (0xD800 ≤ x * 0x1000 + y * 0x40 + z ∧
      x * 0x1000 + y * 0x40 + z ≤ 0xDFFF)) (rest : Bytes) :
    decode (UInt8.ofNat (0xE0 + x) :: UInt8.ofNat (0x80 + y) ::
        UInt8.ofNat (0x80 + z) :: rest) =
      prepend (x * 0x1000 + y * 0x40 + z) (decode rest) := by
  have ha := toNat_ofNat (show 0xE0 + x < 256 by omega)
  have hb := toNat_ofNat (show 0x80 + y < 256 by omega)
  have hc := toNat_ofNat (show 0x80 + z < 256 by omega)
  have htail := isTail_ofNat hy
  have htail' := isTail_ofNat hz
  rw [decode.eq_def]
  dsimp only
  rw [ha, hb, hc, htail, htail', if_neg (by omega), if_neg (by decide),
    if_neg (by omega), if_neg (by omega), if_neg (by decide),
    if_pos (by omega)]
  simp only [Nat.add_sub_cancel_left]
  rw [if_neg (by omega)]

theorem decode_four {x y z w : ℕ} (hx : x < 0x8) (hy : y < 0x40)
    (hz : z < 0x40) (hw : w < 0x40)
    (hn : 0x10000 ≤ x * 0x40000 + y * 0x1000 + z * 0x40 + w) (rest : Bytes) :
    decode (UInt8.ofNat (0xF0 + x) :: UInt8.ofNat (0x80 + y) ::
        UInt8.ofNat (0x80 + z) :: UInt8.ofNat (0x80 + w) :: rest) =
      prepend (x * 0x40000 + y * 0x1000 + z * 0x40 + w) (decode rest) := by
  have ha := toNat_ofNat (show 0xF0 + x < 256 by omega)
  have hb := toNat_ofNat (show 0x80 + y < 256 by omega)
  have hc := toNat_ofNat (show 0x80 + z < 256 by omega)
  have hd := toNat_ofNat (show 0x80 + w < 256 by omega)
  have htail := isTail_ofNat hy
  have htail' := isTail_ofNat hz
  have htail'' := isTail_ofNat hw
  rw [decode.eq_def]
  dsimp only
  rw [ha, hb, hc, hd, htail, htail', htail'', if_neg (by omega),
    if_neg (by decide), if_neg (by omega), if_neg (by omega),
    if_neg (by decide), if_neg (by omega), if_neg (by decide)]
  simp only [Nat.add_sub_cancel_left]
  rw [if_neg (by omega)]

/-- One encoded character in front of any bytes. -/
theorem decode_utf8Char (h : isSurrogate c = false) (rest : Bytes) :
    decode (utf8Char c ++ rest) = (decode rest).map (c :: ·) := by
  have hlt := c.isLt
  rw [← prepend_val]
  unfold utf8Char
  split
  · rename_i h₁
    have ha := toNat_ofNat (show c.val < 256 by omega)
    rw [List.singleton_append, decode_one (by omega), ha]
  · split
    · refine (decode_two (by omega) (by omega) (by omega) rest).trans ?_
      congr 1
      omega
    · split
      · have hscalar : ¬ (0xD800 ≤ c.val ∧ c.val ≤ 0xDFFF) := by
          simpa [isSurrogate] using h
        refine (decode_three (by omega) (by omega) (by omega) (by omega)
          (by omega) rest).trans ?_
        congr 1
        omega
      · refine (decode_four (by omega) (by omega) (by omega) (by omega)
          (by omega) rest).trans ?_
        congr 1
        omega

theorem decode_encode (h : encode s = some b) : decode b = some s := by
  obtain ⟨hs, rfl⟩ := encode_eq_some.mp h
  clear h
  induction s with
  | nil => rfl
  | cons c s ih =>
      rw [List.flatMap_cons, decode_utf8Char (hs c List.mem_cons_self),
        ih fun d hd => hs d (List.mem_cons_of_mem c hd), Option.map_some]

theorem encode_inj (hs : encode s = some b) (ht : encode t = some b) :
    s = t := by
  have hdecode := decode_encode hs
  rw [decode_encode ht] at hdecode
  exact (Option.some.inj hdecode).symm

end PyStr

end LeakcheckHub.Foundation
