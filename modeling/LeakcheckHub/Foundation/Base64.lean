import LeakcheckHub.Foundation.Secrets

/-!
# Base64, strict and not

`binascii.a2b_base64` in its strict mode, beside the one that passes over what
it does not know, and what text either of them takes for a given number of
bytes. `M` is the number of characters of data, of which the last quantum
lacks one, so that a single `=` completes it.

§1 the strict decoder · §2 one character · §3 what the lenient decoder takes ·
§4 what the strict decoder takes · §5 the encoder · §6 the round trip.
-/

namespace LeakcheckHub.Foundation

/-! ## §1  The strict decoder -/

/-- `binascii.a2b_base64(…, strict_mode=True)`, `place` characters into a
quantum; `started` tells that a `=` was met. -/
def a2bBase64Strict :
    PyStr → (place left pads : ℕ) → (started : Bool) → Option Bytes
  | [], place, _, _, _ => if place = 0 then some [] else none
  | c :: rest, place, left, pads, started =>
      if c.val = 61 then
        if place < 2 then a2bBase64Strict rest place left pads true
        else if 4 ≤ place + (pads + 1) then
          -- excess data after padding
          if rest = [] then some [] else none
        else a2bBase64Strict rest place left (pads + 1) true
      else
        match sextet c, place with
        | none, _ => none
        | some v, place =>
            -- discontinuous padding
            if started then none
            else match place with
            | 0 => a2bBase64Strict rest 1 v 0 false
            | 1 => do
                let tail ← a2bBase64Strict rest 2 (v % 16) 0 false
                pure (UInt8.ofNat (left * 4 + v / 16) :: tail)
            | 2 => do
                let tail ← a2bBase64Strict rest 3 (v % 4) 0 false
                pure (UInt8.ofNat (left * 16 + v / 4) :: tail)
            | _ => do
                let tail ← a2bBase64Strict rest 0 0 0 false
                pure (UInt8.ofNat (left * 64 + v) :: tail)

/-- `base64.b64decode(s.encode("ascii"), altchars=b"-_", validate=True)`;
`none` is a `ValueError`. -/
def b64decodeValidated (s : PyStr) : Option Bytes :=
  if s.isAscii then
    match s with
    | [] => some []
    -- leading padding
    | c :: _ => if c.val = 61 then none else a2bBase64Strict s 0 0 0 false
  else none

/-- A character of the alphabet. -/
def isBase64 (c : CodePoint) : Bool := (sextet c).isSome

/-- `=`. -/
def b64Pad : CodePoint := PyStr.ofChar '='

/-- The bytes that `m` characters complete. -/
def octets (m : ℕ) : ℕ := 3 * (m / 4) + (m % 4 - 1)

theorem isBase64_of_pad {c : CodePoint} (h : c.val = 61) :
    isBase64 c = false := by
  have hnone : sextet c = none := by
    unfold sextet
    rw [h]
    decide
  rw [isBase64, hnone]
  rfl

theorem val_of_eq_pad {c : CodePoint} : c = b64Pad ↔ c.val = 61 :=
  Fin.ext_iff

theorem mod_four (m : ℕ) :
    m % 4 = 0 ∨ m % 4 = 1 ∨ m % 4 = 2 ∨ m % 4 = 3 := by omega

/-- A quantum that lacks one character is told by its bytes. -/
theorem octets_inj {m M : ℕ} (hM : M % 4 = 3) (h : octets m = octets M) :
    m = M := by
  unfold octets at h
  omega

theorem octets_succ {m : ℕ} :
    octets (m + 1) = octets m + if m % 4 = 0 then 0 else 1 := by
  unfold octets
  split <;> omega

/-! ## §2  One character -/

section Characters

variable {c : CodePoint} {rest : PyStr} {place left pads m N : ℕ}
  {started : Bool} {out : Bytes}

theorem a2bBase64_pad (h : c.val = 61) :
    a2bBase64 (c :: rest) place left pads =
      if place < 2 then a2bBase64 rest place left pads
      else if 4 ≤ place + (pads + 1) then some []
      else a2bBase64 rest place left (pads + 1) := by
  simp only [a2bBase64, if_pos h]

theorem a2bBase64_foreign (h : c.val ≠ 61) (hc : sextet c = none) :
    a2bBase64 (c :: rest) place left pads =
      a2bBase64 rest place left pads := by
  simp only [a2bBase64, if_neg h, hc]

/-- The text decodes to the bytes that `N` asks for beyond `m` characters. -/
def Decodes (r : Option Bytes) (m N : ℕ) : Prop :=
  ∃ out, r = some out ∧ out.length + octets m = N

theorem not_decodes_none : ¬ Decodes none m N := by
  rintro ⟨out, h, -⟩
  cases h

theorem decodes_some : Decodes (some out) m N ↔ out.length + octets m = N :=
  ⟨fun ⟨_, h, hN⟩ => Option.some.inj h ▸ hN, fun h => ⟨out, rfl, h⟩⟩

/-- A text that ends at the first of four characters has no remainder of 3. -/
theorem not_decodes_end {M : ℕ} (hM : M % 4 = 3) :
    ¬ Decodes (if m % 4 = 0 then some [] else none) m (octets M) := by
  split
  · rename_i hzero
    rw [decodes_some, List.length_nil, Nat.zero_add]
    intro heq
    have hm := octets_inj hM heq
    omega
  · exact not_decodes_none

/-- One more byte, one more character. -/
theorem decodes_cons {r : Option Bytes} {b : UInt8} (h : m % 4 ≠ 0) :
    Decodes (r.bind fun tail => some (b :: tail)) m N ↔
      Decodes r (m + 1) N := by
  cases r with
  | none => exact iff_of_false not_decodes_none not_decodes_none
  | some tail =>
      rw [Option.bind_some, decodes_some, decodes_some, octets_succ, if_neg h,
        List.length_cons]
      omega

theorem decodes_first {r : Option Bytes} (h : m % 4 = 0) :
    Decodes r m N ↔ Decodes r (m + 1) N := by
  unfold Decodes
  rw [octets_succ, if_pos h, Nat.add_zero]

/-- A character of the alphabet moves the decoder on. -/
theorem a2bBase64_data (rest : PyStr) (left pads m N : ℕ) (h : c.val ≠ 61)
    {v : ℕ} (hc : sextet c = some v) :
    ∃ left', (Decodes (a2bBase64 (c :: rest) (m % 4) left pads) m N ↔
      Decodes (a2bBase64 rest ((m + 1) % 4) left' 0) (m + 1) N) := by
  rcases mod_four m with hm | hm | hm | hm
  · rw [hm, show (m + 1) % 4 = 1 by omega]
    simp only [a2bBase64, if_neg h, hc]
    exact ⟨v, decodes_first hm⟩
  · rw [hm, show (m + 1) % 4 = 2 by omega]
    simp only [a2bBase64, if_neg h, hc]
    exact ⟨v % 16, decodes_cons (by omega)⟩
  · rw [hm, show (m + 1) % 4 = 3 by omega]
    simp only [a2bBase64, if_neg h, hc]
    exact ⟨v % 4, decodes_cons (by omega)⟩
  · rw [hm, show (m + 1) % 4 = 0 by omega]
    simp only [a2bBase64, if_neg h, hc]
    exact ⟨0, decodes_cons (by omega)⟩

theorem a2bBase64Strict_data (rest : PyStr) (left pads m N : ℕ)
    (h : c.val ≠ 61) {v : ℕ} (hc : sextet c = some v) :
    ∃ left', (Decodes (a2bBase64Strict (c :: rest) (m % 4) left pads false)
        m N ↔
      Decodes (a2bBase64Strict rest ((m + 1) % 4) left' 0 false) (m + 1) N) := by
  rcases mod_four m with hm | hm | hm | hm
  · rw [hm, show (m + 1) % 4 = 1 by omega]
    simp only [a2bBase64Strict, if_neg h, hc]
    exact ⟨v, decodes_first hm⟩
  · rw [hm, show (m + 1) % 4 = 2 by omega]
    simp only [a2bBase64Strict, if_neg h, hc]
    exact ⟨v % 16, decodes_cons (by omega)⟩
  · rw [hm, show (m + 1) % 4 = 3 by omega]
    simp only [a2bBase64Strict, if_neg h, hc]
    exact ⟨v % 4, decodes_cons (by omega)⟩
  · rw [hm, show (m + 1) % 4 = 0 by omega]
    simp only [a2bBase64Strict, if_neg h, hc]
    exact ⟨0, decodes_cons (by omega)⟩

end Characters

/-! ## §3  What the lenient decoder takes -/

/-- The `=` that stand behind exactly `n` characters of the alphabet. -/
def padsAt : PyStr → ℕ → ℕ
  | [], _ => 0
  | c :: rest, n =>
      if c.val = 61 then padsAt rest n + if n = 0 then 1 else 0
      else if isBase64 c then
        match n with
        | 0 => 0
        | n + 1 => padsAt rest n
      else padsAt rest n

/-- What is left to read after `m` characters of data, with `k` signs of
padding behind them: no quantum before the last is completed by padding, and
the last one is. -/
structure Fills (M : ℕ) (s : PyStr) (m k : ℕ) : Prop where
  le : m ≤ M
  completes : 1 ≤ padsAt s (M - m)
  three : ∀ d, m + d < M → (m + d) % 4 = 3 → padsAt s d = 0
  two : ∀ d, m + d < M → (m + d) % 4 = 2 →
    padsAt s d + (if d = 0 then k else 0) ≤ 1

section Lenient

variable {M m k : ℕ} {c : CodePoint} {rest : PyStr}

theorem padsAt_pad (rest : PyStr) (h : c.val = 61) (n : ℕ) :
    padsAt (c :: rest) n = padsAt rest n + if n = 0 then 1 else 0 := by
  simp only [padsAt, if_pos h]

theorem padsAt_foreign (rest : PyStr) (h : c.val ≠ 61) (hc : isBase64 c = false) (n : ℕ) :
    padsAt (c :: rest) n = padsAt rest n := by
  simp only [padsAt, if_neg h, hc, Bool.false_eq_true, if_false]

theorem padsAt_data_zero (rest : PyStr) (h : c.val ≠ 61) (hc : isBase64 c = true) :
    padsAt (c :: rest) 0 = 0 := by
  simp only [padsAt, if_neg h, hc, if_true]

theorem padsAt_data_succ (rest : PyStr) (h : c.val ≠ 61) (hc : isBase64 c = true) (n : ℕ) :
    padsAt (c :: rest) (n + 1) = padsAt rest n := by
  simp only [padsAt, if_neg h, hc, if_true]

theorem not_fills_nil : ¬ Fills M [] m k := by
  intro h
  exact Nat.not_succ_le_zero 0 h.completes

theorem fills_foreign (h : c.val ≠ 61) (hc : isBase64 c = false) :
    Fills M (c :: rest) m k ↔ Fills M rest m k := by
  have hpads := padsAt_foreign rest h hc
  constructor
  · intro hf
    refine ⟨hf.le, ?_, ?_, ?_⟩
    · exact hpads _ ▸ hf.completes
    · exact fun d hd h3 => hpads d ▸ hf.three d hd h3
    · exact fun d hd h2 => hpads d ▸ hf.two d hd h2
  · intro hf
    refine ⟨hf.le, ?_, ?_, ?_⟩
    · exact (hpads _).symm ▸ hf.completes
    · exact fun d hd h3 => (hpads d).symm ▸ hf.three d hd h3
    · exact fun d hd h2 => (hpads d).symm ▸ hf.two d hd h2

/-- A character of data ends the run of padding. -/
theorem fills_data (h : c.val ≠ 61) (hc : isBase64 c = true) (hk : k ≤ 1) :
    Fills M (c :: rest) m k ↔ Fills M rest (m + 1) 0 := by
  have hzero := padsAt_data_zero rest h hc
  have hsucc := padsAt_data_succ rest h hc
  constructor
  · intro hf
    have hlt : m < M := by
      by_contra hge
      have hcompletes := hf.completes
      rw [show M - m = 0 by omega, hzero] at hcompletes
      omega
    refine ⟨hlt, ?_, ?_, ?_⟩
    · have hcompletes := hf.completes
      rw [show M - m = (M - (m + 1)) + 1 by omega, hsucc] at hcompletes
      exact hcompletes
    · intro d hd h3
      rw [← hsucc d]
      exact hf.three (d + 1) (by omega) (by omega)
    · intro d hd h2
      have htwo := hf.two (d + 1) (by omega) (by omega)
      rw [hsucc d] at htwo
      split <;> omega
  · intro hf
    have hle := hf.le
    refine ⟨by omega, ?_, ?_, ?_⟩
    · rw [show M - m = (M - (m + 1)) + 1 by omega, hsucc]
      exact hf.completes
    · intro d hd h3
      cases d with
      | zero => exact hzero
      | succ d =>
          rw [hsucc d]
          exact hf.three d (by omega) (by omega)
    · intro d hd h2
      cases d with
      | zero =>
          rw [hzero, if_pos rfl]
          omega
      | succ d =>
          rw [hsucc d, if_neg (Nat.succ_ne_zero d), Nat.add_zero]
          exact Nat.le_trans (Nat.le_add_right _ _) (hf.two d (by omega) (by omega))

/-- An `=` that stands where none is due is passed over. -/
theorem fills_early (hM : M % 4 = 3) (h : c.val = 61) (hm : m % 4 < 2) :
    Fills M (c :: rest) m k ↔ Fills M rest m k := by
  have hpads := padsAt_pad rest h
  have hsame : ∀ d, d ≠ 0 → padsAt (c :: rest) d = padsAt rest d := by
    intro d hd
    rw [hpads, if_neg hd, Nat.add_zero]
  have hfirst : ∀ {d}, 2 ≤ (m + d) % 4 → d ≠ 0 := by
    rintro d hd rfl
    omega
  constructor
  · intro hf
    have hle := hf.le
    refine ⟨hle, ?_, ?_, ?_⟩
    · rw [← hsame (M - m) (by omega)]
      exact hf.completes
    · intro d hd h3
      rw [← hsame d (hfirst (by omega))]
      exact hf.three d hd h3
    · intro d hd h2
      rw [← hsame d (hfirst (by omega))]
      exact hf.two d hd h2
  · intro hf
    have hle := hf.le
    refine ⟨hle, ?_, ?_, ?_⟩
    · rw [hsame (M - m) (by omega)]
      exact hf.completes
    · intro d hd h3
      rw [hsame d (hfirst (by omega))]
      exact hf.three d hd h3
    · intro d hd h2
      rw [hsame d (hfirst (by omega))]
      exact hf.two d hd h2

/-- The first `=` of two that a quantum with two characters waits for. -/
theorem fills_half (hM : M % 4 = 3) (h : c.val = 61) (hm : m % 4 = 2) :
    Fills M (c :: rest) m 0 ↔ Fills M rest m 1 := by
  have hpads := padsAt_pad rest h
  constructor
  · intro hf
    have hle := hf.le
    refine ⟨hle, ?_, ?_, ?_⟩
    · have hcompletes := hf.completes
      rw [hpads, if_neg (by omega)] at hcompletes
      exact hcompletes
    · intro d hd h3
      have hthree := hf.three d hd h3
      rw [hpads, if_neg (by rintro rfl; omega)] at hthree
      exact hthree
    · intro d hd h2
      have htwo := hf.two d hd h2
      rw [hpads] at htwo
      split at htwo <;> simp_all
  · intro hf
    have hle := hf.le
    refine ⟨hle, ?_, ?_, ?_⟩
    · rw [hpads, if_neg (by omega)]
      exact hf.completes
    · intro d hd h3
      rw [hpads, if_neg (by rintro rfl; omega)]
      exact hf.three d hd h3
    · intro d hd h2
      have htwo := hf.two d hd h2
      rw [hpads]
      split at htwo <;> simp_all

/-- A `=` that completes the quantum fills `M` only if the quantum is the
last. -/
theorem fills_done (hM : M % 4 = 3) (h : c.val = 61)
    (hm : m % 4 = 3 ∧ k = 0 ∨ m % 4 = 2 ∧ k = 1) :
    Fills M (c :: rest) m k ↔ m = M := by
  have hpads := padsAt_pad rest h
  constructor
  · intro hf
    have hle := hf.le
    by_contra hne
    rcases hm with ⟨h3, -⟩ | ⟨h2, hk⟩
    · have hthree := hf.three 0 (by omega) (by omega)
      rw [hpads, if_pos rfl] at hthree
      omega
    · have htwo := hf.two 0 (by omega) (by omega)
      rw [hpads, if_pos rfl, if_pos rfl] at htwo
      omega
  · rintro rfl
    refine ⟨Nat.le_refl m, ?_, ?_, ?_⟩
    · rw [hpads, Nat.sub_self, if_pos rfl]
      omega
    · intro d hd
      omega
    · intro d hd
      omega

/-- **The lenient decoder.** -/
theorem decodes_a2bBase64 (hM : M % 4 = 3) {s : PyStr} :
    ∀ {m left k : ℕ}, (k = 0 ∨ k = 1 ∧ m % 4 = 2) →
      (Decodes (a2bBase64 s (m % 4) left k) m (octets M) ↔ Fills M s m k) := by
  induction s with
  | nil =>
      intro m left k _
      refine iff_of_false ?_ not_fills_nil
      rw [a2bBase64]
      exact not_decodes_end hM
  | cons c rest ih =>
      intro m left k hk
      by_cases hc : c.val = 61
      · rw [a2bBase64_pad hc]
        split
        · rename_i hplace
          have hk0 : k = 0 := by omega
          rw [fills_early hM hc hplace]
          exact ih (.inl hk0)
        · rename_i hplace
          have hlt := Nat.mod_lt m (show 0 < 4 by decide)
          split
          · rename_i hdone
            rw [fills_done hM hc (by omega), decodes_some, List.length_nil,
              Nat.zero_add]
            exact ⟨octets_inj hM, fun heq => heq ▸ rfl⟩
          · rename_i hmore
            have hk0 : k = 0 := by omega
            have hm2 : m % 4 = 2 := by omega
            subst hk0
            rw [fills_half hM hc hm2]
            exact ih (.inr ⟨rfl, hm2⟩)
      · cases hv : sextet c with
        | none =>
            have hforeign : isBase64 c = false := by rw [isBase64, hv]; rfl
            rw [a2bBase64_foreign hc hv, fills_foreign hc hforeign]
            exact ih hk
        | some v =>
            have hdata : isBase64 c = true := by rw [isBase64, hv]; rfl
            obtain ⟨left', hstep⟩ := a2bBase64_data rest left k m (octets M) hc hv
            rw [hstep, fills_data hc hdata (by omega)]
            exact ih (.inl rfl)

end Lenient

/-! ## §4  What the strict decoder takes -/

section Strict

variable {M m : ℕ} {c : CodePoint} {s : PyStr} {out : Bytes}

/-- What the strict decoder takes, the lenient one decodes alike. -/
theorem a2bBase64_of_strict {s : PyStr} :
    ∀ {place left pads : ℕ} {started : Bool} {out : Bytes},
      a2bBase64Strict s place left pads started = some out →
        a2bBase64 s place left pads = some out := by
  induction s with
  | nil =>
      intro place left pads started out h
      exact h
  | cons c rest ih =>
      intro place left pads started out h
      by_cases hc : c.val = 61
      · rw [a2bBase64_pad hc]
        simp only [a2bBase64Strict, if_pos hc] at h
        split at h
        · rename_i hplace
          rw [if_pos hplace]
          exact ih h
        · rename_i hplace
          rw [if_neg hplace]
          split at h
          · rename_i hdone
            rw [if_pos hdone]
            split at h
            · exact h
            · cases h
          · rename_i hmore
            rw [if_neg hmore]
            exact ih h
      · cases hv : sextet c with
        | none =>
            simp only [a2bBase64Strict, if_neg hc, hv] at h
            cases h
        | some v =>
            cases started with
            | true =>
                simp only [a2bBase64Strict, if_neg hc, hv, if_true] at h
                cases h
            | false =>
                simp only [a2bBase64Strict, if_neg hc, hv, Bool.false_eq_true,
                  if_false] at h
                simp only [a2bBase64, if_neg hc, hv]
                rcases place with _ | _ | _ | place
                · exact ih h
                all_goals
                  obtain ⟨tail, ht, h⟩ := Option.bind_eq_some_iff.mp h
                  exact Option.bind_eq_some_iff.mpr ⟨tail, ih ht, h⟩

/-- Behind the first `=` there is no more data. -/
theorem strict_started {s : PyStr} :
    ∀ {place left pads : ℕ},
      a2bBase64Strict s place left pads true = some out → out = [] := by
  induction s with
  | nil =>
      intro place left pads h
      rw [a2bBase64Strict] at h
      split at h
      · exact (Option.some.inj h).symm
      · cases h
  | cons c rest ih =>
      intro place left pads h
      by_cases hc : c.val = 61
      · simp only [a2bBase64Strict, if_pos hc] at h
        split at h
        · exact ih h
        · split at h
          · split at h
            · exact (Option.some.inj h).symm
            · cases h
          · exact ih h
      · cases hv : sextet c with
        | none =>
            simp only [a2bBase64Strict, if_neg hc, hv] at h
            cases h
        | some v =>
            simp only [a2bBase64Strict, if_neg hc, hv, if_true] at h
            cases h

theorem not_decodes_started (hM : M % 4 = 3) (hm : m % 4 ≠ 3)
    {place left pads : ℕ} :
    ¬ Decodes (a2bBase64Strict s place left pads true) m (octets M) := by
  rintro ⟨out, hout, hlen⟩
  rw [strict_started hout, List.length_nil, Nat.zero_add] at hlen
  exact hm (octets_inj hM hlen ▸ hM)

/-- Nothing but `n` characters of the alphabet and one `=`. -/
def ExactlyPadded (s : PyStr) (n : ℕ) : Prop :=
  ∃ u : PyStr, s = u ++ [b64Pad] ∧ u.length = n ∧
    ∀ c ∈ u, isBase64 c = true

theorem not_exactlyPadded_nil {n : ℕ} : ¬ ExactlyPadded [] n := by
  rintro ⟨u, hu, -, -⟩
  exact List.append_ne_nil_of_right_ne_nil u (by simp) hu.symm

/-- A text that does not begin with data has none. -/
theorem exactlyPadded_of_not_data {n : ℕ} (hc : isBase64 c = false) :
    ExactlyPadded (c :: s) n ↔ c = b64Pad ∧ s = [] ∧ n = 0 := by
  constructor
  · rintro ⟨u, hu, hlen, hall⟩
    cases u with
    | nil =>
        rw [List.nil_append, List.cons.injEq] at hu
        exact ⟨hu.1, hu.2, hlen.symm⟩
    | cons d u =>
        rw [List.cons_append, List.cons.injEq] at hu
        have hd := hall d List.mem_cons_self
        rw [← hu.1, hc] at hd
        cases hd
  · rintro ⟨rfl, rfl, rfl⟩
    exact ⟨[], rfl, rfl, fun d hd => by cases hd⟩

theorem exactlyPadded_data {n : ℕ} (hc : isBase64 c = true) :
    ExactlyPadded (c :: s) (n + 1) ↔ ExactlyPadded s n := by
  constructor
  · rintro ⟨u, hu, hlen, hall⟩
    cases u with
    | nil => cases hlen
    | cons d u =>
        rw [List.cons_append, List.cons.injEq] at hu
        refine ⟨u, hu.2, Nat.succ.inj hlen, ?_⟩
        exact fun e he => hall e (List.mem_cons_of_mem d he)
  · rintro ⟨u, rfl, hlen, hall⟩
    refine ⟨c :: u, rfl, congrArg Nat.succ hlen, ?_⟩
    intro e he
    rcases List.mem_cons.mp he with rfl | he
    · exact hc
    · exact hall e he

theorem not_exactlyPadded_data (hc : isBase64 c = true) :
    ¬ ExactlyPadded (c :: s) 0 := by
  rintro ⟨u, hu, hlen, -⟩
  rw [List.length_eq_zero_iff.mp hlen, List.nil_append, List.cons.injEq] at hu
  rw [hu.1] at hc
  exact absurd hc (by decide)

/-- **The strict decoder.** -/
theorem decodes_strict (hM : M % 4 = 3) {s : PyStr} :
    ∀ {m left : ℕ},
      (Decodes (a2bBase64Strict s (m % 4) left 0 false) m (octets M) ↔
        m ≤ M ∧ ExactlyPadded s (M - m)) := by
  induction s with
  | nil =>
      intro m left
      refine iff_of_false ?_ fun h => not_exactlyPadded_nil h.2
      rw [a2bBase64Strict]
      exact not_decodes_end hM
  | cons c rest ih =>
      intro m left
      by_cases hc : c.val = 61
      · rw [exactlyPadded_of_not_data (isBase64_of_pad hc), val_of_eq_pad,
          and_iff_right hc]
        simp only [a2bBase64Strict, if_pos hc]
        have hlt := Nat.mod_lt m (show 0 < 4 by decide)
        split
        · rename_i hplace
          refine iff_of_false (not_decodes_started hM (by omega)) ?_
          omega
        · rename_i hplace
          split
          · rename_i hdone
            split
            · rename_i hrest
              rw [decodes_some, List.length_nil, Nat.zero_add]
              constructor
              · intro heq
                have hm := octets_inj hM heq
                exact ⟨by omega, hrest, by omega⟩
              · rintro ⟨hle, -, hzero⟩
                rw [show m = M by omega]
            · rename_i hrest
              exact iff_of_false not_decodes_none fun h => hrest h.2.1
          · rename_i hmore
            refine iff_of_false (not_decodes_started hM (by omega)) ?_
            omega
      · cases hv : sextet c with
        | none =>
            have hforeign : isBase64 c = false := by rw [isBase64, hv]; rfl
            rw [exactlyPadded_of_not_data hforeign, val_of_eq_pad]
            simp only [a2bBase64Strict, if_neg hc, hv]
            exact iff_of_false not_decodes_none fun h => hc h.2.1
        | some v =>
            have hdata : isBase64 c = true := by rw [isBase64, hv]; rfl
            obtain ⟨left', hstep⟩ := a2bBase64Strict_data rest left 0 m (octets M) hc hv
            rw [hstep, ih]
            by_cases hlt : m < M
            · rw [show M - m = (M - (m + 1)) + 1 by omega,
                exactlyPadded_data hdata]
              exact and_congr_left fun _ => by omega
            · refine iff_of_false (by omega) ?_
              rintro ⟨hle, hpad⟩
              rw [show M - m = 0 by omega] at hpad
              exact not_exactlyPadded_data hdata hpad

end Strict

/-! ## §5  The encoder -/

/-- The character of a sextet in `base64.urlsafe_b64encode`. -/
def base64Char (v : ℕ) : CodePoint :=
  if v < 26 then Fin.ofNat _ (65 + v)
  else if v < 52 then Fin.ofNat _ (71 + v)
  else if v < 62 then Fin.ofNat _ (v - 4)
  else if v = 62 then Fin.ofNat _ 45
  else Fin.ofNat _ 95

/-- `base64.urlsafe_b64encode(s).decode("ascii")`. -/
def urlsafeB64encode : Bytes → PyStr
  | [] => []
  | [a] =>
      [base64Char (a.toNat / 4), base64Char (a.toNat % 4 * 16), b64Pad, b64Pad]
  | [a, b] =>
      [base64Char (a.toNat / 4),
        base64Char (a.toNat % 4 * 16 + b.toNat / 16),
        base64Char (b.toNat % 16 * 4), b64Pad]
  | a :: b :: c :: rest =>
      base64Char (a.toNat / 4) ::
        base64Char (a.toNat % 4 * 16 + b.toNat / 16) ::
          base64Char (b.toNat % 16 * 4 + c.toNat / 64) ::
            base64Char (c.toNat % 64) :: urlsafeB64encode rest

/-- `str.rstrip("=")`. -/
def stripPads (s : PyStr) : PyStr :=
  (s.reverse.dropWhile fun c => c == b64Pad).reverse

theorem isBase64_base64Char (v : ℕ) : isBase64 (base64Char v) = true := by
  unfold base64Char
  split
  · rename_i h
    have hval : (Fin.ofNat 0x110000 (65 + v)).val = 65 + v :=
      Nat.mod_eq_of_lt (by omega)
    unfold isBase64 sextet
    rw [hval, if_pos (by omega)]
    rfl
  · split
    · rename_i h₁ h₂
      have hval : (Fin.ofNat 0x110000 (71 + v)).val = 71 + v :=
        Nat.mod_eq_of_lt (by omega)
      unfold isBase64 sextet
      rw [hval, if_neg (by omega), if_pos (by omega)]
      rfl
    · split
      · rename_i h₁ h₂ h₃
        have hval : (Fin.ofNat 0x110000 (v - 4)).val = v - 4 :=
          Nat.mod_eq_of_lt (by omega)
        unfold isBase64 sextet
        rw [hval, if_neg (by omega), if_neg (by omega), if_pos (by omega)]
        rfl
      · split <;> decide

/-- The encoding is data with padding behind it. -/
theorem urlsafeB64encode_spec (s : Bytes) :
    ∃ u k, urlsafeB64encode s = u ++ List.replicate k b64Pad ∧
      (∀ c ∈ u, isBase64 c = true) ∧ u.length = (4 * s.length + 2) / 3 := by
  fun_induction urlsafeB64encode s with
  | case1 => exact ⟨[], 0, rfl, fun c hc => (List.not_mem_nil hc).elim, rfl⟩
  | case2 a =>
      refine ⟨[base64Char (a.toNat / 4), base64Char (a.toNat % 4 * 16)], 2,
        rfl, ?_, by simp⟩
      simp [isBase64_base64Char]
  | case3 a b =>
      refine ⟨[base64Char (a.toNat / 4),
        base64Char (a.toNat % 4 * 16 + b.toNat / 16),
        base64Char (b.toNat % 16 * 4)], 1, rfl, ?_, by simp⟩
      simp [isBase64_base64Char]
  | case4 a b c rest ih =>
      obtain ⟨u, k, hu, hall, hlen⟩ := ih
      refine ⟨base64Char (a.toNat / 4) ::
        base64Char (a.toNat % 4 * 16 + b.toNat / 16) ::
          base64Char (b.toNat % 16 * 4 + c.toNat / 64) ::
            base64Char (c.toNat % 64) :: u, k, ?_, ?_, ?_⟩
      · rw [hu]
        rfl
      · simpa [isBase64_base64Char] using hall
      · simp only [List.length_cons, hlen]
        omega

theorem stripPads_append {u : PyStr} (h : ∀ c ∈ u, isBase64 c = true)
    (k : ℕ) : stripPads (u ++ List.replicate k b64Pad) = u := by
  have hpads : ∀ c ∈ List.replicate k b64Pad, (c == b64Pad) = true := by
    intro c hc
    rw [List.eq_of_mem_replicate hc]
    rfl
  unfold stripPads
  rw [List.reverse_append, List.reverse_replicate,
    List.dropWhile_append_of_pos hpads]
  cases hr : u.reverse with
  | nil =>
      rw [List.reverse_eq_nil_iff] at hr
      rw [hr]
      rfl
  | cons c rest =>
      have hc := h c (List.mem_reverse.mp (hr ▸ List.mem_cons_self))
      have hne : (c == b64Pad) = false := by
        rw [beq_eq_false_iff_ne]
        rintro rfl
        exact absurd hc (by decide)
      rw [List.dropWhile_cons, hne, if_neg Bool.false_ne_true, ← hr,
        List.reverse_reverse]

/-! ## §6  The round trip -/

/-- `[A-Za-z0-9_-]`. -/
def isUrlSafe (c : CodePoint) : Bool :=
  (48 ≤ c.val && c.val ≤ 57) || (65 ≤ c.val && c.val ≤ 90) ||
    (97 ≤ c.val && c.val ≤ 122) || c.val == 45 || c.val == 95

/-- `base64.urlsafe_b64encode(s).rstrip(b"=").decode("ascii")`. -/
def base64url (s : Bytes) : PyStr := stripPads (urlsafeB64encode s)

/-- A sextet is read back, and its character is one of URLs. -/
theorem sextet_base64Char {v : ℕ} (h : v < 64) :
    sextet (base64Char v) = some v ∧ isUrlSafe (base64Char v) = true := by
  have hall : ∀ v : Fin 64, sextet (base64Char v.val) = some v.val ∧
      isUrlSafe (base64Char v.val) = true := by
    decide +kernel
  exact hall ⟨v, h⟩

theorem base64Char_ne_pad (v : ℕ) : (base64Char v).val ≠ 61 := by
  intro hpad
  have hdata := isBase64_base64Char v
  rw [isBase64_of_pad hpad] at hdata
  cases hdata

/-- One quantum of the decoder on three bytes. -/
theorem a2bBase64_quantum {v₀ v₁ v₂ v₃ : ℕ} (h₀ : v₀ < 64) (h₁ : v₁ < 64)
    (h₂ : v₂ < 64) (h₃ : v₃ < 64) (rest : PyStr) :
    a2bBase64 (base64Char v₀ :: base64Char v₁ :: base64Char v₂ ::
        base64Char v₃ :: rest) 0 0 0 =
      (a2bBase64 rest 0 0 0).map fun tail =>
        UInt8.ofNat (v₀ * 4 + v₁ / 16) ::
          UInt8.ofNat (v₁ % 16 * 16 + v₂ / 4) ::
            UInt8.ofNat (v₂ % 4 * 64 + v₃) :: tail := by
  simp only [a2bBase64, if_neg (base64Char_ne_pad _),
    (sextet_base64Char h₀).1, (sextet_base64Char h₁).1,
    (sextet_base64Char h₂).1, (sextet_base64Char h₃).1]
  cases a2bBase64 rest 0 0 0 <;> rfl

theorem ofNat_eq (b : UInt8) (n : ℕ) (h : n = b.toNat) :
    UInt8.ofNat n = b := by
  rw [h, UInt8.ofNat_toNat]

/-- Decoding takes back the encoding. -/
theorem a2bBase64_urlsafeB64encode (s : Bytes) :
    a2bBase64 (urlsafeB64encode s) 0 0 0 = some s := by
  fun_induction urlsafeB64encode s with
  | case1 => rfl
  | case2 a =>
      have ha := a.toNat_lt
      have h₀ : a.toNat / 4 < 64 := by omega
      have h₁ : a.toNat % 4 * 16 < 64 := by omega
      simp only [a2bBase64, if_neg (base64Char_ne_pad _),
        (sextet_base64Char h₀).1, (sextet_base64Char h₁).1]
      have hbyte := ofNat_eq a
        (a.toNat / 4 * 4 + a.toNat % 4 * 16 / 16) (by omega)
      rw [hbyte]
      rfl
  | case3 a b =>
      have ha := a.toNat_lt
      have hb := b.toNat_lt
      have h₀ : a.toNat / 4 < 64 := by omega
      have h₁ : a.toNat % 4 * 16 + b.toNat / 16 < 64 := by omega
      have h₂ : b.toNat % 16 * 4 < 64 := by omega
      simp only [a2bBase64, if_neg (base64Char_ne_pad _),
        (sextet_base64Char h₀).1, (sextet_base64Char h₁).1,
        (sextet_base64Char h₂).1]
      have hfirst := ofNat_eq a
        (a.toNat / 4 * 4 + (a.toNat % 4 * 16 + b.toNat / 16) / 16)
        (by omega)
      have hsecond := ofNat_eq b
        ((a.toNat % 4 * 16 + b.toNat / 16) % 16 * 16 +
          b.toNat % 16 * 4 / 4) (by omega)
      rw [hfirst, hsecond]
      rfl
  | case4 a b c rest ih =>
      have ha := a.toNat_lt
      have hb := b.toNat_lt
      have hc := c.toNat_lt
      have hfirst := ofNat_eq a
        (a.toNat / 4 * 4 + (a.toNat % 4 * 16 + b.toNat / 16) / 16)
        (by omega)
      have hsecond := ofNat_eq b
        ((a.toNat % 4 * 16 + b.toNat / 16) % 16 * 16 +
          (b.toNat % 16 * 4 + c.toNat / 64) / 4) (by omega)
      have hthird := ofNat_eq c
        ((b.toNat % 16 * 4 + c.toNat / 64) % 4 * 64 + c.toNat % 64)
        (by omega)
      rw [a2bBase64_quantum (by omega) (by omega) (by omega) (by omega), ih,
        Option.map_some, hfirst, hsecond, hthird]

theorem length_urlsafeB64encode (s : Bytes) :
    (urlsafeB64encode s).length = 4 * ((s.length + 2) / 3) := by
  fun_induction urlsafeB64encode s with
  | case1 => rfl
  | case2 a => simp
  | case3 a b => simp
  | case4 a b c rest ih =>
      simp only [List.length_cons, ih]
      omega

theorem isUrlSafe_base64Char {v : ℕ} (h : v < 64) :
    isUrlSafe (base64Char v) = true := (sextet_base64Char h).2

theorem isUrlSafe_or_pad {s : Bytes} {c : CodePoint}
    (h : c ∈ urlsafeB64encode s) : isUrlSafe c = true ∨ c = b64Pad := by
  fun_induction urlsafeB64encode s with
  | case1 => cases h
  | case2 a =>
      have ha := a.toNat_lt
      simp only [List.mem_cons, List.not_mem_nil, or_false] at h
      rcases h with rfl | rfl | rfl | rfl
      · exact .inl (isUrlSafe_base64Char (by omega))
      · exact .inl (isUrlSafe_base64Char (by omega))
      · exact .inr rfl
      · exact .inr rfl
  | case3 a b =>
      have ha := a.toNat_lt
      have hb := b.toNat_lt
      simp only [List.mem_cons, List.not_mem_nil, or_false] at h
      rcases h with rfl | rfl | rfl | rfl
      · exact .inl (isUrlSafe_base64Char (by omega))
      · exact .inl (isUrlSafe_base64Char (by omega))
      · exact .inl (isUrlSafe_base64Char (by omega))
      · exact .inr rfl
  | case4 a b c' rest ih =>
      have ha := a.toNat_lt
      have hb := b.toNat_lt
      have hc := c'.toNat_lt
      simp only [List.mem_cons] at h
      rcases h with rfl | rfl | rfl | rfl | h
      · exact .inl (isUrlSafe_base64Char (by omega))
      · exact .inl (isUrlSafe_base64Char (by omega))
      · exact .inl (isUrlSafe_base64Char (by omega))
      · exact .inl (isUrlSafe_base64Char (by omega))
      · exact ih h

/-- The encoding without its padding. -/
theorem base64url_spec (s : Bytes) :
    (base64url s).length = (4 * s.length + 2) / 3 ∧
      (base64url s).all isUrlSafe = true ∧
      urlsafeB64encode s = base64url s ++
        List.replicate ((4 - (base64url s).length % 4) % 4) b64Pad := by
  obtain ⟨u, k, hu, hall, hlen⟩ := urlsafeB64encode_spec s
  have hurl : base64url s = u := by
    rw [base64url, hu, stripPads_append hall]
  have hlength := length_urlsafeB64encode s
  rw [hu, List.length_append, List.length_replicate, hlen] at hlength
  have hk : k = (4 - u.length % 4) % 4 := by
    rw [hlen]
    omega
  rw [hurl, hu, hk]
  refine ⟨hlen, ?_, rfl⟩
  rw [List.all_eq_true]
  intro c hc
  have hmem : c ∈ urlsafeB64encode s := by
    rw [hu]
    exact List.mem_append_left _ hc
  rcases isUrlSafe_or_pad hmem with hsafe | rfl
  · exact hsafe
  · exact absurd (hall _ hc) (by decide)

theorem val_lt_of_isUrlSafe {c : CodePoint} (h : isUrlSafe c = true) :
    c.val < 128 := by
  simp only [isUrlSafe, Bool.or_eq_true, Bool.and_eq_true, decide_eq_true_eq,
    beq_iff_eq] at h
  omega

/-- Such text is taken apart at the dot that follows it. -/
theorem split_dot {s : PyStr} (h : s.all isUrlSafe = true) (rest : PyStr) :
    ((s ++ 46 :: rest).takeWhile fun c => c != 46) = s ∧
      ((s ++ 46 :: rest).dropWhile fun c => c != 46).drop 1 = rest := by
  have hundotted : ∀ c ∈ s, (c != 46) = true := by
    intro c hc
    rw [bne_iff_ne]
    rintro rfl
    exact absurd (List.all_eq_true.mp h _ hc) (by decide)
  constructor
  · rw [List.takeWhile_append_of_pos hundotted]
    simp
  · rw [List.dropWhile_append_of_pos hundotted]
    simp

theorem isAscii_of_urlSafe {s : PyStr} (h : s.all isUrlSafe = true) :
    s.isAscii = true := by
  rw [PyStr.isAscii, List.all_eq_true]
  intro c hc
  exact decide_eq_true (val_lt_of_isUrlSafe (List.all_eq_true.mp h c hc))

/-- `s.encode("ascii")`, of ASCII text. -/
def toAscii (s : PyStr) : Bytes := s.map fun c => UInt8.ofNat c.val

theorem toAscii_inj {s t : PyStr} (hs : s.isAscii = true)
    (ht : t.isAscii = true) (h : toAscii s = toAscii t) : s = t := by
  have hback : ∀ u : PyStr, u.isAscii = true →
      (toAscii u).map (fun b => (Fin.ofNat 0x110000 b.toNat : CodePoint)) = u := by
    intro u hu
    unfold toAscii
    rw [List.map_map]
    conv_rhs => rw [← List.map_id u]
    apply List.map_congr_left
    intro c hc
    have hlt : c.val < 128 := of_decide_eq_true (List.all_eq_true.mp hu c hc)
    apply Fin.ext
    show (UInt8.ofNat c.val).toNat % 0x110000 = c.val
    rw [UInt8.toNat_ofNat', Nat.mod_eq_of_lt (show c.val < 2 ^ 8 by omega)]
    exact Nat.mod_eq_of_lt c.isLt
  rw [← hback s hs, ← hback t ht, h]

theorem isAscii_urlsafeB64encode (s : Bytes) :
    (urlsafeB64encode s).isAscii = true := by
  rw [PyStr.isAscii, List.all_eq_true]
  intro c hc
  rcases isUrlSafe_or_pad hc with hsafe | rfl
  · exact decide_eq_true (val_lt_of_isUrlSafe hsafe)
  · rfl

/-- Padded again, it is decoded to what was encoded. -/
theorem urlsafeB64decode_base64url (s : Bytes) :
    urlsafeB64decode (base64url s ++
      List.replicate ((4 - (base64url s).length % 4) % 4) b64Pad) = some s := by
  rw [← (base64url_spec s).2.2, urlsafeB64decode,
    if_pos (isAscii_urlsafeB64encode s)]
  exact a2bBase64_urlsafeB64encode s

theorem base64url_injective : Function.Injective base64url := by
  intro s t h
  have hs := urlsafeB64decode_base64url s
  rw [h, urlsafeB64decode_base64url t, Option.some.injEq] at hs
  exact hs.symm

end LeakcheckHub.Foundation
