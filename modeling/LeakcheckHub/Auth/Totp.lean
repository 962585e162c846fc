import LeakcheckHub.Auth.Local
import LeakcheckHub.Findings.Retention
import LeakcheckHub.Foundation.Doubles
import Mathlib.Algebra.Order.Group.Abs

/-!
# Time-based codes

`totp_code` and `verify_totp` of `app/auth/local.py` on every instant that a
`datetime` has: `timestamp()` is a double, which may be rounded up into the
next second, and the ends of the skew window may lie past `datetime.max`.
Elsewhere both are what `Auth.Local` has.

§1 instants · §2 codes · §3 periods · §4 six digits · §5 the window.
-/

namespace LeakcheckHub.Auth.Totp

open Foundation Accounts
open Findings (datetimeMin)

/-! ## §1  Instants -/

/-- `datetime.max` in UTC. -/
def datetimeMax : Timestamp := seconds 253402300799 + 999999

inductive TotpError where
  | request (error : RequestError)
  /-- The `OverflowError` of `datetime + timedelta`. -/
  | overflow
deriving DecidableEq, Repr

/-- `int(now.timestamp())`: a quotient in double precision, cut towards
zero. -/
def intTimestamp (now : Timestamp) : ℤ :=
  now.sign * truncQuotient now.natAbs 1000000

/-- `current + timedelta(seconds=…)`. -/
def plusSeconds (current : Timestamp) (n : ℤ) : Except TotpError Timestamp :=
  let moved := current + seconds n
  if datetimeMin ≤ moved ∧ moved ≤ datetimeMax then .ok moved
  else .error .overflow

/-! ## §2  Codes -/

section Codes

variable (hmacSha1 : Bytes → Bytes → Bytes)

/-- `digest[-1] & 0x0F`. -/
def truncationOffset (digest : Bytes) : ℕ := (digest.getLastD 0).toNat % 16

/-- The code of a counter. -/
def codeOf (key : Bytes) (counter : ℕ) : PyStr :=
  let digest := hmacSha1 key (bigEndian 8 counter)
  let offset := truncationOffset digest
  let truncated := ofBigEndian ((digest.drop offset).take 4) % 2 ^ 31
  zeroPadded totpDigits (truncated % 10 ^ totpDigits)

def counterOf (now : Timestamp) : ℤ := intTimestamp now / totpPeriodSeconds

/-- `totp_code`. -/
def totpCode (secret : PyStr) (now : Timestamp) : Except RequestError PyStr :=
  if counterOf now < 0 then .error .localAuthentication
  else do
    let key ← totpKey secret
    .ok (codeOf hmacSha1 key (counterOf now).toNat)

/-- `range(-_TOTP_VALID_WINDOWS, _TOTP_VALID_WINDOWS + 1)`. -/
def validWindows : List ℤ := [-1, 0, 1]

def expectedCodes (secret : PyStr) (current : Timestamp) :
    Except TotpError (List PyStr) :=
  validWindows.mapM fun offset => do
    let moved ← plusSeconds current (offset * totpPeriodSeconds)
    (totpCode hmacSha1 secret moved).mapError .request

/-- The check in front of every comparison. -/
def sixDigits (code : PyStr) : Bool :=
  decide (code.length = totpDigits) && code.isAscii && isDigits code

/-- `verify_totp`. -/
def verifyTotp (secret suppliedCode : PyStr) (now : Timestamp) :
    Except TotpError Bool :=
  if !sixDigits suppliedCode then .ok false
  else match expectedCodes hmacSha1 secret now with
    | .error (.request .localAuthentication) => .ok false
    | .error e => .error e
    | .ok codes => .ok (codes.contains suppliedCode)

end Codes

/-! ## §3  Periods -/

/-- The counter is that of the period of the instant. -/
def KeepsPeriod (t : Timestamp) : Prop := counterOf t = t / seconds 30

instance (t : Timestamp) : Decidable (KeepsPeriod t) :=
  inferInstanceAs (Decidable (_ = _))

variable {t t' now : ℤ}

theorem seconds_thirty : seconds 30 = 30000000 := rfl

theorem seconds_period (offset : ℤ) :
    seconds (offset * totpPeriodSeconds) = offset * 30000000 := by
  unfold seconds totpPeriodSeconds
  omega

theorem datetimeMax_eq : datetimeMax = 253402300799999999 := rfl

theorem mem_validWindows {offset : ℤ} :
    offset ∈ validWindows ↔ offset = -1 ∨ offset = 0 ∨ offset = 1 := by
  simp [validWindows]

theorem moved_nonneg (h : seconds 30 ≤ now) {offset : ℤ}
    (hoffset : offset ∈ validWindows) :
    0 ≤ now + seconds (offset * totpPeriodSeconds) := by
  rw [seconds_thirty] at h
  rw [mem_validWindows] at hoffset
  rw [seconds_period]
  omega

theorem moved_le (hmax : now + seconds 30 ≤ datetimeMax) {offset : ℤ}
    (hoffset : offset ∈ validWindows) :
    now + seconds (offset * totpPeriodSeconds) ≤ datetimeMax := by
  rw [seconds_thirty] at hmax
  rw [mem_validWindows] at hoffset
  rw [seconds_period]
  omega

theorem intTimestamp_of_nonneg (h : 0 ≤ t) :
    intTimestamp t = (truncQuotient t.toNat 1000000 : ℕ) := by
  obtain ⟨n, rfl⟩ := Int.eq_ofNat_of_zero_le h
  unfold intTimestamp
  cases n with
  | zero => rfl
  | succ n =>
      have hsign : Int.sign ((n + 1 : ℕ) : ℤ) = 1 :=
        Int.sign_eq_one_of_pos (by omega)
      rw [hsign, one_mul]
      rfl

theorem keepsPeriod_iff (h : 0 ≤ t) :
    KeepsPeriod t ↔
      truncQuotient t.toNat 1000000 / 30 = t.toNat / 1000000 / 30 := by
  obtain ⟨n, rfl⟩ := Int.eq_ofNat_of_zero_le h
  unfold KeepsPeriod counterOf totpPeriodSeconds
  rw [intTimestamp_of_nonneg h, seconds_thirty]
  simp only [Int.toNat_natCast]
  omega

/-- **Until 2514.** Below `2 ^ 34` seconds a microsecond is more than half a
unit of the double. -/
theorem keepsPeriod_of_lt (h : 0 ≤ t) (hlt : t < seconds (2 ^ 34)) :
    KeepsPeriod t := by
  have hbound : seconds (2 ^ 34) = 17179869184000000 := rfl
  rw [keepsPeriod_iff h]
  rw [hbound] at hlt
  have hquotient : t.toNat / 1000000 < 2 ^ 34 := by omega
  have hgap : 1 ≤ 1000000 * (t.toNat / 1000000 + 1) - t.toNat := by omega
  rw [truncQuotient_eq (k := 34) (by decide) hquotient (by decide)]
  calc 1000000 < 2 ^ (54 - 34) * 1 := by decide
    _ ≤ _ := Nat.mul_le_mul_left _ hgap

/-- **To the last year.** A double reaches into the next period from its last
15 microseconds at most. -/
theorem keepsPeriod_of_gap (h : 0 ≤ t) (hmax : t ≤ datetimeMax)
    (hgap : t % seconds 30 + 15 < seconds 30) : KeepsPeriod t := by
  rw [keepsPeriod_iff h]
  rw [datetimeMax_eq] at hmax
  rw [seconds_thirty] at hgap
  by_cases hnear : 16 ≤ 1000000 * (t.toNat / 1000000 + 1) - t.toNat
  · have hquotient : t.toNat / 1000000 < 2 ^ 38 := by omega
    rw [truncQuotient_eq (k := 38) (by decide) hquotient (by decide)]
    calc 1000000 < 2 ^ (54 - 38) * 16 := by decide
      _ ≤ _ := Nat.mul_le_mul_left _ hnear
  · -- the next second is not the first one of a period
    have hle := le_truncQuotient (n := t.toNat) (d := 1000000) (by decide)
    have hge := truncQuotient_le (n := t.toNat) (d := 1000000) (by decide)
    omega

/-! ## §4  Six digits -/

section

variable {hmacSha1 : Bytes → Bytes → Bytes} {secret code : PyStr} {key : Bytes}

theorem length_zeroPadded (digits n : ℕ) :
    (zeroPadded digits n).length = digits := by
  rw [zeroPadded, List.length_map, List.length_range]

theorem isDigits_zeroPadded (digits n : ℕ) :
    isDigits (zeroPadded digits n) = true := by
  rw [isDigits, List.all_eq_true]
  intro c hc
  obtain ⟨i, -, rfl⟩ := List.mem_map.mp hc
  have hdigit : n / 10 ^ (digits - 1 - i) % 10 < 10 := Nat.mod_lt _ (by decide)
  have hval : (Fin.ofNat 0x110000
      (48 + n / 10 ^ (digits - 1 - i) % 10)).val =
        48 + n / 10 ^ (digits - 1 - i) % 10 := by
    rw [Fin.val_ofNat]
    exact Nat.mod_eq_of_lt (by omega)
  rw [hval]
  simp only [Bool.and_eq_true, decide_eq_true_eq]
  omega

theorem isAscii_of_isDigits (h : isDigits code = true) :
    code.isAscii = true := by
  rw [PyStr.isAscii, List.all_eq_true]
  intro c hc
  have hdigit := List.all_eq_true.mp h c hc
  simp only [Bool.and_eq_true, decide_eq_true_eq] at hdigit
  exact decide_eq_true (by omega)

theorem sixDigits_codeOf (key : Bytes) (counter : ℕ) :
    sixDigits (codeOf hmacSha1 key counter) = true := by
  unfold sixDigits codeOf
  dsimp only
  rw [isAscii_of_isDigits (isDigits_zeroPadded _ _), isDigits_zeroPadded,
    length_zeroPadded]
  rfl

/-- The truncation reads four bytes of the digest. -/
theorem truncationOffset_le {digest : Bytes} (h : digest.length = 20) :
    truncationOffset digest + 4 ≤ digest.length := by
  have hlt : truncationOffset digest < 16 := Nat.mod_lt _ (by decide)
  omega

/-! ## §5  The window -/

theorem counterOf_nonneg (h : 0 ≤ t) : 0 ≤ counterOf t := by
  unfold counterOf
  rw [intTimestamp_of_nonneg h]
  exact Int.ediv_nonneg (Int.natCast_nonneg _) (by decide)

theorem totpCode_of_valid (hkey : totpKey secret = .ok key) (h : 0 ≤ t) :
    totpCode hmacSha1 secret t =
      .ok (codeOf hmacSha1 key (counterOf t).toNat) := by
  unfold totpCode
  rw [if_neg (not_lt.mpr (counterOf_nonneg h)), hkey]
  rfl

/-- The codes that are compared at an instant, in the order of the window. -/
def windowCodes (hmacSha1 : Bytes → Bytes → Bytes) (key : Bytes) (now : ℤ) :
    List PyStr :=
  validWindows.map fun offset => codeOf hmacSha1 key
    (counterOf (now + seconds (offset * totpPeriodSeconds))).toNat

theorem expectedCodes_of_valid (hkey : totpKey secret = .ok key)
    (h : seconds 30 ≤ now) (hmax : now + seconds 30 ≤ datetimeMax) :
    expectedCodes hmacSha1 secret now =
      .ok (windowCodes hmacSha1 key now) := by
  have hmin : datetimeMin ≤ 0 := by decide
  have hone : ∀ offset ∈ validWindows,
      (do
        let moved ← plusSeconds now (offset * totpPeriodSeconds)
        (totpCode hmacSha1 secret moved).mapError TotpError.request) =
      .ok (codeOf hmacSha1 key
        (counterOf (now + seconds (offset * totpPeriodSeconds))).toNat) := by
    intro offset hoffset
    have hnonneg := moved_nonneg h hoffset
    have hmoved : plusSeconds now (offset * totpPeriodSeconds) =
        .ok (now + seconds (offset * totpPeriodSeconds)) := by
      unfold plusSeconds
      exact if_pos ⟨le_trans hmin hnonneg, moved_le hmax hoffset⟩
    rw [hmoved]
    show (totpCode hmacSha1 secret _).mapError _ = _
    rw [totpCode_of_valid hkey hnonneg]
    rfl
  unfold expectedCodes windowCodes
  exact mapM_eq_map hone

/-- For a valid seed the call returns whether the code is one of the window. -/
theorem verifyTotp_of_valid (hkey : totpKey secret = .ok key)
    (h : seconds 30 ≤ now) (hmax : now + seconds 30 ≤ datetimeMax) :
    verifyTotp hmacSha1 secret code now =
      .ok ((windowCodes hmacSha1 key now).contains code) := by
  unfold verifyTotp
  by_cases hsix : sixDigits code = true
  · rw [if_neg (by simp [hsix]), expectedCodes_of_valid hkey h hmax]
  · rw [if_pos (by simp [hsix])]
    have hnot : (windowCodes hmacSha1 key now).contains code = false := by
      rw [List.contains_eq_mem, decide_eq_false_iff_not]
      intro hmem
      obtain ⟨offset, -, rfl⟩ := List.mem_map.mp hmem
      exact hsix (sixDigits_codeOf _ _)
    rw [hnot]

/-- Without an instant that is rounded into the next period, the window is that
of the periods. -/
theorem windowCodes_of_keeps (hkeeps : ∀ offset ∈ validWindows,
      KeepsPeriod (now + seconds (offset * totpPeriodSeconds))) :
    windowCodes hmacSha1 key now = validWindows.map fun offset =>
      codeOf hmacSha1 key (now / seconds 30 + offset).toNat := by
  unfold windowCodes
  refine List.map_congr_left fun offset hoffset => ?_
  have hperiod : counterOf (now + seconds (offset * totpPeriodSeconds)) =
      now / seconds 30 + offset := by
    rw [hkeeps offset hoffset, seconds_period, seconds_thirty]
    omega
  rw [hperiod]

/-- Half a minute away is at most one period away. -/
theorem near_period (h : |t' - t| ≤ seconds 30) :
    ∃ offset ∈ validWindows, t / seconds 30 = t' / seconds 30 + offset := by
  rw [seconds_thirty, abs_le] at h
  obtain ⟨hlow, hhigh⟩ := h
  rw [seconds_thirty]
  have hcases : t / 30000000 = t' / 30000000 + -1 ∨
      t / 30000000 = t' / 30000000 + 0 ∨
      t / 30000000 = t' / 30000000 + 1 := by omega
  rcases hcases with h | h | h
  · exact ⟨-1, by decide, h⟩
  · exact ⟨0, by decide, h⟩
  · exact ⟨1, by decide, h⟩

/-- **The window.** Up to half a minute before the end of `datetime`, a call
never raises, and where no instant of its window is rounded into the next
period it accepts the codes of three periods and no other text. -/
theorem totp_window (hlen : ∀ k m, (hmacSha1 k m).length = 20)
    (hkey : totpKey secret = .ok key) (ht : seconds 30 ≤ t)
    (ht' : seconds 30 ≤ t') (hmax : t' + seconds 30 ≤ datetimeMax) :
    (KeepsPeriod t →
      (∀ offset ∈ validWindows,
        KeepsPeriod (t' + seconds (offset * totpPeriodSeconds))) →
      |t' - t| ≤ seconds 30 →
      ∃ code, totpCode hmacSha1 secret t = .ok code ∧
        verifyTotp hmacSha1 secret code t' = .ok true) ∧
    ((∀ offset ∈ validWindows,
        KeepsPeriod (t' + seconds (offset * totpPeriodSeconds))) →
      ∀ code, verifyTotp hmacSha1 secret code t' = .ok true →
        ∃ offset ∈ validWindows,
          code = codeOf hmacSha1 key (t' / seconds 30 + offset).toNat) ∧
    (∃ code, totpCode hmacSha1 secret t = .ok code ∧ code.length = 6 ∧
      isDigits code = true) ∧
    (∀ message, truncationOffset (hmacSha1 key message) + 4 ≤
      (hmacSha1 key message).length) ∧
    (∀ code, ∃ b, verifyTotp hmacSha1 secret code t' = .ok b) ∧
    ((∀ offset ∈ validWindows,
        KeepsPeriod (t' + seconds (offset * totpPeriodSeconds))) →
      ∀ code, (∀ offset ∈ validWindows,
          code ≠ codeOf hmacSha1 key (t' / seconds 30 + offset).toNat) →
        verifyTotp hmacSha1 secret code t' = .ok false) ∧
    ∀ u, 0 ≤ u → u < seconds (2 ^ 34) ∨
        u ≤ datetimeMax ∧ u % seconds 30 + 15 < seconds 30 →
      KeepsPeriod u := by
  have hnonneg : 0 ≤ t := by
    rw [seconds_thirty] at ht
    omega
  have hcode := @totpCode_of_valid t hmacSha1 secret key hkey hnonneg
  refine ⟨?_, ?_, ?_, ?_, ?_, ?_, ?_⟩
  · intro hkeeps hwindow hnear
    refine ⟨_, hcode, ?_⟩
    obtain ⟨offset, hoffset, hperiod⟩ := near_period hnear
    rw [verifyTotp_of_valid hkey ht' hmax, windowCodes_of_keeps hwindow, hkeeps,
      hperiod, List.contains_eq_mem]
    exact congrArg _ (decide_eq_true (List.mem_map.mpr ⟨offset, hoffset, rfl⟩))
  · intro hwindow code htrue
    rw [verifyTotp_of_valid hkey ht' hmax, windowCodes_of_keeps hwindow,
      Except.ok.injEq, List.contains_eq_mem, decide_eq_true_eq] at htrue
    obtain ⟨offset, hoffset, heq⟩ := List.mem_map.mp htrue
    exact ⟨offset, hoffset, heq.symm⟩
  · refine ⟨_, hcode, length_zeroPadded _ _, isDigits_zeroPadded _ _⟩
  · intro message
    exact truncationOffset_le (hlen key message)
  · intro code
    exact ⟨_, verifyTotp_of_valid hkey ht' hmax⟩
  · intro hwindow code hother
    rw [verifyTotp_of_valid hkey ht' hmax, windowCodes_of_keeps hwindow,
      Except.ok.injEq, List.contains_eq_mem, decide_eq_false_iff_not]
    intro hmem
    obtain ⟨offset, hoffset, heq⟩ := List.mem_map.mp hmem
    exact hother offset hoffset heq.symm
  · rintro u hu (hlt | ⟨hle, hgap⟩)
    · exact keepsPeriod_of_lt hu hlt
    · exact keepsPeriod_of_gap hu hle hgap

/-! ### Exact seconds -/

/-- Where the period is kept, the exact seconds have the same code. -/
theorem totpCode_eq_exact {ops : TextOps} (A : Authenticator ops) (h : 0 ≤ t)
    (hkeeps : KeepsPeriod t) :
    Auth.totpCode A secret t = totpCode A.hmacSha1 secret t := by
  have hcounter : Int.tdiv t 1000000 / totpPeriodSeconds = counterOf t := by
    rw [hkeeps, Int.tdiv_eq_ediv_of_nonneg h, seconds_thirty]
    unfold totpPeriodSeconds
    omega
  unfold totpCode Auth.totpCode
  rw [hcounter]
  rfl

theorem verifyTotp_eq_exact {ops : TextOps} (A : Authenticator ops)
    (hkey : totpKey secret = .ok key) (h : seconds 30 ≤ now)
    (hmax : now + seconds 30 ≤ datetimeMax)
    (hwindow : ∀ offset ∈ validWindows,
      KeepsPeriod (now + seconds (offset * totpPeriodSeconds))) :
    verifyTotp A.hmacSha1 secret code now =
      .ok (Auth.verifyTotp A secret code now) := by
  have hexact : ([-1, 0, 1].mapM fun offset : ℤ =>
      Auth.totpCode A secret (now + seconds (offset * totpPeriodSeconds))) =
        .ok (windowCodes A.hmacSha1 key now) := by
    refine mapM_eq_map fun offset hoffset => ?_
    have hnonneg := moved_nonneg h hoffset
    rw [totpCode_eq_exact A hnonneg (hwindow offset hoffset)]
    exact totpCode_of_valid hkey hnonneg
  have hverify : Auth.verifyTotp A secret code now =
      (sixDigits code && (windowCodes A.hmacSha1 key now).contains code) := by
    unfold Auth.verifyTotp sixDigits
    rw [hexact]
    by_cases hlen : code.length = totpDigits
    · cases code.isAscii <;> cases isDigits code <;> simp [hlen]
    · simp [hlen]
  rw [hverify]
  by_cases hsix : sixDigits code = true
  · rw [verifyTotp_of_valid hkey h hmax, hsix, Bool.true_and]
  · unfold verifyTotp
    rw [if_pos (by simp [hsix]), Bool.eq_false_iff.mpr hsix, Bool.false_and]

end

/-! ### Instants -/

def rfcSeed : PyStr := PyStr.lit "GEZDGNBVGY3TQOJQGEZDGNBVGY3TQOJQ"

def rfcKey : Bytes := PyStr.asciiLit "12345678901234567890"

theorem length_sampleHmac (k m : Bytes) : (sampleHmac k m).length = 20 := by
  unfold sampleHmac
  match ofBigEndian m with
  | 0 => rfl
  | 1 => rfl
  | 2 => rfl
  | _ + 3 => rfl

/-- The code of second 89 at second 59. -/
theorem rfcSeed_window :
    (∃ code, totpCode sampleHmac rfcSeed (seconds 89) = .ok code ∧
      verifyTotp sampleHmac rfcSeed code (seconds 59) = .ok true) ∧
    totpCode sampleHmac rfcSeed (seconds 59) = .ok (PyStr.lit "287082") ∧
    ∃ b, verifyTotp sampleHmac rfcSeed (PyStr.lit "28708 2") (seconds 59) =
      .ok b := by
  have hkey : totpKey rfcSeed = .ok rfcKey := by decide +kernel
  obtain ⟨hnear, -, -, -, htotal, -, hkeeps⟩ := @totp_window (seconds 89)
    (seconds 59) sampleHmac rfcSeed rfcKey length_sampleHmac hkey (by decide)
    (by decide) (by decide)
  have hsmall : ∀ u : ℤ, 0 ≤ u → u < seconds (2 ^ 34) → KeepsPeriod u :=
    fun u hu hlt => hkeeps u hu (.inl hlt)
  have hwindow : ∀ offset ∈ validWindows,
      KeepsPeriod (seconds 59 + seconds (offset * totpPeriodSeconds)) := by
    intro offset hoffset
    rcases mem_validWindows.mp hoffset with rfl | rfl | rfl
    · exact hsmall _ (by decide) (by decide)
    · exact hsmall _ (by decide) (by decide)
    · exact hsmall _ (by decide) (by decide)
  exact ⟨hnear (hsmall _ (by decide) (by decide)) hwindow (by decide),
    by decide +kernel, htotal _⟩

/-- HMAC-SHA1 of late counters under `12345678901234567890`. -/
def lateHmac (_key message : Bytes) : Bytes :=
  (([(572662305, [186, 30, 100, 119, 170, 30, 23, 235, 7, 196, 60, 228, 213,
        155, 91, 50, 6, 132, 8, 13]),
      (572662306, [242, 50, 110, 8, 249, 55, 242, 18, 201, 30, 126, 72, 158,
        252, 92, 2, 87, 166, 237, 95]),
      (572662307, [6, 192, 59, 83, 155, 97, 88, 161, 46, 25, 203, 206, 23, 134,
        248, 162, 85, 211, 255, 152]),
      (572662308, [247, 129, 152, 127, 117, 125, 191, 152, 36, 58, 99, 54, 77,
        44, 80, 176, 214, 185, 58, 246]),
      (8446743359, [203, 238, 222, 221, 240, 141, 158, 246, 76, 130, 8, 118,
        159, 88, 43, 125, 177, 199, 41, 97]),
      (8446743360, [185, 20, 203, 151, 49, 180, 64, 158, 196, 189, 149, 173,
        124, 215, 57, 228, 230, 185, 126, 52])].find? fun x =>
    x.1 == ofBigEndian message).map Prod.snd).getD (List.replicate 20 0)

/-- The last microsecond of a period in the year 2514. -/
def roundedUp : Timestamp := seconds (2 ^ 34 + 26) - 1

/-- There the code of one second before is refused and that of two periods
later is accepted; at the end of `datetime` the window cannot be computed. -/
theorem late_instants :
    (totpCode lateHmac rfcSeed (roundedUp - seconds 1) =
        .ok (PyStr.lit "298797") ∧
      verifyTotp lateHmac rfcSeed (PyStr.lit "298797") roundedUp = .ok false) ∧
    (PyStr.lit "935354" = codeOf lateHmac rfcKey
        (roundedUp / seconds 30 + 2).toNat ∧
      verifyTotp lateHmac rfcSeed (PyStr.lit "935354") roundedUp = .ok true) ∧
    verifyTotp lateHmac rfcSeed (PyStr.lit "000000") datetimeMax =
      .error .overflow := by
  refine ⟨⟨?_, ?_⟩, ⟨?_, ?_⟩, ?_⟩
  · decide +kernel
  · decide +kernel
  · decide +kernel
  · decide +kernel
  · decide +kernel

end LeakcheckHub.Auth.Totp
