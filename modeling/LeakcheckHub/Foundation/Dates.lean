import LeakcheckHub.Foundation.Digests
import Mathlib.Data.Int.Notation
import Mathlib.Data.List.Basic

/-!
# Calendar dates

`datetime.date` with its range as part of the type, `isoformat`, and
`fromisoformat` as the interpreter parses it: over the UTF-8 bytes, calendar
and week dates, each with or without separators. `isoformat` tells all dates
apart and is read back.
-/

namespace LeakcheckHub.Foundation

def isLeap (year : ℕ) : Bool :=
  year % 4 == 0 && (year % 100 != 0 || year % 400 == 0)

def daysInMonth (year month : ℕ) : ℕ :=
  if month = 2 then if isLeap year then 29 else 28
  else if month = 4 ∨ month = 6 ∨ month = 9 ∨ month = 11 then 30
  else 31

def ValidDate (year month day : ℕ) : Prop :=
  1 ≤ year ∧ year ≤ 9999 ∧ 1 ≤ month ∧ month ≤ 12 ∧ 1 ≤ day ∧
    day ≤ daysInMonth year month

instance (year month day : ℕ) : Decidable (ValidDate year month day) :=
  inferInstanceAs (Decidable (_ ∧ _))

structure Date where
  year : ℕ
  month : ℕ
  day : ℕ
  valid : ValidDate year month day
deriving DecidableEq

namespace Date

/-- `date(year, month, day)`; `none` is the `ValueError`. -/
def ofParts (year month day : ℕ) : Option Date :=
  if h : ValidDate year month day then some ⟨year, month, day, h⟩ else none

/-! ## Ordinals -/

def daysBeforeYear (year : ℕ) : ℕ :=
  (year - 1) * 365 + (year - 1) / 4 - (year - 1) / 100 + (year - 1) / 400

def daysBeforeMonth (year month : ℕ) : ℕ :=
  ((List.range (month - 1)).map fun i => daysInMonth year (i + 1)).sum

/-- Monday is 0. -/
def firstWeekday (year : ℕ) : ℕ := (daysBeforeYear year + 7) % 7

/-- The ordinal of the Monday that starts week 1. -/
def isoWeek1Monday (year : ℕ) : ℕ :=
  let monday := daysBeforeYear year + 1 - firstWeekday year
  if 3 < firstWeekday year then monday + 7 else monday

/-- The date of an ordinal in `year` or a year next to it. -/
def ofOrdinal (year n : ℕ) : Option Date :=
  let year :=
    if n ≤ daysBeforeYear year then year - 1
    else if n ≤ daysBeforeYear (year + 1) then year
    else year + 1
  let n := n - daysBeforeYear year
  let month := (List.range 12).countP fun i => daysBeforeMonth year (i + 1) < n
  ofParts year month (n - daysBeforeMonth year month)

def ofIsoWeek (year week day : ℕ) : Option Date :=
  if year < 1 ∨ 9999 < year ∨ day < 1 ∨ 7 < day then none
  else if (1 ≤ week ∧ week ≤ 52) ∨ (week = 53 ∧ (firstWeekday year = 3 ∨
      (firstWeekday year = 2 ∧ isLeap year = true))) then
    ofOrdinal year (isoWeek1Monday year + (week - 1) * 7 + (day - 1))
  else none

/-! ## Text -/

def parseDigits : ℕ → ℕ → Bytes → Option (ℕ × Bytes)
  | 0, acc, p => some (acc, p)
  | _ + 1, _, [] => none
  | n + 1, acc, c :: p =>
      if 48 ≤ c.toNat ∧ c.toNat ≤ 57 then
        parseDigits n (acc * 10 + (c.toNat - 48)) p
      else none

def dash : UInt8 := 45

/-- Skips the separator where the format uses one. -/
def separator (used : Bool) (p : Bytes) : Option Bytes :=
  if used then if p.head? = some dash then some p.tail else none
  else some p

/-- What follows a `W`. Neither here nor below does anything check that the text
ends after the day. -/
def parseWeek (year : ℕ) (used : Bool) (p : Bytes) : Option Date := do
  let (week, p) ← parseDigits 2 0 p
  if p.isEmpty then ofIsoWeek year week 1
  else
    let p ← separator used p
    let (day, _) ← parseDigits 1 0 p
    ofIsoWeek year week day

def parseMonthDay (year : ℕ) (used : Bool) (p : Bytes) : Option Date := do
  let (month, p) ← parseDigits 2 0 p
  let p ← separator used p
  let (day, _) ← parseDigits 2 0 p
  ofParts year month day

/-- `date.fromisoformat`; `none` is the `ValueError`. -/
def fromisoformat (s : PyStr) : Option Date := do
  let text ← s.encode
  if text.length = 7 ∨ text.length = 8 ∨ text.length = 10 then
    let (year, p) ← parseDigits 4 0 text
    let used := p.head? == some dash
    let p := if used then p.tail else p
    if p.head? = some 87 then parseWeek year used p.tail
    else parseMonthDay year used p
  else none

def digits (width n : ℕ) : PyStr :=
  (List.range width).map fun i =>
    Fin.ofNat _ (48 + n / 10 ^ (width - 1 - i) % 10)

/-- `date.isoformat()`. -/
def isoformat (d : Date) : PyStr :=
  digits 4 d.year ++ PyStr.lit "-" ++ digits 2 d.month ++ PyStr.lit "-" ++
    digits 2 d.day

/-- `datetime.isoformat(timespec="seconds")` of a UTC time, in microseconds
since the epoch; `none` lies outside of the calendar. -/
def timestampIsoformat (microseconds : ℤ) : Option PyStr := do
  let seconds := microseconds / 1000000
  let ordinal := (seconds / 86400 + 719163).toNat
  let time := (seconds % 86400).toNat
  let date ← ofOrdinal ((ordinal - 1) * 400 / 146097 + 1) ordinal
  pure (date.isoformat ++ PyStr.lit "T" ++ digits 2 (time / 3600) ++
    PyStr.lit ":" ++ digits 2 (time / 60 % 60) ++ PyStr.lit ":" ++
    digits 2 (time % 60) ++ PyStr.lit "+00:00")

example : timestampIsoformat 1785499323456789 =
    some (PyStr.lit "2026-07-31T12:02:03+00:00") := by decide

example : (fromisoformat (PyStr.lit "20190524xx")).map isoformat =
    some (PyStr.lit "2019-05-24") := by decide

example : (fromisoformat (PyStr.lit "2020-W53-1")).map isoformat =
    some (PyStr.lit "2020-12-28") := by decide

/-! ## Dates told apart -/

theorem digits_isAscii (width n : ℕ) :
    (digits width n).all (fun c => decide (c.val < 128)) = true := by
  refine List.all_eq_true.mpr fun c hc => decide_eq_true ?_
  obtain ⟨i, -, rfl⟩ := List.mem_map.mp hc
  rw [Fin.val_ofNat]
  omega

theorem isoformat_isAscii (day : Date) : day.isoformat.isAscii = true := by
  unfold PyStr.isAscii isoformat
  simp only [List.all_append, digits_isAscii, Bool.true_and, Bool.and_true]
  decide

theorem digits_inj {n x y : ℕ} (hx : x < 10 ^ n) (hy : y < 10 ^ n)
    (h : digits n x = digits n y) : x = y := by
  refine eq_of_digits hx hy fun i hi => ?_
  have hdigit := List.map_inj_left.mp h (n - 1 - i)
    (List.mem_range.mpr (by omega))
  rw [show n - 1 - (n - 1 - i) = i by omega, Fin.ext_iff] at hdigit
  simp only [Fin.val_ofNat] at hdigit
  omega

theorem length_digits (n x : ℕ) : (digits n x).length = n := by
  rw [digits, List.length_map, List.length_range]

theorem day_le (d : Date) : d.day ≤ 31 := by
  refine d.valid.2.2.2.2.2.trans ?_
  unfold daysInMonth
  split
  · split <;> omega
  · split <;> omega

theorem isoformat_inj {d d' : Date} (h : d.isoformat = d'.isoformat) :
    d = d' := by
  obtain ⟨h, hday⟩ := List.append_inj' h
    ((length_digits 2 _).trans (length_digits 2 _).symm)
  obtain ⟨h, -⟩ := List.append_inj' h rfl
  obtain ⟨h, hmonth⟩ := List.append_inj' h
    ((length_digits 2 _).trans (length_digits 2 _).symm)
  obtain ⟨hyear, -⟩ := List.append_inj' h rfl
  obtain ⟨-, hyearLe, -, hmonthLe, -⟩ := d.valid
  obtain ⟨-, hyearLe', -, hmonthLe', -⟩ := d'.valid
  have hdayLe := day_le d
  have hdayLe' := day_le d'
  have hyear : d.year = d'.year := digits_inj (by omega) (by omega) hyear
  have hmonth : d.month = d'.month := digits_inj (by omega) (by omega) hmonth
  have hday : d.day = d'.day := digits_inj (by omega) (by omega) hday
  cases d
  cases d'
  cases hyear
  cases hmonth
  cases hday
  rfl

/-! ## Dates read back -/

/-- The digits as the bytes that they are encoded to. -/
def digitBytes (width n : ℕ) : Bytes :=
  (digits width n).map fun c => UInt8.ofNat c.val

theorem digitBytes_succ (width n : ℕ) : digitBytes (width + 1) n =
    UInt8.ofNat (48 + n / 10 ^ width % 10) :: digitBytes width n := by
  unfold digitBytes digits
  rw [List.range_succ_eq_map, List.map_cons, List.map_cons, List.map_map,
    List.map_map, List.map_map]
  congr 1
  · rw [Fin.val_ofNat, Nat.mod_eq_of_lt (by omega)]
    congr 2
  · refine List.map_congr_left fun i hi => ?_
    simp only [Function.comp_apply]
    rw [show width + 1 - 1 - i.succ = width - 1 - i by omega]

theorem parseDigits_digitBytes (width n acc : ℕ) (rest : Bytes) :
    parseDigits width acc (digitBytes width n ++ rest) =
      some (acc * 10 ^ width + n % 10 ^ width, rest) := by
  induction width generalizing acc with
  | zero => simp [parseDigits, digitBytes, digits, Nat.mod_one]
  | succ width ih =>
      have hbyte : (UInt8.ofNat (48 + n / 10 ^ width % 10)).toNat =
          48 + n / 10 ^ width % 10 := by
        rw [UInt8.toNat_ofNat', Nat.mod_eq_of_lt (by omega)]
      rw [digitBytes_succ, List.cons_append, parseDigits, hbyte,
        if_pos (by omega), ih, Nat.mod_pow_succ, Nat.pow_succ]
      congr 2
      rw [show 48 + n / 10 ^ width % 10 - 48 = n / 10 ^ width % 10 by omega]
      rw [Nat.add_mul, Nat.mul_assoc, Nat.mul_comm 10, Nat.mul_comm (n / _ % 10)]
      omega

theorem encode_isoformat (d : Date) : d.isoformat.encode =
    some (digitBytes 4 d.year ++ dash :: (digitBytes 2 d.month ++
      dash :: digitBytes 2 d.day)) := by
  have hscalar : d.isoformat.any PyStr.isSurrogate = false := by
    rw [List.any_eq_false]
    intro c hc
    have hlt := of_decide_eq_true (List.all_eq_true.mp (isoformat_isAscii d) c hc)
    simp only [PyStr.isSurrogate, Bool.and_eq_true, decide_eq_true_eq, not_and]
    omega
  have hbytes : d.isoformat.flatMap PyStr.utf8Char =
      d.isoformat.map fun c => UInt8.ofNat c.val := by
    rw [List.map_eq_flatMap]
    refine List.flatMap_congr fun c hc => ?_
    have hlt := of_decide_eq_true (List.all_eq_true.mp (isoformat_isAscii d) c hc)
    rw [PyStr.utf8Char, if_pos hlt]
  have hdash : (PyStr.lit "-").map (fun c : CodePoint => UInt8.ofNat c.val) = [dash] := by
    decide
  rw [PyStr.encode, hscalar, if_neg Bool.false_ne_true, hbytes, isoformat]
  simp only [List.map_append, hdash, digitBytes, List.append_assoc,
    List.cons_append, List.nil_append]

/-- `fromisoformat` reads what `isoformat` writes. -/
theorem fromisoformat_isoformat (d : Date) : fromisoformat d.isoformat = some d := by
  obtain ⟨hyear, hyearLe, hmonth, hmonthLe, hday, -⟩ := d.valid
  have hdayLe := day_le d
  have hlength : (digitBytes 4 d.year ++ dash :: (digitBytes 2 d.month ++
      dash :: digitBytes 2 d.day)).length = 10 := by
    simp [digitBytes, length_digits]
  have hend : parseDigits 2 0 (digitBytes 2 d.day) = some (d.day, []) := by
    have hparse := parseDigits_digitBytes 2 d.day 0 []
    rw [List.append_nil] at hparse
    rw [hparse, Nat.mod_eq_of_lt (by omega)]
    simp
  have hmonthDigits : parseDigits 2 0 (digitBytes 2 d.month ++
      dash :: digitBytes 2 d.day) = some (d.month, dash :: digitBytes 2 d.day) := by
    rw [parseDigits_digitBytes, Nat.mod_eq_of_lt (by omega)]
    simp
  have hyearDigits : parseDigits 4 0 (digitBytes 4 d.year ++
      dash :: (digitBytes 2 d.month ++ dash :: digitBytes 2 d.day)) =
        some (d.year, dash :: (digitBytes 2 d.month ++
          dash :: digitBytes 2 d.day)) := by
    rw [parseDigits_digitBytes, Nat.mod_eq_of_lt (by omega)]
    simp
  have hmonthHead : (digitBytes 2 d.month ++ dash :: digitBytes 2 d.day).head? ≠
      some 87 := by
    rw [digitBytes_succ, List.cons_append, List.head?_cons]
    intro heq
    have hval := congrArg UInt8.toNat (Option.some.inj heq)
    rw [UInt8.toNat_ofNat', Nat.mod_eq_of_lt (by omega)] at hval
    have h87 : (87 : UInt8).toNat = 87 := rfl
    omega
  rw [fromisoformat, encode_isoformat]
  simp only [Option.bind_eq_bind, Option.bind_some, hlength, hyearDigits,
    List.head?_cons, List.tail_cons, beq_self_eq_true, if_true, if_neg hmonthHead,
    parseMonthDay, hmonthDigits, separator, hend]
  simp only [or_true, if_true]
  rw [ofParts, dif_pos d.valid]

end Date

end LeakcheckHub.Foundation
