import LeakcheckHub.Foundation.JsonText
import LeakcheckHub.Foundation.Utf8

/-!
# Segments of a URL path

`urllib.parse.quote(text, safe="")` and percent-decoding, the round trip, and
paths whose segments are percent-encoded: what a segment is read as, and which
segments are dot segments.

§1 percent-encoding · §2 the round trip · §3 paths · §4 dot segments.
-/

namespace LeakcheckHub.Foundation

open JsonText

/-! ## §1  Percent-encoding -/

/-- Letters, digits, `-`, `.`, `_` and `~`. -/
def isUnreserved (n : ℕ) : Bool :=
  (65 ≤ n && n ≤ 90) || (97 ≤ n && n ≤ 122) || (48 ≤ n && n ≤ 57) ||
    n == 45 || n == 46 || n == 95 || n == 126

def upperHexDigit (n : ℕ) : CodePoint :=
  Fin.ofNat _ (if n < 10 then 48 + n else 55 + n)

def percentByte (b : UInt8) : PyStr :=
  if isUnreserved b.toNat then [Fin.ofNat _ b.toNat]
  else [37, upperHexDigit (b.toNat / 16), upperHexDigit (b.toNat % 16)]

def percentEncode (b : Bytes) : PyStr := b.flatMap percentByte

/-- `none` where a `%` is not followed by two hexadecimal digits, or the text
is not ASCII. -/
def percentDecode : PyStr → Option Bytes
  | [] => some []
  | c :: rest =>
      if c = 37 then
        match rest with
        | x :: y :: rest => do
            let x ← hexValue x
            let y ← hexValue y
            (percentDecode rest).map (UInt8.ofNat (x * 16 + y) :: ·)
        | _ => none
      else if c.val < 128 then
        (percentDecode rest).map (UInt8.ofNat c.val :: ·)
      else none

/-- `quote(text, safe="")`; `none` is the `UnicodeEncodeError`. -/
def quote (text : PyStr) : Option PyStr := text.encode.map percentEncode

/-- The text that a percent-encoded segment stands for. -/
def unquote (segment : PyStr) : Option PyStr :=
  (percentDecode segment).bind PyStr.decode

/-! ## §2  The round trip -/

theorem hexValue_upperHexDigit {n : ℕ} (h : n < 16) :
    hexValue (upperHexDigit n) = some n := by
  have hall : ∀ m : Fin 16, hexValue (upperHexDigit m.val) = some m.val := by
    decide
  exact hall ⟨n, h⟩

theorem isUnreserved_bounds {n : ℕ} (h : isUnreserved n = true) :
    n < 128 ∧ n ≠ 37 ∧ n ≠ 47 := by
  simp only [isUnreserved, Bool.or_eq_true, Bool.and_eq_true, decide_eq_true_eq,
    beq_iff_eq] at h
  omega

theorem val_ofNat_of_lt {n : ℕ} (h : n < 128) :
    (Fin.ofNat 0x110000 n).val = n := by
  rw [Fin.val_ofNat, Nat.mod_eq_of_lt (by omega)]

/-! One-step reductions of `percentDecode`. -/

theorem percentDecode_plain {c : CodePoint} (hne : c ≠ 37) (hlt : c.val < 128)
    (rest : PyStr) : percentDecode (c :: rest) =
      (percentDecode rest).map (UInt8.ofNat c.val :: ·) := by
  rw [percentDecode.eq_def]
  dsimp only
  rw [if_neg hne, if_pos hlt]

theorem percentDecode_escape {x y : CodePoint} {m n : ℕ} (hx : hexValue x = some m)
    (hy : hexValue y = some n) (rest : PyStr) :
    percentDecode (37 :: x :: y :: rest) =
      (percentDecode rest).map (UInt8.ofNat (m * 16 + n) :: ·) := by
  rw [percentDecode.eq_def]
  simp [hx, hy]

/-- An encoded byte in front of the rest. -/
theorem percentDecode_byte (b : UInt8) (rest : PyStr) :
    percentDecode (percentByte b ++ rest) = (percentDecode rest).map (b :: ·) := by
  unfold percentByte
  split
  · rename_i hunreserved
    obtain ⟨hlt, hpercent, -⟩ := isUnreserved_bounds hunreserved
    have hval := val_ofNat_of_lt hlt
    have hne : Fin.ofNat 0x110000 b.toNat ≠ 37 := by
      intro heq
      rw [heq] at hval
      exact hpercent hval.symm
    rw [List.singleton_append, percentDecode_plain hne (by omega), hval,
      UInt8.ofNat_toNat]
  · have hb := b.toNat_lt
    have hx := hexValue_upperHexDigit (show b.toNat / 16 < 16 by omega)
    have hy := hexValue_upperHexDigit (show b.toNat % 16 < 16 by omega)
    have hsum : b.toNat / 16 * 16 + b.toNat % 16 = b.toNat := by omega
    have hescape := percentDecode_escape hx hy rest
    rw [hsum, UInt8.ofNat_toNat] at hescape
    exact hescape

theorem percentDecode_encode (b : Bytes) :
    percentDecode (percentEncode b) = some b := by
  induction b with
  | nil => rfl
  | cons b rest ih =>
      unfold percentEncode at ih ⊢
      rw [List.flatMap_cons, percentDecode_byte, ih]
      rfl

theorem percentEncode_injective : Function.Injective percentEncode := by
  intro b b' h
  have hdecode := congrArg percentDecode h
  rw [percentDecode_encode, percentDecode_encode, Option.some.injEq] at hdecode
  exact hdecode

theorem unquote_quote {text segment : PyStr} (h : quote text = some segment) :
    unquote segment = some text := by
  obtain ⟨b, hb, rfl⟩ := Option.map_eq_some_iff.mp h
  unfold unquote
  rw [percentDecode_encode]
  exact PyStr.decode_encode hb

theorem mem_percentByte {b : UInt8} {c : CodePoint} (h : c ∈ percentByte b) :
    c.val < 128 ∧ c.val ≠ 47 := by
  unfold percentByte at h
  split at h
  · rename_i hunreserved
    obtain ⟨hlt, -, hslash⟩ := isUnreserved_bounds hunreserved
    rw [List.mem_singleton.mp h, val_ofNat_of_lt hlt]
    exact ⟨hlt, hslash⟩
  · have hall : ∀ m : Fin 16, (upperHexDigit m.val).val < 128 ∧
        (upperHexDigit m.val).val ≠ 47 := by decide
    have hb := b.toNat_lt
    simp only [List.mem_cons, List.not_mem_nil, or_false] at h
    rcases h with rfl | rfl | rfl
    · decide
    · exact hall ⟨b.toNat / 16, by omega⟩
    · exact hall ⟨b.toNat % 16, by omega⟩

/-- An encoded segment has no slash in it. -/
theorem slash_not_mem_percentEncode (b : Bytes) :
    (47 : CodePoint) ∉ percentEncode b := by
  intro h
  obtain ⟨x, -, hx⟩ := List.mem_flatMap.mp h
  exact (mem_percentByte hx).2 rfl

/-! ## §3  Paths -/

/-- The path of the segments, each behind a slash. -/
def pathFrom (segments : List Bytes) : PyStr :=
  segments.flatMap fun b => 47 :: percentEncode b

theorem pathFrom_append (segments more : List Bytes) :
    pathFrom (segments ++ more) = pathFrom segments ++ pathFrom more :=
  List.flatMap_append

theorem pathFrom_eq_intercalate (segments : List Bytes) :
    pathFrom segments =
      [47].intercalate ([] :: segments.map percentEncode) := by
  induction segments with
  | nil => rfl
  | cons b rest ih =>
      rw [List.map_cons, List.intercalate_cons_cons, List.nil_append]
      show 47 :: percentEncode b ++ pathFrom rest = _
      rw [ih]
      cases rest with
      | nil => simp [List.intercalate]
      | cons b' rest => simp [List.intercalate_cons_cons]

/-- The segments are read back between the slashes. -/
theorem splitOn_pathFrom (segments : List Bytes) :
    (pathFrom segments).splitOn 47 = [] :: segments.map percentEncode := by
  rw [pathFrom_eq_intercalate]
  refine List.splitOn_intercalate 47 ?_ (List.cons_ne_nil _ _)
  intro segment hsegment
  rcases List.mem_cons.mp hsegment with rfl | hsegment
  · exact List.not_mem_nil
  · obtain ⟨b, -, rfl⟩ := List.mem_map.mp hsegment
    exact slash_not_mem_percentEncode b

theorem pathFrom_injective : Function.Injective pathFrom := by
  intro segments segments' h
  have hsplit := congrArg (List.splitOn (47 : CodePoint)) h
  rw [splitOn_pathFrom, splitOn_pathFrom, List.cons.injEq] at hsplit
  exact List.map_injective_iff.mpr percentEncode_injective hsplit.2

/-- One more segment is what comes behind the last slash. -/
theorem splitOn_pathFrom_segment (segments : List Bytes) {segment : PyStr}
    (h : 47 ∉ segment) :
    (pathFrom segments ++ 47 :: segment).splitOn 47 =
      [] :: (segments.map percentEncode ++ [segment]) := by
  rw [List.splitOn_append_cons_self, splitOn_pathFrom,
    List.splitOn_eq_singleton h]
  rfl

/-! ## §4  Dot segments -/

/-- `.` and `..`, which are no names. -/
def IsDotSegment (segment : PyStr) : Prop :=
  segment = PyStr.lit "." ∨ segment = PyStr.lit ".."

instance (segment : PyStr) : Decidable (IsDotSegment segment) :=
  inferInstanceAs (Decidable (_ ∨ _))

/-- `path` is that of the segments without some of them, the dot segments
among these; a slash may be left at the end. -/
def DotsRemoved (segments : List Bytes) (path : PyStr) : Prop :=
  ∃ kept : List Bytes, kept.Sublist segments ∧
    (∀ b ∈ kept, ¬ IsDotSegment (percentEncode b)) ∧
    (path = pathFrom kept ∨ path = pathFrom (kept ++ [[]]))

theorem quote_dot_iff {text segment : PyStr} (h : quote text = some segment) :
    IsDotSegment segment ↔ IsDotSegment text := by
  constructor
  · intro hdot
    have htext := unquote_quote h
    rcases hdot with rfl | rfl
    · have hone : unquote (PyStr.lit ".") = some (PyStr.lit ".") := by decide
      rw [hone, Option.some.injEq] at htext
      exact .inl htext.symm
    · have htwo : unquote (PyStr.lit "..") = some (PyStr.lit "..") := by decide
      rw [htwo, Option.some.injEq] at htext
      exact .inr htext.symm
  · intro hdot
    rcases hdot with rfl | rfl
    · have hone : quote (PyStr.lit ".") = some (PyStr.lit ".") := by decide
      rw [hone, Option.some.injEq] at h
      exact .inl h.symm
    · have htwo : quote (PyStr.lit "..") = some (PyStr.lit "..") := by decide
      rw [htwo, Option.some.injEq] at h
      exact .inr h.symm

/-- Where the last segment is a dot segment, no path without dot segments has
as many segments, but for an empty one at the end. -/
theorem DotsRemoved.last {segments : List Bytes} {last : Bytes} {path : PyStr}
    {others : List PyStr} {segment : PyStr}
    (h : DotsRemoved (segments ++ [last]) path)
    (hlast : IsDotSegment (percentEncode last))
    (hpath : path.splitOn 47 = [] :: (others ++ [segment]))
    (hlength : segments.length ≤ others.length) : segment = [] := by
  obtain ⟨kept, hsublist, hkept, hshape⟩ := h
  have hfew : kept.length ≤ segments.length := by
    have hsubset : ∀ b ∈ kept, b ≠ last := by
      rintro b hb rfl
      exact hkept b hb hlast
    obtain ⟨front, back, rfl, hfront, hback⟩ := List.sublist_append_iff.mp hsublist
    rcases List.sublist_singleton.mp hback with rfl | rfl
    · rw [List.append_nil]
      exact hfront.length_le
    · exact absurd rfl (hsubset last
        (List.mem_append_right _ List.mem_cons_self))
  rcases hshape with rfl | rfl
  · rw [splitOn_pathFrom, List.cons.injEq] at hpath
    have hcount := congrArg List.length hpath.2
    rw [List.length_map, List.length_append, List.length_singleton] at hcount
    omega
  · rw [splitOn_pathFrom, List.cons.injEq, List.map_append] at hpath
    have hend := List.append_inj_right' hpath.2 rfl
    exact (List.cons.inj hend).1.symm

end LeakcheckHub.Foundation
