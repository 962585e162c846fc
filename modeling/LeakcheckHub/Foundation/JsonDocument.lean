import LeakcheckHub.Foundation.Base64
import LeakcheckHub.Foundation.Decimal
import LeakcheckHub.Foundation.Json
import LeakcheckHub.Foundation.JsonText
import LeakcheckHub.Foundation.Utf8

/-!
# JSON documents

`json.loads` of bytes: the encoding is detected and decoded with
`surrogatepass`, and the text is read by recursive descent. A float is what
`floatOf` makes of its text. Fuel bounds the descent; a text never needs more
than twice its length.

§1 encodings · §2 scalars · §3 values · §4 fuel · §5 the round trip.
-/

namespace LeakcheckHub.Foundation

namespace JsonDocument

open JsonText

/-! ## §1  Encodings -/

def tailBits (b : Option UInt8) : Option ℕ :=
  b.bind fun b => if PyStr.isTail b then some (b.toNat - 0x80) else none

/-- The UTF-8 sequence that starts with `a`, a surrogate's too: its value, and
how many bytes of it follow. -/
def sequenceAt (a : UInt8) (bs : Bytes) : Option (ℕ × ℕ) :=
  if a.toNat < 0x80 then some (a.toNat, 0)
  else if a.toNat < 0xC2 then none
  else if a.toNat < 0xE0 then do
    let b ← tailBits bs[0]?
    some ((a.toNat - 0xC0) * 0x40 + b, 1)
  else if a.toNat < 0xF0 then do
    let b ← tailBits bs[0]?
    let c ← tailBits bs[1]?
    let n := (a.toNat - 0xE0) * 0x1000 + b * 0x40 + c
    if n < 0x800 then none else some (n, 2)
  else do
    let b ← tailBits bs[0]?
    let c ← tailBits bs[1]?
    let d ← tailBits bs[2]?
    let n := (a.toNat - 0xF0) * 0x40000 + b * 0x1000 + c * 0x40 + d
    if n < 0x10000 then none else some (n, 3)

/-- UTF-8, where `skip` bytes belong to a sequence before them. -/
def decodeUtf8 : ℕ → Bytes → Option PyStr
  | _, [] => some []
  | skip + 1, _ :: bs => decodeUtf8 skip bs
  | 0, a :: bs =>
      match sequenceAt a bs with
      | none => none
      | some (n, skip) => PyStr.prepend n (decodeUtf8 skip bs)

def units16 (big : Bool) : Bytes → Option (List ℕ)
  | [] => some []
  | [_] => none
  | a :: b :: bs =>
      let n := if big then a.toNat * 0x100 + b.toNat
        else b.toNat * 0x100 + a.toNat
      (units16 big bs).map (n :: ·)

/-- UTF-16; a surrogate without its other half is a character. -/
def decodeUtf16 (big : Bool) (bs : Bytes) : Option PyStr :=
  (units16 big bs).map fun units =>
    joinSurrogates (units.map fun n => (Fin.ofNat _ n, true))

def decodeUtf32 (big : Bool) : Bytes → Option PyStr
  | [] => some []
  | a :: b :: c :: d :: bs =>
      let n := if big then
          ((a.toNat * 0x100 + b.toNat) * 0x100 + c.toNat) * 0x100 + d.toNat
        else ((d.toNat * 0x100 + c.toNat) * 0x100 + b.toNat) * 0x100 + a.toNat
      PyStr.prepend n (decodeUtf32 big bs)
  | _ => none

/-- Without a byte order mark, the encoding shows in the zeros. -/
def decodeUnmarked (s : Bytes) : Option PyStr :=
  match s with
  | a :: b :: c :: d :: _ =>
      if a = 0 then if b = 0 then decodeUtf32 true s else decodeUtf16 true s
      else if b = 0 then
        if c = 0 ∧ d = 0 then decodeUtf32 false s else decodeUtf16 false s
      else decodeUtf8 0 s
  | [a, b] =>
      if a = 0 then decodeUtf16 true s
      else if b = 0 then decodeUtf16 false s
      else decodeUtf8 0 s
  | _ => decodeUtf8 0 s

/-- `s.decode(detect_encoding(s), "surrogatepass")`; `none` is the
`UnicodeDecodeError`. -/
def decode (s : Bytes) : Option PyStr :=
  if s.take 4 = [0, 0, 0xFE, 0xFF] then decodeUtf32 true (s.drop 4)
  else if s.take 4 = [0xFF, 0xFE, 0, 0] then decodeUtf32 false (s.drop 4)
  else if s.take 2 = [0xFE, 0xFF] then decodeUtf16 true (s.drop 2)
  else if s.take 2 = [0xFF, 0xFE] then decodeUtf16 false (s.drop 2)
  else if s.take 3 = [0xEF, 0xBB, 0xBF] then decodeUtf8 0 (s.drop 3)
  else decodeUnmarked s

/-! ## §2  Scalars -/

/-- A string, behind its opening quote. -/
def loadString (text : PyStr) : Option (PyStr × PyStr) :=
  (scan 0 text).map fun x => (joinSurrogates x.1, x.2)

def digitsOf (text : PyStr) : PyStr := text.takeWhile PyStr.isAsciiDigit

/-- A point, if there are digits behind it. -/
def fractionOf (text : PyStr) : PyStr :=
  if text.head? = some 46 ∧ digitsOf text.tail ≠ [] then
    46 :: digitsOf text.tail
  else []

/-- An `e` and a sign, if there are digits behind them. -/
def exponentOf (text : PyStr) : PyStr :=
  if text.head? = some 101 ∨ text.head? = some 69 then
    let rest := text.tail
    let sign := if rest.head? = some 43 ∨ rest.head? = some 45 then 1 else 0
    let digits := digitsOf (rest.drop sign)
    if digits = [] then [] else text.take (1 + sign) ++ digits
  else []

/-- The digits of an integer, which start with no zero. -/
def wholeOf (text : PyStr) : PyStr :=
  if text.head? = some 48 then [48] else digitsOf text

variable (floatOf : PyStr → BitVec 64)

/-- A number; one of more digits than `int` takes is a `ValueError`. -/
def loadNumber (text : PyStr) : Option (Json × PyStr) :=
  let sign := if text.head? = some 45 then 1 else 0
  let body := text.drop sign
  let whole := wholeOf body
  let fraction := fractionOf (body.drop whole.length)
  let exponent := exponentOf (body.drop (whole ++ fraction).length)
  let rest := body.drop (whole ++ fraction ++ exponent).length
  if whole = [] then none
  else if fraction = [] ∧ exponent = [] then
    (PyStr.decimalValue whole).map fun n =>
      (.int (if sign = 1 then -(n : ℤ) else n), rest)
  else
    some (.float (floatOf (text.take sign ++ whole ++ fraction ++ exponent)),
      rest)

/-- The words, with the constants that the standard has not. -/
def words : List (PyStr × Json) :=
  [(PyStr.lit "null", .null), (PyStr.lit "true", .bool true),
    (PyStr.lit "false", .bool false)] ++
  ["NaN", "Infinity", "-Infinity"].map fun word =>
    (PyStr.lit word, .float (floatOf (PyStr.lit word)))

def loadWord (text : PyStr) : Option (Json × PyStr) :=
  ((words floatOf).find? fun word => word.1.isPrefixOf text).map fun word =>
    (word.2, text.drop word.1.length)

/-! ## §3  Values -/

/-- The text behind a character. -/
def expect (c : CodePoint) (text : PyStr) : Option PyStr :=
  if text.head? = some c then some text.tail else none

/-- `dict[key] = value`. -/
def setItem (key : PyStr) (value : Json) :
    List (PyStr × Json) → List (PyStr × Json)
  | [] => [(key, value)]
  | entry :: rest =>
      if entry.1 = key then (key, value) :: rest
      else entry :: setItem key value rest

mutual

/-- `scan_once`: the value that a text starts with, and the text behind it. -/
def scanOnce : ℕ → PyStr → Option (Json × PyStr)
  | 0, _ => none
  | fuel + 1, text =>
      if text.head? = some 34 then
        (loadString text.tail).map fun x => (.str x.1, x.2)
      else if text.head? = some 123 then
        let rest := skipSpace text.tail
        if rest.head? = some 125 then some (.obj [], rest.tail)
        else (loadMembers fuel [] rest).map fun x => (.obj x.1, x.2)
      else if text.head? = some 91 then
        let rest := skipSpace text.tail
        if rest.head? = some 93 then some (.arr [], rest.tail)
        else (loadElements fuel rest).map fun x => (.arr x.1, x.2)
      else (loadWord floatOf text).or (loadNumber floatOf text)

/-- The members of an object from a key on. -/
def loadMembers :
    ℕ → List (PyStr × Json) → PyStr → Option (List (PyStr × Json) × PyStr)
  | 0, _, _ => none
  | fuel + 1, dict, text => do
      let text ← expect 34 text
      let (key, text) ← loadString text
      let text ← expect 58 (skipSpace text)
      let (value, text) ← scanOnce fuel (skipSpace text)
      let dict := setItem key value dict
      let text := skipSpace text
      if text.head? = some 125 then some (dict, text.tail)
      else do
        let text ← expect 44 text
        loadMembers fuel dict (skipSpace text)

/-- The elements of an array from an element on. -/
def loadElements : ℕ → PyStr → Option (List Json × PyStr)
  | 0, _ => none
  | fuel + 1, text => do
      let (value, text) ← scanOnce fuel text
      let text := skipSpace text
      if text.head? = some 93 then some ([value], text.tail)
      else do
        let text ← expect 44 text
        let (values, text) ← loadElements fuel (skipSpace text)
        some (value :: values, text)

end

/-- `JSONDecoder.decode`; `none` is a `ValueError`. -/
def loadsText (text : PyStr) : Option Json := do
  let (value, rest) ← scanOnce floatOf (2 * text.length + 1) (skipSpace text)
  if (skipSpace rest).isEmpty then some value else none

/-- `json.loads` of bytes; `none` is a `ValueError`. -/
def loads (s : Bytes) : Option Json := (decode s).bind (loadsText floatOf)

/-! ## §4  Fuel -/

variable {floatOf : PyStr → BitVec 64} {text rest : PyStr} {value : Json}
  {fuel : ℕ}

theorem length_skipSpace_le (text : PyStr) :
    (skipSpace text).length ≤ text.length :=
  (List.dropWhile_suffix _).length_le

theorem expect_eq_some {c : CodePoint} :
    expect c text = some rest ↔ text = c :: rest := by
  unfold expect
  cases text with
  | nil => simp
  | cons d text => simp

theorem scan_shorter (skip : ℕ) (text : PyStr) :
    ∀ x, scan skip text = some x → x.2.length < text.length := by
  fun_induction scan skip text with
  | case1 => intro x h; cases h
  | case2 skip c text ih =>
      intro x h
      exact Nat.lt_succ_of_lt (ih x h)
  | case3 text =>
      intro x h
      cases h
      exact Nat.lt_succ_self _
  | case4 => intro x h; cases h
  | case5 text n escaped skip hescape hquote ih =>
      intro x h
      obtain ⟨y, hy, rfl⟩ := Option.map_eq_some_iff.mp h
      exact Nat.lt_succ_of_lt (ih y hy)
  | case6 => intro x h; cases h
  | case7 c text hquote hback hprint ih =>
      intro x h
      obtain ⟨y, hy, rfl⟩ := Option.map_eq_some_iff.mp h
      exact Nat.lt_succ_of_lt (ih y hy)

theorem loadString_shorter {s : PyStr} (h : loadString text = some (s, rest)) :
    rest.length < text.length := by
  obtain ⟨x, hx, heq⟩ := Option.map_eq_some_iff.mp h
  cases heq
  exact scan_shorter 0 text x hx

/-- No word starts as an integer does. -/
theorem words_start : ∀ word ∈ words floatOf, ∃ a b tail,
    word.1 = a :: b :: tail ∧ PyStr.isAsciiDigit a = false ∧
      (a = 45 → PyStr.isAsciiDigit b = false) := by
  intro word hword
  simp only [words, List.map_cons, List.map_nil, List.cons_append,
    List.nil_append, List.mem_cons, List.not_mem_nil, or_false] at hword
  rcases hword with rfl | rfl | rfl | rfl | rfl | rfl <;>
    exact ⟨_, _, _, rfl, by decide, by decide⟩

theorem loadWord_shorter (h : loadWord floatOf text = some (value, rest)) :
    rest.length < text.length := by
  obtain ⟨word, hword, heq⟩ := Option.map_eq_some_iff.mp h
  cases heq
  have hfound := List.find?_some hword
  have hle := (List.isPrefixOf_iff_prefix.mp hfound).length_le
  obtain ⟨a, b, tail, hstart, -, -⟩ :=
    words_start word (List.mem_of_find?_eq_some hword)
  rw [hstart, List.length_cons] at hle ⊢
  rw [List.length_drop]
  omega

theorem wholeOf_nil : wholeOf [] = [] := rfl

theorem loadNumber_shorter (h : loadNumber floatOf text = some (value, rest)) :
    rest.length < text.length := by
  -- at least one digit is read
  have hdrop : ∀ (body more : PyStr), wholeOf body ≠ [] →
      (body.drop (wholeOf body ++ more).length).length < body.length := by
    intro body more hne
    have hpos := List.length_pos_iff.mpr hne
    have hbody : 0 < body.length := by
      refine List.length_pos_iff.mpr fun hnil => hne ?_
      rw [hnil]
      exact wholeOf_nil
    rw [List.length_drop, List.length_append]
    omega
  have hsign : ∀ n, (text.drop n).length ≤ text.length := by
    intro n
    rw [List.length_drop]
    omega
  unfold loadNumber at h
  generalize (if text.head? = some 45 then 1 else 0) = sign at h
  dsimp only at h
  rw [List.append_assoc] at h
  split at h
  · cases h
  · rename_i hne
    split at h
    · obtain ⟨n, -, heq⟩ := Option.map_eq_some_iff.mp h
      cases heq
      exact Nat.lt_of_lt_of_le (hdrop _ _ hne) (hsign _)
    · cases h
      exact Nat.lt_of_lt_of_le (hdrop _ _ hne) (hsign _)

theorem tail_shorter {c : CodePoint} (h : text.head? = some c) :
    text.tail.length < text.length := by
  cases text with
  | nil => cases h
  | cons d text => exact Nat.lt_succ_self _

theorem skipSpace_tail_shorter {c : CodePoint} (h : text.head? = some c) :
    (skipSpace text.tail).length < text.length :=
  Nat.lt_of_le_of_lt (length_skipSpace_le _) (tail_shorter h)

theorem length_tail_le (text : PyStr) : text.tail.length ≤ text.length := by
  rw [List.length_tail]
  omega

theorem expect_shorter {c : CodePoint} (h : expect c text = some rest) :
    rest.length < text.length := by
  rw [expect_eq_some.mp h]
  exact Nat.lt_succ_self _

/-- An object or an array, closed at once or behind its items. -/
theorem container_shorter {Items : Type} {first close : CodePoint}
    {empty : Json} {items : Option (Items × PyStr)} {ofItems : Items → Json}
    (hhead : text.head? = some first)
    (h : (if (skipSpace text.tail).head? = some close then
        some (empty, (skipSpace text.tail).tail)
      else items.map fun x => (ofItems x.1, x.2)) = some (value, rest))
    (hitems : ∀ {members left}, items = some (members, left) →
      left.length < (skipSpace text.tail).length) :
    rest.length < text.length := by
  have hlt := skipSpace_tail_shorter hhead
  split at h
  · cases h
    exact Nat.lt_of_le_of_lt (length_tail_le _) hlt
  · obtain ⟨x, hx, heq⟩ := Option.map_eq_some_iff.mp h
    cases heq
    exact (hitems hx).trans hlt

/-- What is left of a text is shorter. -/
theorem scanOnce_shorter (fuel : ℕ) :
    (∀ {text rest value}, scanOnce floatOf fuel text = some (value, rest) →
      rest.length < text.length) ∧
    (∀ {text rest dict dict'},
      loadMembers floatOf fuel dict text = some (dict', rest) →
        rest.length < text.length) ∧
    ∀ {text rest values},
      loadElements floatOf fuel text = some (values, rest) →
        rest.length < text.length := by
  induction fuel with
  | zero =>
      refine ⟨fun h => ?_, fun h => ?_, fun h => ?_⟩
      · rw [scanOnce] at h
        cases h
      · rw [loadMembers] at h
        cases h
      · rw [loadElements] at h
        cases h
  | succ fuel ih =>
      obtain ⟨ihValue, ihMembers, ihElements⟩ := ih
      refine ⟨fun {text rest value} h => ?_, fun {text rest _ _} h => ?_,
        fun {text rest _} h => ?_⟩
      · rw [scanOnce] at h
        dsimp only at h
        split at h
        · rename_i hhead
          obtain ⟨x, hx, heq⟩ := Option.map_eq_some_iff.mp h
          cases heq
          exact (loadString_shorter hx).trans (tail_shorter hhead)
        · split at h
          · rename_i hhead
            exact container_shorter hhead h fun hx => ihMembers hx
          · split at h
            · rename_i hhead
              exact container_shorter hhead h fun hx => ihElements hx
            · rcases Option.or_eq_some_iff.mp h with h | ⟨-, h⟩
              · exact loadWord_shorter h
              · exact loadNumber_shorter h
      · rw [loadMembers] at h
        obtain ⟨t₁, h₁, h⟩ := Option.bind_eq_some_iff.mp h
        obtain ⟨⟨key, t₂⟩, h₂, h⟩ := Option.bind_eq_some_iff.mp h
        obtain ⟨t₃, h₃, h⟩ := Option.bind_eq_some_iff.mp h
        obtain ⟨⟨value, t₄⟩, h₄, h⟩ := Option.bind_eq_some_iff.mp h
        have hlt₁ := expect_shorter h₁
        have hlt₂ := loadString_shorter h₂
        have hlt₃ := expect_shorter h₃
        have hle₃ := length_skipSpace_le t₂
        have hlt₄ := ihValue h₄
        have hle₄ := length_skipSpace_le t₃
        have hle₅ := length_skipSpace_le t₄
        dsimp only at h
        split at h
        · cases h
          have hle₆ := length_tail_le (skipSpace t₄)
          omega
        · obtain ⟨t₅, h₅, h⟩ := Option.bind_eq_some_iff.mp h
          have hlt₅ := expect_shorter h₅
          have hlt₆ := ihMembers h
          have hle₆ := length_skipSpace_le t₅
          omega
      · rw [loadElements] at h
        obtain ⟨⟨value, t₁⟩, h₁, h⟩ := Option.bind_eq_some_iff.mp h
        have hlt₁ := ihValue h₁
        have hle₁ := length_skipSpace_le t₁
        dsimp only at h
        split at h
        · cases h
          have hle₂ := length_tail_le (skipSpace t₁)
          omega
        · obtain ⟨t₂, h₂, h⟩ := Option.bind_eq_some_iff.mp h
          obtain ⟨⟨values, t₃⟩, h₃, h⟩ := Option.bind_eq_some_iff.mp h
          have hlt₂ := expect_shorter h₂
          have hlt₃ := ihElements h₃
          have hle₃ := length_skipSpace_le t₂
          cases h
          show t₃.length < text.length
          omega

/-- **Fuel** beyond twice the length of a text makes no difference. -/
theorem scanOnce_fuel (n : ℕ) : ∀ m,
    (∀ text : PyStr, 2 * text.length < n → 2 * text.length < m →
      scanOnce floatOf n text = scanOnce floatOf m text) ∧
    (∀ dict, ∀ text : PyStr, 2 * text.length + 1 < n →
      2 * text.length + 1 < m →
      loadMembers floatOf n dict text = loadMembers floatOf m dict text) ∧
    ∀ text : PyStr, 2 * text.length + 1 < n → 2 * text.length + 1 < m →
      loadElements floatOf n text = loadElements floatOf m text := by
  induction n with
  | zero =>
      intro m
      exact ⟨fun _ h _ => absurd h (Nat.not_lt_zero _),
        fun _ _ h _ => absurd h (Nat.not_lt_zero _),
        fun _ h _ => absurd h (Nat.not_lt_zero _)⟩
  | succ n ih =>
      intro m
      cases m with
      | zero =>
          exact ⟨fun _ _ h => absurd h (Nat.not_lt_zero _),
            fun _ _ _ h => absurd h (Nat.not_lt_zero _),
            fun _ _ h => absurd h (Nat.not_lt_zero _)⟩
      | succ m =>
          obtain ⟨ihValue, ihMembers, ihElements⟩ := ih m
          refine ⟨fun text hn hm => ?_, fun dict text hn hm => ?_,
            fun text hn hm => ?_⟩
          · rw [scanOnce, scanOnce]
            dsimp only
            split
            · rfl
            · split
              · rename_i hhead
                have hlt := skipSpace_tail_shorter hhead
                rw [ihMembers [] _ (by omega) (by omega)]
              · split
                · rename_i hhead
                  have hlt := skipSpace_tail_shorter hhead
                  rw [ihElements _ (by omega) (by omega)]
                · rfl
          · rw [loadMembers, loadMembers]
            refine Option.bind_congr fun t₁ h₁ => ?_
            refine Option.bind_congr fun ⟨key, t₂⟩ h₂ => ?_
            refine Option.bind_congr fun t₃ h₃ => ?_
            have hlt₁ := expect_shorter h₁
            have hlt₂ := loadString_shorter h₂
            have hlt₃ := expect_shorter h₃
            have hle₃ := length_skipSpace_le t₂
            have hle₄ := length_skipSpace_le t₃
            dsimp only
            rw [← ihValue _ (by omega) (by omega)]
            refine Option.bind_congr fun ⟨value, t₄⟩ h₄ => ?_
            have hlt₄ := (scanOnce_shorter n).1 h₄
            have hle₅ := length_skipSpace_le t₄
            dsimp only
            split
            · rfl
            · refine Option.bind_congr fun t₅ h₅ => ?_
              have hlt₅ := expect_shorter h₅
              have hle₆ := length_skipSpace_le t₅
              exact ihMembers _ _ (by omega) (by omega)
          · rw [loadElements, loadElements, ihValue text (by omega) (by omega)]
            refine Option.bind_congr fun ⟨value, t₁⟩ h₁ => ?_
            have hlt₁ := (scanOnce_shorter m).1 h₁
            have hle₁ := length_skipSpace_le t₁
            dsimp only
            split
            · rfl
            · refine Option.bind_congr fun t₂ h₂ => ?_
              have hlt₂ := expect_shorter h₂
              have hle₃ := length_skipSpace_le t₂
              rw [ihElements _ (by omega) (by omega)]

/-- A text that is read with any such fuel is read. -/
theorem loadsText_of_scanOnce (hfuel : 2 * text.length < fuel)
    (h : scanOnce floatOf fuel (skipSpace text) = some (value, rest))
    (hrest : skipSpace rest = []) : loadsText floatOf text = some value := by
  have hle := length_skipSpace_le text
  have hsame : scanOnce floatOf (2 * text.length + 1) (skipSpace text) =
      scanOnce floatOf fuel (skipSpace text) :=
    (scanOnce_fuel _ fuel).1 _ (by omega) (by omega)
  refine Option.bind_eq_some_iff.mpr ⟨(value, rest), hsame.trans h, ?_⟩
  dsimp only
  rw [hrest]
  rfl

/-! ## §5  The round trip -/

/-- What a member may be here. -/
inductive Scalar where
  | str (s : PyStr)
  | int (n : ℤ)

namespace Scalar

def toJson : Scalar → Json
  | str s => .str s
  | int n => .int n

def dump : Scalar → PyStr
  | str s => dumpString s
  | int n => PyStr.ofInt n

/-- A string that is its own text, or an integer that `int` takes. -/
def Plain : Scalar → Prop
  | str s => ∀ c ∈ s, JsonText.Plain c
  | int n => (Nat.digits 10 n.natAbs).length ≤ 4300

end Scalar

/-- The members behind the opening brace. -/
def dumpMembers : List (PyStr × Scalar) → PyStr
  | [] => [125]
  | [(key, value)] => dumpString key ++ 58 :: (value.dump ++ [125])
  | (key, value) :: rest =>
      dumpString key ++ 58 :: (value.dump ++ 44 :: dumpMembers rest)

/-- `json.dumps(entries, separators=(",", ":"))`. -/
def dumps (entries : List (PyStr × Scalar)) : PyStr :=
  123 :: dumpMembers entries

/-- What follows a member. -/
def Follows (rest : PyStr) : Prop :=
  rest.head? = some 44 ∨ rest.head? = some 125

theorem loadString_plain {s : PyStr} (h : ∀ c ∈ s, JsonText.Plain c)
    (rest : PyStr) :
    expect 34 (dumpString s ++ rest) = some (s ++ 34 :: rest) ∧
      loadString (s ++ 34 :: rest) = some (s, rest) := by
  have htext : dumpString s ++ rest = 34 :: (s ++ 34 :: rest) := by
    simp [dumpString, flatMap_escape h]
  constructor
  · rw [htext]
    rfl
  · rw [loadString, scan_plain h, Option.map_some, joinSurrogates_plain]

theorem Follows.not_digit (h : Follows rest) : digitsOf rest = [] := by
  cases rest with
  | nil => rfl
  | cons c rest =>
      rcases h with h | h
      · cases h
        rfl
      · cases h
        rfl

theorem Follows.fractionOf_eq (h : Follows rest) : fractionOf rest = [] := by
  refine if_neg fun hpoint => ?_
  rcases h with h | h
  · rw [h] at hpoint
    exact absurd hpoint.1 (by decide)
  · rw [h] at hpoint
    exact absurd hpoint.1 (by decide)

theorem Follows.exponentOf_eq (h : Follows rest) : exponentOf rest = [] := by
  refine if_neg fun hexp => ?_
  rcases h with h | h
  · rw [h] at hexp
    exact absurd hexp (by decide)
  · rw [h] at hexp
    exact absurd hexp (by decide)

theorem all_digits_ofNat (n : ℕ) : ∀ c ∈ PyStr.ofNat n,
    PyStr.isAsciiDigit c = true := by
  obtain ⟨ds, -, hds, htext, -, -⟩ := PyStr.ofNat_eq_map n
  intro c hc
  rw [htext] at hc
  obtain ⟨d, hd, rfl⟩ := List.mem_map.mp hc
  exact PyStr.isAsciiDigit_digit (hds d hd)

/-- A number other than zero starts with no zero. -/
theorem head?_ofNat {n : ℕ} (hn : n ≠ 0) :
    (PyStr.ofNat n).head? ≠ some 48 := by
  have hne : Nat.digits 10 n ≠ [] := Nat.digits_ne_nil_iff_ne_zero.mpr hn
  have hlast := Nat.getLast_digit_ne_zero 10 hn
  have hlt := Nat.digits_lt_base (by decide : 1 < 10) (List.getLast_mem hne)
  rw [PyStr.ofNat, if_neg hn, List.head?_map, List.head?_reverse,
    List.getLast?_eq_some_getLast hne, Option.map_some]
  intro heq
  have hval := congrArg Fin.val (Option.some.inj heq)
  rw [PyStr.digit_val hlt] at hval
  have h48 : (48 : CodePoint).val = 48 := rfl
  omega

theorem wholeOf_ofNat (n : ℕ) (h : Follows rest) :
    wholeOf (PyStr.ofNat n ++ rest) = PyStr.ofNat n := by
  by_cases hn : n = 0
  · subst hn
    rfl
  · have hne : PyStr.ofNat n ≠ [] := by
      rw [PyStr.ofNat, if_neg hn, Ne, List.map_eq_nil_iff,
        List.reverse_eq_nil_iff]
      exact Nat.digits_ne_nil_iff_ne_zero.mpr hn
    have hhead : (PyStr.ofNat n ++ rest).head? ≠ some 48 := by
      rw [List.head?_append_of_ne_nil _ hne]
      exact head?_ofNat hn
    rw [wholeOf, if_neg hhead, digitsOf,
      List.takeWhile_append_of_pos (all_digits_ofNat n)]
    have hrest : rest.takeWhile PyStr.isAsciiDigit = [] := h.not_digit
    rw [hrest, List.append_nil]

theorem decimalValue_ofNat {n : ℕ} (h : (Nat.digits 10 n).length ≤ 4300) :
    PyStr.decimalValue (PyStr.ofNat n) = some n := by
  obtain ⟨ds, hne, hds, htext, hvalue, hlen⟩ := PyStr.ofNat_eq_map n
  rw [htext, PyStr.decimalValue_digits hne hds (by omega), hvalue]

theorem loadNumber_ofInt {n : ℤ}
    (hn : (Nat.digits 10 n.natAbs).length ≤ 4300) (h : Follows rest) :
    loadNumber floatOf (PyStr.ofInt n ++ rest) = some (.int n, rest) := by
  have hbody : ∀ k : ℕ, (Nat.digits 10 k).length ≤ 4300 →
      (PyStr.ofNat k ++ rest).drop (PyStr.ofNat k).length = rest ∧
        wholeOf (PyStr.ofNat k ++ rest) = PyStr.ofNat k ∧
          PyStr.ofNat k ≠ [] ∧ PyStr.decimalValue (PyStr.ofNat k) = some k := by
    intro k hk
    refine ⟨List.drop_left, wholeOf_ofNat k h, fun hnil => ?_,
      decimalValue_ofNat hk⟩
    have hvalue := decimalValue_ofNat hk
    obtain ⟨ds, hne, -, htext, -, -⟩ := PyStr.ofNat_eq_map k
    rw [htext, List.map_eq_nil_iff] at hnil
    exact hne hnil
  cases n with
  | ofNat k =>
      obtain ⟨hdrop, hwhole, hne, hvalue⟩ := hbody k hn
      have hsign : (PyStr.ofNat k ++ rest).head? ≠ some 45 := by
        rw [List.head?_append_of_ne_nil _ hne]
        intro hhead
        have hmem := List.mem_of_head? hhead
        exact absurd (all_digits_ofNat k 45 hmem) (by decide)
      have htext : PyStr.ofInt (Int.ofNat k) = PyStr.ofNat k := rfl
      unfold loadNumber
      rw [htext, if_neg hsign]
      simp only [List.drop_zero, hwhole, hdrop, h.fractionOf_eq,
        h.exponentOf_eq, List.append_nil, if_neg hne, hvalue]
      rfl
  | negSucc k =>
      obtain ⟨hdrop, hwhole, hne, hvalue⟩ := hbody (k + 1) hn
      unfold loadNumber
      simp only [PyStr.ofInt, List.cons_append, List.head?_cons, if_true,
        List.drop_succ_cons, List.drop_zero, hwhole, hdrop,
        h.fractionOf_eq, h.exponentOf_eq, List.append_nil, if_neg hne, hvalue]
      rfl

/-- Behind a possible sign, an integer starts with a digit. -/
theorem ofInt_start (n : ℤ) : ∃ c d tail, PyStr.ofInt n = c :: tail ∧
    (PyStr.isAsciiDigit c = true ∨
      c = 45 ∧ tail.head? = some d ∧ PyStr.isAsciiDigit d = true) := by
  have hstart : ∀ k : ℕ, ∃ c tail, PyStr.ofNat k = c :: tail ∧
      PyStr.isAsciiDigit c = true := by
    intro k
    obtain ⟨ds, hne, -, htext, -, -⟩ := PyStr.ofNat_eq_map k
    cases ds with
    | nil => exact absurd rfl hne
    | cons d ds =>
        refine ⟨_, _, htext, all_digits_ofNat k _ ?_⟩
        rw [htext]
        exact List.mem_cons_self
  cases n with
  | ofNat k =>
      obtain ⟨c, tail, htext, hc⟩ := hstart k
      exact ⟨c, c, tail, htext, .inl hc⟩
  | negSucc k =>
      obtain ⟨c, tail, htext, hc⟩ := hstart (k + 1)
      refine ⟨45, c, PyStr.ofNat (k + 1), rfl, .inr ⟨rfl, ?_, hc⟩⟩
      rw [htext]
      rfl

theorem loadWord_ofInt (n : ℤ) :
    loadWord floatOf (PyStr.ofInt n ++ rest) = none := by
  obtain ⟨c, d, tail, htext, hcases⟩ := ofInt_start n
  rw [loadWord, Option.map_eq_none_iff, List.find?_eq_none, htext]
  intro word hword hpre
  obtain ⟨a, b, w, hstart, ha, hb⟩ := words_start word hword
  rw [List.isPrefixOf_iff_prefix, hstart, List.cons_append,
    List.cons_prefix_cons] at hpre
  obtain ⟨rfl, hpre⟩ := hpre
  rcases hcases with hc | ⟨rfl, hd, hdigit⟩
  · rw [ha] at hc
    cases hc
  · cases tail with
    | nil => cases hd
    | cons e tail =>
        rw [List.cons_append, List.cons_prefix_cons] at hpre
        cases hd
        rw [← hpre.1, hb rfl] at hdigit
        cases hdigit

theorem scanOnce_scalar {v : Scalar} (hv : v.Plain) (h : Follows rest) :
    scanOnce floatOf (fuel + 1) (v.dump ++ rest) = some (v.toJson, rest) := by
  cases v with
  | str s =>
      obtain ⟨hquote, hload⟩ := loadString_plain hv rest
      have htext := expect_eq_some.mp hquote
      show scanOnce floatOf (fuel + 1) (dumpString s ++ rest) = _
      rw [htext, scanOnce]
      simp only [List.head?_cons, if_true, List.tail_cons, hload]
      rfl
  | int n =>
      obtain ⟨c, d, tail, htext, hcases⟩ := ofInt_start n
      have hc : c = 45 ∨ PyStr.isAsciiDigit c = true := by
        rcases hcases with hc | ⟨hc, -, -⟩
        · exact .inr hc
        · exact .inl hc
      have hne : ∀ e : CodePoint, e = 34 ∨ e = 123 ∨ e = 91 →
          (PyStr.ofInt n ++ rest).head? ≠ some e := by
        intro e he heq
        rw [htext] at heq
        cases heq
        rcases he with rfl | rfl | rfl <;> revert hc <;> decide
      show scanOnce floatOf (fuel + 1) (PyStr.ofInt n ++ rest) = _
      rw [scanOnce]
      dsimp only
      rw [if_neg (hne 34 (by simp)), if_neg (hne 123 (by simp)),
        if_neg (hne 91 (by simp)), loadWord_ofInt, Option.none_or]
      exact loadNumber_ofInt hv h

theorem skipSpace_dumpString (s rest : PyStr) :
    skipSpace (dumpString s ++ rest) = dumpString s ++ rest :=
  skipSpace_cons (.inl rfl)

theorem skipSpace_scalar (v : Scalar) (rest : PyStr) :
    skipSpace (v.dump ++ rest) = v.dump ++ rest := by
  cases v with
  | str s => exact skipSpace_dumpString s rest
  | int n =>
      obtain ⟨c, d, tail, htext, hcases⟩ := ofInt_start n
      show skipSpace (PyStr.ofInt n ++ rest) = PyStr.ofInt n ++ rest
      rw [htext]
      refine skipSpace_cons (.inr ?_)
      rcases hcases with hc | ⟨rfl, -, -⟩
      · rw [PyStr.isAsciiDigit, Bool.and_eq_true, decide_eq_true_eq] at hc
        omega
      · decide

theorem Follows.skipSpace_eq (h : Follows rest) : skipSpace rest = rest := by
  cases rest with
  | nil => rfl
  | cons c rest =>
      refine skipSpace_cons (.inr ?_)
      rcases h with h | h
      · cases h
        decide
      · cases h
        decide

/-- One member, and what follows it. -/
theorem loadMembers_member {key : PyStr} {v : Scalar}
    (hkey : ∀ c ∈ key, JsonText.Plain c) (hv : v.Plain) (h : Follows rest)
    (dict : List (PyStr × Json)) :
    loadMembers floatOf (fuel + 2) dict
        (dumpString key ++ 58 :: (v.dump ++ rest)) =
      if rest.head? = some 125 then
        some (setItem key v.toJson dict, rest.tail)
      else (expect 44 rest).bind fun text =>
        loadMembers floatOf (fuel + 1) (setItem key v.toJson dict)
          (skipSpace text) := by
  obtain ⟨hquote, hload⟩ := loadString_plain hkey (58 :: (v.dump ++ rest))
  have hcolon : expect 58 (skipSpace (58 :: (v.dump ++ rest))) =
      some (v.dump ++ rest) := by
    rw [skipSpace_cons (.inr (by decide))]
    rfl
  rw [loadMembers]
  simp only [Option.bind_eq_bind, Option.bind_some, hquote, hload, hcolon,
    skipSpace_scalar, scanOnce_scalar hv h, h.skipSpace_eq]

theorem dumpMembers_start (e : PyStr × Scalar) (entries : List (PyStr × Scalar)) :
    ∃ tail, dumpMembers (e :: entries) = 34 :: tail := by
  cases entries with
  | nil => exact ⟨_, rfl⟩
  | cons e' entries => exact ⟨_, rfl⟩

/-- The members are set one after the other. -/
theorem loadMembers_dumpMembers {entries : List (PyStr × Scalar)}
    (hne : entries ≠ [])
    (h : ∀ e ∈ entries, (∀ c ∈ e.1, JsonText.Plain c) ∧ e.2.Plain)
    (hfuel : entries.length < fuel) (dict : List (PyStr × Json)) :
    loadMembers floatOf fuel dict (dumpMembers entries ++ rest) =
      some (entries.foldl (fun dict e => setItem e.1 e.2.toJson dict) dict,
        rest) := by
  induction entries generalizing fuel dict with
  | nil => exact absurd rfl hne
  | cons e entries ih =>
      obtain ⟨key, v⟩ := e
      obtain ⟨hkey, hv⟩ := h (key, v) List.mem_cons_self
      have hentries : ∀ e ∈ entries,
          (∀ c ∈ e.1, JsonText.Plain c) ∧ e.2.Plain :=
        fun e he => h e (List.mem_cons_of_mem _ he)
      obtain ⟨fuel, rfl⟩ : ∃ k, fuel = k + 2 := by
        rw [List.length_cons] at hfuel
        exact ⟨fuel - 2, by omega⟩
      cases entries with
      | nil =>
          have htext : dumpMembers [(key, v)] ++ rest =
              dumpString key ++ 58 :: (v.dump ++ 125 :: rest) := by
            simp [dumpMembers]
          rw [htext, loadMembers_member hkey hv (.inr rfl)]
          rfl
      | cons e' entries =>
          have htext : dumpMembers ((key, v) :: e' :: entries) ++ rest =
              dumpString key ++ 58 ::
                (v.dump ++ 44 :: (dumpMembers (e' :: entries) ++ rest)) := by
            simp [dumpMembers]
          have hspace : skipSpace (dumpMembers (e' :: entries) ++ rest) =
              dumpMembers (e' :: entries) ++ rest := by
            obtain ⟨tail, htail⟩ := dumpMembers_start e' entries
            rw [htail]
            exact skipSpace_cons (.inl rfl)
          have hlen : (e' :: entries).length < fuel + 1 :=
            Nat.lt_of_succ_lt_succ hfuel
          rw [htext, loadMembers_member hkey hv (.inl rfl)]
          show loadMembers floatOf (fuel + 1) (setItem key v.toJson dict)
            (skipSpace (dumpMembers (e' :: entries) ++ rest)) = _
          rw [hspace, ih (List.cons_ne_nil _ _) hentries hlen]
          rfl

theorem setItem_of_not_mem {key : PyStr} {dict : List (PyStr × Json)}
    (h : key ∉ dict.map Prod.fst) :
    setItem key value dict = dict ++ [(key, value)] := by
  induction dict with
  | nil => rfl
  | cons entry dict ih =>
      rw [List.map_cons, List.mem_cons, not_or] at h
      rw [setItem, if_neg (Ne.symm h.1), ih h.2]
      rfl

/-- Keys that differ are set side by side. -/
theorem foldl_setItem {entries : List (PyStr × Scalar)}
    {dict : List (PyStr × Json)}
    (h : (dict.map Prod.fst ++ entries.map Prod.fst).Nodup) :
    entries.foldl (fun dict e => setItem e.1 e.2.toJson dict) dict =
      dict ++ entries.map fun e => (e.1, e.2.toJson) := by
  induction entries generalizing dict with
  | nil => simp
  | cons e entries ih =>
      have hnot : e.1 ∉ dict.map Prod.fst := by
        intro hmem
        exact (List.nodup_append.mp h).2.2 _ hmem _ List.mem_cons_self rfl
      rw [List.foldl_cons, setItem_of_not_mem hnot, ih, List.append_assoc]
      · rfl
      · simpa using h

/-- **`json.loads(json.dumps(entries)) == entries`** for plain members. -/
theorem loadsText_dumps {entries : List (PyStr × Scalar)}
    (h : ∀ e ∈ entries, (∀ c ∈ e.1, JsonText.Plain c) ∧ e.2.Plain)
    (hkeys : (entries.map Prod.fst).Nodup) :
    loadsText floatOf (dumps entries) =
      some (.obj (entries.map fun e => (e.1, e.2.toJson))) := by
  have hstart : skipSpace (dumps entries) = dumps entries :=
    skipSpace_cons (.inr (by decide))
  have hfuel : 2 * (dumps entries).length <
      2 * (dumps entries).length + entries.length + 2 := by
    omega
  suffices hread : scanOnce floatOf _ (skipSpace (dumps entries)) =
      some (_, []) from loadsText_of_scanOnce hfuel hread rfl
  rw [hstart]
  cases entries with
  | nil => rfl
  | cons e entries =>
      obtain ⟨tail, htail⟩ := dumpMembers_start e entries
      have hload : ∀ fuel, (e :: entries).length < fuel →
          loadMembers floatOf fuel [] (34 :: tail) =
            some ((e :: entries).map fun e => (e.1, e.2.toJson), []) := by
        intro fuel hlt
        have hmembers : loadMembers floatOf fuel []
            (dumpMembers (e :: entries) ++ []) = _ :=
          loadMembers_dumpMembers (List.cons_ne_nil e entries) h hlt []
        have hfold : (e :: entries).foldl
            (fun dict e => setItem e.1 e.2.toJson dict) [] =
              [] ++ (e :: entries).map fun e => (e.1, e.2.toJson) :=
          foldl_setItem hkeys
        rw [List.append_nil, hfold, List.nil_append, htail] at hmembers
        exact hmembers
      rw [scanOnce]
      simp only [dumps, htail, List.head?_cons, List.tail_cons,
        skipSpace_cons (Or.inl (rfl : (34 : CodePoint).val = 34))]
      rw [if_neg (by decide), if_pos trivial, if_neg (by decide),
        hload _ (by omega)]
      rfl

/-! ### Bytes -/

theorem sequenceAt_ascii {a : UInt8} (h : a.toNat < 0x80) (bs : Bytes) :
    sequenceAt a bs = some (a.toNat, 0) := if_pos h

theorem decodeUtf8_toAscii {s : PyStr} (h : s.isAscii = true) :
    decodeUtf8 0 (toAscii s) = some s := by
  induction s with
  | nil => rfl
  | cons c s ih =>
      rw [PyStr.isAscii, List.all_cons, Bool.and_eq_true,
        decide_eq_true_eq] at h
      have hc : (UInt8.ofNat c.val).toNat = c.val :=
        PyStr.toNat_ofNat (by omega)
      show decodeUtf8 0 (UInt8.ofNat c.val :: toAscii s) = _
      rw [decodeUtf8, sequenceAt_ascii (by omega), hc]
      show PyStr.prepend c.val (decodeUtf8 0 (toAscii s)) = _
      rw [PyStr.prepend_val, ih h.2]
      rfl

/-- Without a zero in its first two bytes, and no mark, text is UTF-8. -/
theorem decode_utf8 {b : UInt8} {bs : Bytes} (hb : b ≠ 0) :
    decode (123 :: b :: bs) = decodeUtf8 0 (123 :: b :: bs) := by
  have hmark : ∀ (n : ℕ) (m : UInt8) (mark : Bytes), m ≠ 123 →
      (123 :: b :: bs).take (n + 1) ≠ m :: mark := by
    intro n m mark hm heq
    rw [List.take_succ_cons, List.cons.injEq] at heq
    exact hm heq.1.symm
  unfold decode
  rw [if_neg (hmark 3 _ _ (by decide)), if_neg (hmark 3 _ _ (by decide)),
    if_neg (hmark 1 _ _ (by decide)), if_neg (hmark 1 _ _ (by decide)),
    if_neg (hmark 2 _ _ (by decide))]
  unfold decodeUnmarked
  split
  · rename_i heq
    cases heq
    rw [if_neg (by decide), if_neg hb]
  · rename_i heq
    cases heq
    rw [if_neg (by decide), if_neg hb]
  · rfl

theorem hexDigit_ascii {n : ℕ} (h : n < 16) : (hexDigit n).val < 128 := by
  have hall : ∀ n : Fin 16, (hexDigit n.val).val < 128 := by decide
  exact hall ⟨n, h⟩

theorem unicodeEscape_ascii (n : ℕ) : (unicodeEscape n).isAscii = true := by
  have hhex : ∀ m : ℕ, (hexDigit (m % 16)).val < 128 :=
    fun m => hexDigit_ascii (Nat.mod_lt m (by decide))
  simp only [unicodeEscape, PyStr.isAscii, List.all_cons, List.all_nil,
    Bool.and_eq_true, decide_eq_true_eq, hhex, and_true]
  decide

theorem escape_ascii (c : CodePoint) : (escape c).isAscii = true := by
  unfold escape
  split_ifs with hquote hplain
  · rcases hquote with rfl | rfl <;> decide
  · simp only [PyStr.isAscii, List.all_cons, List.all_nil, Bool.and_true,
      decide_eq_true_eq]
    omega
  · decide
  · decide
  · decide
  · decide
  · decide
  · exact unicodeEscape_ascii _
  · rw [PyStr.isAscii, List.all_append, Bool.and_eq_true]
    exact ⟨unicodeEscape_ascii _, unicodeEscape_ascii _⟩

theorem isAscii_append {s t : PyStr} :
    (s ++ t).isAscii = true ↔ s.isAscii = true ∧ t.isAscii = true := by
  rw [PyStr.isAscii, List.all_append, Bool.and_eq_true]
  rfl

theorem isAscii_cons {c : CodePoint} {s : PyStr} :
    PyStr.isAscii (c :: s) = true ↔ c.val < 128 ∧ s.isAscii = true := by
  rw [PyStr.isAscii, List.all_cons, Bool.and_eq_true, decide_eq_true_eq]
  rfl

theorem dumpString_ascii (s : PyStr) : (dumpString s).isAscii = true := by
  have hescaped : (s.flatMap escape).all (fun c => c.val < 128) = true := by
    rw [List.all_flatMap, List.all_eq_true]
    exact fun c _ => escape_ascii c
  exact isAscii_cons.mpr ⟨by decide, isAscii_append.mpr ⟨hescaped, rfl⟩⟩

theorem scalar_ascii (v : Scalar) : v.dump.isAscii = true := by
  have hnat : ∀ n : ℕ, (PyStr.ofNat n).isAscii = true := by
    intro n
    rw [PyStr.isAscii, List.all_eq_true]
    intro c hc
    have hdigit := all_digits_ofNat n c hc
    rw [PyStr.isAsciiDigit, Bool.and_eq_true, decide_eq_true_eq,
      decide_eq_true_eq] at hdigit
    exact decide_eq_true (by omega)
  cases v with
  | str s => exact dumpString_ascii s
  | int n =>
      cases n with
      | ofNat n => exact hnat n
      | negSucc n => exact isAscii_cons.mpr ⟨by decide, hnat (n + 1)⟩

theorem dumpMembers_ascii (entries : List (PyStr × Scalar)) :
    (dumpMembers entries).isAscii = true := by
  induction entries with
  | nil => rfl
  | cons e entries ih =>
      obtain ⟨key, v⟩ := e
      have hkey := dumpString_ascii key
      have hv := scalar_ascii v
      cases entries with
      | nil =>
          exact isAscii_append.mpr ⟨hkey, isAscii_cons.mpr ⟨by decide,
            isAscii_append.mpr ⟨hv, rfl⟩⟩⟩
      | cons e' entries =>
          exact isAscii_append.mpr ⟨hkey, isAscii_cons.mpr ⟨by decide,
            isAscii_append.mpr ⟨hv, isAscii_cons.mpr ⟨by decide, ih⟩⟩⟩⟩

/-- The text of a dump is ASCII, whatever it dumps. -/
theorem isAscii_dumps (entries : List (PyStr × Scalar)) :
    (dumps entries).isAscii = true :=
  isAscii_cons.mpr ⟨by decide, dumpMembers_ascii entries⟩

/-- **What is dumped and encoded is loaded.** -/
theorem loads_dumps {entries : List (PyStr × Scalar)}
    (h : ∀ e ∈ entries, (∀ c ∈ e.1, JsonText.Plain c) ∧ e.2.Plain)
    (hkeys : (entries.map Prod.fst).Nodup) :
    loads floatOf (toAscii (dumps entries)) =
      some (.obj (entries.map fun e => (e.1, e.2.toJson))) := by
  have hdecode : decode (toAscii (dumps entries)) =
      decodeUtf8 0 (toAscii (dumps entries)) := by
    cases entries with
    | nil => rfl
    | cons e entries =>
        obtain ⟨tail, htail⟩ := dumpMembers_start e entries
        rw [dumps, htail]
        exact decode_utf8 (by decide)
  rw [loads, hdecode, decodeUtf8_toAscii (isAscii_dumps entries),
    Option.bind_some]
  exact loadsText_dumps h hkeys

end JsonDocument

end LeakcheckHub.Foundation
