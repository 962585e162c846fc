import LeakcheckHub.Foundation.PyText

/-!
# Lists of strings as JSON text

`json.dumps` of a list of strings with the separators `,` and `:`, and
`json.loads` of a document, as far as lists of strings go: every other
document is `none`, like the texts that are no document.
-/

namespace LeakcheckHub.Foundation

namespace JsonText

/-! ## Writing -/

/-- `\uXXXX`. -/
def unicodeEscape (n : ℕ) : PyStr :=
  [92, 117, hexDigit (n / 0x1000 % 16), hexDigit (n / 0x100 % 16),
    hexDigit (n / 0x10 % 16), hexDigit (n % 16)]

/-- The text of a character, which is ASCII. -/
def escape (c : CodePoint) : PyStr :=
  if c = 34 ∨ c = 92 then [92, c]
  else if 32 ≤ c.val ∧ c.val ≤ 126 then [c]
  else if c = 8 then [92, 98]
  else if c = 9 then [92, 116]
  else if c = 10 then [92, 110]
  else if c = 12 then [92, 102]
  else if c = 13 then [92, 114]
  else if c.val < 0x10000 then unicodeEscape c.val
  else
    unicodeEscape (0xD800 + (c.val - 0x10000) / 0x400) ++
      unicodeEscape (0xDC00 + (c.val - 0x10000) % 0x400)

def dumpString (s : PyStr) : PyStr := 34 :: (s.flatMap escape ++ [34])

/-- The items behind the opening bracket. -/
def dumpItems : List PyStr → PyStr
  | [] => [93]
  | [s] => dumpString s ++ [93]
  | s :: rest => dumpString s ++ 44 :: dumpItems rest

/-- `json.dumps(items, separators=(",", ":"))`. -/
def dumps (items : List PyStr) : PyStr := 91 :: dumpItems items

/-! ## Reading -/

def hexWord (a b c d : CodePoint) : Option CodePoint := do
  let a ← hexValue a
  let b ← hexValue b
  let c ← hexValue c
  let d ← hexValue d
  some (Fin.ofNat _ (((a * 16 + b) * 16 + c) * 16 + d))

/-- The escapes of one character. -/
def simpleEscape (c : CodePoint) : Option CodePoint :=
  if c = 34 ∨ c = 92 ∨ c = 47 then some c
  else if c = 98 then some 8
  else if c = 102 then some 12
  else if c = 110 then some 10
  else if c = 114 then some 13
  else if c = 116 then some 9
  else none

/-- The escape behind a backslash, with whether it is a `\uXXXX`, and how many
characters it takes. -/
def escapeAt : PyStr → Option (CodePoint × Bool × ℕ)
  | [] => none
  | e :: text =>
      if e = 117 then
        match text with
        | a :: b :: c :: d :: _ => (hexWord a b c d).map (·, true, 5)
        | _ => none
      else (simpleEscape e).map (·, false, 1)

/-- The characters of a string behind its opening quote, each with whether it
was a `\uXXXX`, and the text behind its closing quote; `skip` characters
belong to an escape. -/
def scan : ℕ → PyStr → Option (List (CodePoint × Bool) × PyStr)
  | _, [] => none
  | skip + 1, _ :: text => scan skip text
  | 0, c :: text =>
      if c = 34 then some ([], text)
      else if c = 92 then
        match escapeAt text with
        | none => none
        | some (n, escaped, skip) =>
            (scan skip text).map fun x => ((n, escaped) :: x.1, x.2)
      else if c.val < 32 then none
      else (scan 0 text).map fun x => ((c, false) :: x.1, x.2)

def isHigh (c : CodePoint) : Bool := 0xD800 ≤ c.val && c.val ≤ 0xDBFF

def isLow (c : CodePoint) : Bool := 0xDC00 ≤ c.val && c.val ≤ 0xDFFF

/-- Two escapes that are a surrogate pair are one character. -/
def joinSurrogates : List (CodePoint × Bool) → PyStr
  | [] => []
  | [(c, _)] => [c]
  | (c, escaped) :: (d, escaped') :: rest =>
      if escaped && escaped' && isHigh c && isLow d then
        Fin.ofNat _ (0x10000 + (c.val - 0xD800) * 0x400 + (d.val - 0xDC00)) ::
          joinSurrogates rest
      else c :: joinSurrogates ((d, escaped') :: rest)

def skipSpace (text : PyStr) : PyStr :=
  text.dropWhile fun c => [32, 9, 10, 13].contains c.val

/-- The items from an item on, and the text behind the closing bracket. -/
def loadItems : ℕ → PyStr → Option (List PyStr × PyStr)
  | 0, _ => none
  | _ + 1, [] => none
  | fuel + 1, c :: text =>
      if c = 34 then
        match scan 0 text with
        | none => none
        | some (chars, text) =>
            match skipSpace text with
            | [] => none
            | d :: text =>
                if d = 93 then some ([joinSurrogates chars], text)
                else if d = 44 then
                  (loadItems fuel (skipSpace text)).map fun x =>
                    (joinSurrogates chars :: x.1, x.2)
                else none
      else none

/-- The items behind the opening bracket. -/
def loadBody (text : PyStr) : Option (List PyStr × PyStr) :=
  match skipSpace text with
  | [] => none
  | c :: rest =>
      if c = 93 then some ([], rest) else loadItems (rest.length + 1) (c :: rest)

/-- `json.loads(text)`, where it is a list of strings. -/
def loads (text : PyStr) : Option (List PyStr) :=
  match skipSpace text with
  | [] => none
  | c :: text =>
      if c = 91 then
        match loadBody text with
        | none => none
        | some (items, rest) =>
            if (skipSpace rest).isEmpty then some items else none
      else none

/-! ## The round trip -/

/-- A character that is its own text. -/
def Plain (c : CodePoint) : Prop :=
  32 ≤ c.val ∧ c.val ≤ 126 ∧ c ≠ 34 ∧ c ≠ 92

variable {s rest : PyStr} {items : List PyStr}

theorem flatMap_escape (h : ∀ c ∈ s, Plain c) : s.flatMap escape = s := by
  induction s with
  | nil => rfl
  | cons c s ih =>
      obtain ⟨hlow, hhigh, hquote, hback⟩ := h c List.mem_cons_self
      have hc : escape c = [c] := by
        unfold escape
        rw [if_neg (by simp [hquote, hback]), if_pos ⟨hlow, hhigh⟩]
      rw [List.flatMap_cons, hc, ih fun d hd => h d (List.mem_cons_of_mem c hd)]
      rfl

theorem scan_plain (h : ∀ c ∈ s, Plain c) :
    scan 0 (s ++ 34 :: rest) = some (s.map (·, false), rest) := by
  induction s with
  | nil => rfl
  | cons c s ih =>
      obtain ⟨hlow, -, hquote, hback⟩ := h c List.mem_cons_self
      rw [List.cons_append, scan, if_neg hquote, if_neg hback,
        if_neg (Nat.not_lt.mpr hlow),
        ih fun d hd => h d (List.mem_cons_of_mem c hd)]
      rfl

theorem joinSurrogates_plain (s : PyStr) :
    joinSurrogates (s.map (·, false)) = s := by
  induction s with
  | nil => rfl
  | cons c s ih =>
      cases s with
      | nil => rfl
      | cons d s =>
          have hstep : joinSurrogates ((c :: d :: s).map (·, false)) =
              c :: joinSurrogates ((d :: s).map (·, false)) := rfl
          rw [hstep, ih]

/-- A text that starts with no space. -/
theorem skipSpace_cons {c : CodePoint} (h : c.val = 34 ∨ 44 ≤ c.val) :
    skipSpace (c :: rest) = c :: rest := by
  unfold skipSpace
  rw [List.dropWhile_cons, if_neg]
  simp
  omega

/-- The items of a list, which has as many as the fuel allows. -/
theorem loadItems_dumpItems (hne : items ≠ [])
    (h : ∀ s ∈ items, ∀ c ∈ s, Plain c) {fuel : ℕ}
    (hfuel : items.length ≤ fuel) :
    loadItems fuel (dumpItems items ++ rest) = some (items, rest) := by
  induction items generalizing fuel with
  | nil => exact absurd rfl hne
  | cons s items ih =>
      obtain ⟨fuel, rfl⟩ : ∃ k, fuel = k + 1 :=
        Nat.exists_eq_add_one_of_ne_zero (by
          intro hzero
          rw [hzero] at hfuel
          cases hfuel)
      have hs := h s List.mem_cons_self
      have hitems : ∀ t ∈ items, ∀ c ∈ t, Plain c :=
        fun t ht => h t (List.mem_cons_of_mem s ht)
      cases items with
      | nil =>
          have htext : dumpItems [s] ++ rest = 34 :: (s ++ 34 :: 93 :: rest) := by
            simp [dumpItems, dumpString, flatMap_escape hs]
          rw [htext, loadItems, if_pos rfl, scan_plain hs]
          simp only [skipSpace_cons (Or.inr (by decide : 44 ≤ (93 : CodePoint).val)),
            joinSurrogates_plain]
          rfl
      | cons t items =>
          have htext : dumpItems (s :: t :: items) ++ rest =
              34 :: (s ++ 34 :: 44 :: (dumpItems (t :: items) ++ rest)) := by
            simp [dumpItems, dumpString, flatMap_escape hs]
          have hquote : skipSpace (dumpItems (t :: items) ++ rest) =
              dumpItems (t :: items) ++ rest := by
            cases items with
            | nil => exact skipSpace_cons (.inl rfl)
            | cons u items => exact skipSpace_cons (.inl rfl)
          have hlen : (t :: items).length ≤ fuel := Nat.le_of_succ_le_succ hfuel
          have hrest := ih (List.cons_ne_nil t items) hitems hlen
          rw [htext, loadItems, if_pos rfl, scan_plain hs]
          simp only [skipSpace_cons (Or.inr (by decide : 44 ≤ (44 : CodePoint).val)),
            hquote, hrest, joinSurrogates_plain]
          rfl

theorem length_le_dumpItems (items : List PyStr) :
    items.length ≤ (dumpItems items).length := by
  induction items with
  | nil => exact Nat.zero_le _
  | cons s items ih =>
      cases items with
      | nil => simp [dumpItems, dumpString]
      | cons t items =>
          simp only [dumpItems, List.length_append, List.length_cons] at ih ⊢
          omega

/-- **`json.loads(json.dumps(items)) == items`** for strings of plain
characters. -/
theorem loads_dumps (h : ∀ s ∈ items, ∀ c ∈ s, Plain c) :
    loads (dumps items) = some items := by
  cases items with
  | nil => rfl
  | cons s items =>
      have hbody : loadBody (dumpItems (s :: items)) = some (s :: items, []) := by
        obtain ⟨tail, htail⟩ : ∃ tail, dumpItems (s :: items) = 34 :: tail := by
          cases items with
          | nil => exact ⟨_, rfl⟩
          | cons t items => exact ⟨_, rfl⟩
        have hlen := length_le_dumpItems (s :: items)
        have hload : loadItems _ (dumpItems (s :: items) ++ []) = _ :=
          loadItems_dumpItems (List.cons_ne_nil s items) h hlen
        rw [List.append_nil, htail] at hload
        unfold loadBody
        rw [htail, skipSpace_cons (.inl rfl)]
        exact hload
      unfold loads dumps
      rw [skipSpace_cons (.inr (by decide))]
      simp only [hbody]
      rfl

end JsonText

end LeakcheckHub.Foundation
