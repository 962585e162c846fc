import LeakcheckHub.Foundation.PathSegments

/-!
# Query strings

`urllib.parse.urlencode` and `parse_qsl`. A component is read back first, with
`+` for a space and percent-encoding decoded as UTF-8; then the fields between
`&` and the first `=`.

§1 UTF-8 with replacement · §2 components · §3 fields · §4 the round trip.
-/

namespace LeakcheckHub.Foundation

open JsonText

/-! ## §1  UTF-8 with replacement -/

namespace PyStr

/-- Whether `b` continues a character that starts with `a`. -/
def follows (a b : UInt8) : Bool :=
  isTail b &&
    ((0xC2 ≤ a.toNat && a.toNat < 0xE0) ||
      (a.toNat == 0xE0 && 0xA0 ≤ b.toNat) ||
      (a.toNat == 0xED && b.toNat < 0xA0) ||
      (0xE1 ≤ a.toNat && a.toNat < 0xF0 && a.toNat != 0xED) ||
      (a.toNat == 0xF0 && 0x90 ≤ b.toNat) ||
      (0xF1 ≤ a.toNat && a.toNat < 0xF4) ||
      (a.toNat == 0xF4 && b.toNat < 0x90))

def replacement : CodePoint := Fin.ofNat _ 0xFFFD

/-- `bytes.decode("utf-8", "replace")`: one replacement character for the
longest start of a character that the next byte does not continue. -/
def decodeReplace : Bytes → PyStr
  | [] => []
  | a :: bs =>
      if a.toNat < 0x80 then Fin.ofNat _ a.toNat :: decodeReplace bs
      else match bs with
        | [] => [replacement]
        | b :: bs =>
            if !follows a b then replacement :: decodeReplace (b :: bs)
            else if a.toNat < 0xE0 then
              Fin.ofNat _ ((a.toNat - 0xC0) * 0x40 + (b.toNat - 0x80)) ::
                decodeReplace bs
            else match bs with
              | [] => [replacement]
              | c :: bs =>
                  if !isTail c then replacement :: decodeReplace (c :: bs)
                  else if a.toNat < 0xF0 then
                    Fin.ofNat _ ((a.toNat - 0xE0) * 0x1000 +
                      (b.toNat - 0x80) * 0x40 + (c.toNat - 0x80)) ::
                      decodeReplace bs
                  else match bs with
                    | [] => [replacement]
                    | d :: bs =>
                        if !isTail d then replacement :: decodeReplace (d :: bs)
                        else
                          Fin.ofNat _ ((a.toNat - 0xF0) * 0x40000 +
                            (b.toNat - 0x80) * 0x1000 +
                            (c.toNat - 0x80) * 0x40 + (d.toNat - 0x80)) ::
                            decodeReplace bs

example : decodeReplace [0xF0, 0x9F, 0x98, 0x41, 0xC3, 0xA9, 0xFF] =
    [replacement, 0x41, 0xE9, replacement] := by decide

section Replace

variable {a b c d : UInt8}

theorem decodeReplace_two (ha : 0x80 ≤ a.toNat) (hab : follows a b = true)
    (hlt : a.toNat < 0xE0) (rest : Bytes) :
    decodeReplace (a :: b :: rest) =
      Fin.ofNat _ ((a.toNat - 0xC0) * 0x40 + (b.toNat - 0x80)) ::
        decodeReplace rest := by
  rw [decodeReplace.eq_def]
  dsimp only
  rw [if_neg (Nat.not_lt.mpr ha), hab, if_neg (by decide), if_pos hlt]

theorem decodeReplace_three (ha : 0xE0 ≤ a.toNat) (hab : follows a b = true)
    (hc : isTail c = true) (hlt : a.toNat < 0xF0) (rest : Bytes) :
    decodeReplace (a :: b :: c :: rest) =
      Fin.ofNat _ ((a.toNat - 0xE0) * 0x1000 + (b.toNat - 0x80) * 0x40 +
        (c.toNat - 0x80)) :: decodeReplace rest := by
  have h₁ : ¬ a.toNat < 0x80 := by omega
  rw [decodeReplace.eq_def]
  dsimp only
  rw [if_neg h₁, hab, if_neg (by decide), if_neg (Nat.not_lt.mpr ha), hc,
    if_neg (by decide), if_pos hlt]

theorem decodeReplace_four (ha : 0xF0 ≤ a.toNat) (hab : follows a b = true)
    (hc : isTail c = true) (hd : isTail d = true) (rest : Bytes) :
    decodeReplace (a :: b :: c :: d :: rest) =
      Fin.ofNat _ ((a.toNat - 0xF0) * 0x40000 + (b.toNat - 0x80) * 0x1000 +
        (c.toNat - 0x80) * 0x40 + (d.toNat - 0x80)) :: decodeReplace rest := by
  have h₁ : ¬ a.toNat < 0x80 := by omega
  have h₂ : ¬ a.toNat < 0xE0 := by omega
  rw [decodeReplace.eq_def]
  dsimp only
  rw [if_neg h₁, hab, if_neg (by decide), if_neg h₂, hc, if_neg (by decide),
    if_neg (Nat.not_lt.mpr ha), hd, if_neg (by decide)]

end Replace

theorem decodeReplace_utf8Char {c : CodePoint} (h : isSurrogate c = false)
    (rest : Bytes) :
    decodeReplace (utf8Char c ++ rest) = c :: decodeReplace rest := by
  have hlt := c.isLt
  have hval : ∀ n, n = c.val → Fin.ofNat 0x110000 n = c := by
    rintro n rfl
    exact Fin.ofNat_val_eq_self c
  unfold utf8Char
  split
  · have ha := toNat_ofNat (show c.val < 256 by omega)
    rw [List.singleton_append, decodeReplace.eq_def]
    dsimp only
    rw [ha, if_pos (by omega), hval _ rfl]
  split
  · have ha := toNat_ofNat (show 0xC0 + c.val / 0x40 < 256 by omega)
    have hb := toNat_ofNat (show 0x80 + c.val % 0x40 < 256 by omega)
    refine (decodeReplace_two (by omega) ?_ (by omega) rest).trans ?_
    · simp only [follows, isTail, ha, hb, Bool.and_eq_true, Bool.or_eq_true,
        decide_eq_true_eq]
      omega
    · rw [ha, hb, hval _ (by omega)]
  split
  · have hscalar : ¬ (0xD800 ≤ c.val ∧ c.val ≤ 0xDFFF) := by
      simpa [isSurrogate] using h
    have ha := toNat_ofNat (show 0xE0 + c.val / 0x1000 < 256 by omega)
    have hb := toNat_ofNat (show 0x80 + c.val / 0x40 % 0x40 < 256 by omega)
    have hc := toNat_ofNat (show 0x80 + c.val % 0x40 < 256 by omega)
    refine (decodeReplace_three (by omega) ?_ (isTail_ofNat (by omega)) (by omega)
      rest).trans ?_
    · simp only [follows, isTail, ha, hb, Bool.and_eq_true, Bool.or_eq_true,
        decide_eq_true_eq, beq_iff_eq, bne_iff_ne]
      omega
    · rw [ha, hb, hc, hval _ (by omega)]
  · have ha := toNat_ofNat (show 0xF0 + c.val / 0x40000 < 256 by omega)
    have hb := toNat_ofNat (show 0x80 + c.val / 0x1000 % 0x40 < 256 by omega)
    have hc := toNat_ofNat (show 0x80 + c.val / 0x40 % 0x40 < 256 by omega)
    have hd := toNat_ofNat (show 0x80 + c.val % 0x40 < 256 by omega)
    refine (decodeReplace_four (by omega) ?_ (isTail_ofNat (by omega))
      (isTail_ofNat (by omega)) rest).trans ?_
    · simp only [follows, isTail, ha, hb, Bool.and_eq_true, Bool.or_eq_true,
        decide_eq_true_eq, beq_iff_eq, bne_iff_ne]
      omega
    · rw [ha, hb, hc, hd, hval _ (by omega)]

/-- Nothing is replaced in what was encoded. -/
theorem decodeReplace_encode {s : PyStr} {b : Bytes} (h : encode s = some b) :
    decodeReplace b = s := by
  obtain ⟨hs, rfl⟩ := encode_eq_some.mp h
  clear h
  induction s with
  | nil => rfl
  | cons c s ih =>
      rw [List.flatMap_cons, decodeReplace_utf8Char (hs c List.mem_cons_self),
        ih fun d hd => hs d (List.mem_cons_of_mem c hd)]

end PyStr

/-! ## §2  Components -/

/-- `quote_plus`, for one byte. -/
def quotePlusByte (b : UInt8) : PyStr :=
  if b.toNat = 32 then [43] else percentByte b

/-- `quote_plus(text)`; `none` is the `UnicodeEncodeError`. -/
def quotePlus (text : PyStr) : Option PyStr :=
  text.encode.map fun b => b.flatMap quotePlusByte

/-- `unquote_to_bytes` of ASCII text: a `%` without two hexadecimal digits
stands for itself. -/
def unquoteToBytes : PyStr → Bytes
  | [] => []
  | c :: rest =>
      if c = 37 then
        match rest with
        | [] => [37]
        | [x] => 37 :: unquoteToBytes [x]
        | x :: y :: rest =>
            match hexValue x, hexValue y with
            | some m, some n => UInt8.ofNat (m * 16 + n) :: unquoteToBytes rest
            | _, _ => 37 :: unquoteToBytes (x :: y :: rest)
      else UInt8.ofNat c.val :: unquoteToBytes rest

/-- The ASCII runs of a text, decoded, with the other characters between
them; `run` is the run so far. -/
def unquoteRuns (run : PyStr) : PyStr → PyStr
  | [] => PyStr.decodeReplace (unquoteToBytes run)
  | c :: rest =>
      if c.val < 128 then unquoteRuns (run ++ [c]) rest
      else PyStr.decodeReplace (unquoteToBytes run) ++ c :: unquoteRuns [] rest

/-- `unquote(text)`, with its `errors="replace"`. -/
def unquoteReplace (text : PyStr) : PyStr := unquoteRuns [] text

/-- `text.replace("+", " ")`. -/
def plusToSpace (text : PyStr) : PyStr :=
  text.map fun c => if c = 43 then 32 else c

/-! ## §3  Fields -/

/-- `&` between the fields. -/
def joinFields (fields : List PyStr) : PyStr := [38].intercalate fields

def urlencodeField (field : PyStr × PyStr) : Option PyStr := do
  let name ← quotePlus field.1
  let value ← quotePlus field.2
  pure (name ++ 61 :: value)

/-- `urlencode` of a `dict`. -/
def urlencode (fields : List (PyStr × PyStr)) : Option PyStr :=
  (fields.mapM urlencodeField).map joinFields

/-- A field of a query: nothing, or a name with the value behind the first
`=`, a blank one if there is none. -/
def parseField (text : PyStr) : Option (PyStr × PyStr) :=
  if text.isEmpty then none
  else
    let name := text.takeWhile (· != 61)
    let value := (text.dropWhile (· != 61)).tail
    some (unquoteReplace (plusToSpace name), unquoteReplace (plusToSpace value))

/-- `parse_qsl(query, keep_blank_values=True)`. -/
def parseQsl (query : PyStr) : List (PyStr × PyStr) :=
  (query.splitOn 38).filterMap parseField

/-- `QueryParams.get`: the last of the values. -/
def queryParam (fields : List (PyStr × PyStr)) (name : PyStr) : Option PyStr :=
  (fields.reverse.find? fun field => field.1 == name).map Prod.snd

/-! ## §4  The round trip -/

section RoundTrip

variable {text query name value : PyStr} {b : Bytes} {fields : List (PyStr × PyStr)}

theorem mem_quotePlusByte {b : UInt8} {c : CodePoint} (h : c ∈ quotePlusByte b) :
    c.val < 128 ∧ c.val ≠ 38 ∧ c.val ≠ 61 := by
  unfold quotePlusByte at h
  split at h
  · rw [List.mem_singleton.mp h]
    decide
  unfold percentByte at h
  split at h
  · rename_i hunreserved
    have hbounds := isUnreserved_bounds hunreserved
    rw [List.mem_singleton.mp h, val_ofNat_of_lt hbounds.1]
    simp only [isUnreserved, Bool.or_eq_true, Bool.and_eq_true, decide_eq_true_eq,
      beq_iff_eq] at hunreserved
    omega
  · have hall : ∀ m : Fin 16, (upperHexDigit m.val).val < 128 ∧
        (upperHexDigit m.val).val ≠ 38 ∧ (upperHexDigit m.val).val ≠ 61 := by decide
    have hb := b.toNat_lt
    simp only [List.mem_cons, List.not_mem_nil, or_false] at h
    rcases h with rfl | rfl | rfl
    · decide
    · exact hall ⟨b.toNat / 16, by omega⟩
    · exact hall ⟨b.toNat % 16, by omega⟩

theorem mem_quotePlus (h : quotePlus text = some query) {c : CodePoint}
    (hc : c ∈ query) : c.val < 128 ∧ c.val ≠ 38 ∧ c.val ≠ 61 := by
  obtain ⟨b, -, rfl⟩ := Option.map_eq_some_iff.mp h
  obtain ⟨x, -, hx⟩ := List.mem_flatMap.mp hc
  exact mem_quotePlusByte hx

theorem plusToSpace_append (a b : PyStr) :
    plusToSpace (a ++ b) = plusToSpace a ++ plusToSpace b := List.map_append

theorem plusToSpace_of_not_mem (h : 43 ∉ text) : plusToSpace text = text := by
  unfold plusToSpace
  refine (List.map_congr_left fun c hc => ?_).trans (List.map_id _)
  have hne : c ≠ 43 := fun heq => h (heq ▸ hc)
  simp [hne]

theorem unquoteToBytes_plain {c : CodePoint} (h : c ≠ 37) (rest : PyStr) :
    unquoteToBytes (c :: rest) = UInt8.ofNat c.val :: unquoteToBytes rest := by
  rw [unquoteToBytes.eq_def]
  exact if_neg h

/-- A `+` is a space before anything is decoded, so an encoded `+` is none. -/
theorem unquoteToBytes_byte (b : UInt8) (rest : PyStr) :
    unquoteToBytes (plusToSpace (quotePlusByte b) ++ rest) =
      b :: unquoteToBytes rest := by
  have hb := b.toNat_lt
  unfold quotePlusByte
  split
  · rename_i hspace
    have hb : b = 32 := UInt8.toNat_inj.mp hspace
    subst hb
    exact unquoteToBytes_plain (c := 32) (by decide) rest
  unfold percentByte
  split
  · rename_i hunreserved
    obtain ⟨hlt, hpercent, -⟩ := isUnreserved_bounds hunreserved
    have hval := val_ofNat_of_lt hlt
    have hplus : b.toNat ≠ 43 := by
      simp only [isUnreserved, Bool.or_eq_true, Bool.and_eq_true,
        decide_eq_true_eq, beq_iff_eq] at hunreserved
      omega
    have hne : ∀ n : CodePoint, b.toNat ≠ n.val → Fin.ofNat _ b.toNat ≠ n := by
      intro n hn heq
      exact hn (hval.symm.trans (congrArg Fin.val heq))
    have hkeep : plusToSpace [Fin.ofNat _ b.toNat] = [Fin.ofNat _ b.toNat] := by
      refine plusToSpace_of_not_mem ?_
      rw [List.mem_singleton]
      exact (hne 43 hplus).symm
    rw [hkeep, List.singleton_append, unquoteToBytes_plain (hne 37 hpercent), hval,
      UInt8.ofNat_toNat]
  · have hx := hexValue_upperHexDigit (show b.toNat / 16 < 16 by omega)
    have hy := hexValue_upperHexDigit (show b.toNat % 16 < 16 by omega)
    have hplus : ∀ n, n < 16 → upperHexDigit n ≠ 43 := by
      intro n hn heq
      have hdigit := hexValue_upperHexDigit hn
      rw [heq] at hdigit
      exact absurd hdigit (by simp [show hexValue 43 = none from by decide])
    have hkeep : plusToSpace
        [37, upperHexDigit (b.toNat / 16), upperHexDigit (b.toNat % 16)] =
          [37, upperHexDigit (b.toNat / 16), upperHexDigit (b.toNat % 16)] := by
      refine plusToSpace_of_not_mem ?_
      simp only [List.mem_cons, List.not_mem_nil, or_false, not_or]
      exact ⟨by decide, (hplus _ (by omega)).symm, (hplus _ (by omega)).symm⟩
    have hsum : b.toNat / 16 * 16 + b.toNat % 16 = b.toNat := by omega
    rw [hkeep, List.cons_append, List.cons_append, List.singleton_append,
      unquoteToBytes.eq_def]
    dsimp only
    rw [if_pos rfl, hx, hy]
    simp only [hsum, UInt8.ofNat_toNat]

theorem unquoteToBytes_quoted (b : Bytes) :
    unquoteToBytes (plusToSpace (b.flatMap quotePlusByte)) = b := by
  induction b with
  | nil => rfl
  | cons b rest ih =>
      rw [List.flatMap_cons, plusToSpace_append, unquoteToBytes_byte, ih]

theorem unquoteRuns_ascii (h : ∀ c ∈ text, c.val < 128) (run : PyStr) :
    unquoteRuns run text = PyStr.decodeReplace (unquoteToBytes (run ++ text)) := by
  induction text generalizing run with
  | nil => rw [List.append_nil, unquoteRuns]
  | cons c rest ih =>
      rw [unquoteRuns, if_pos (h c List.mem_cons_self),
        ih fun d hd => h d (List.mem_cons_of_mem c hd), List.append_assoc,
        List.singleton_append]

/-- A component is read back. -/
theorem unquoteReplace_quotePlus (h : quotePlus text = some query) :
    unquoteReplace (plusToSpace query) = text := by
  have hascii : ∀ c ∈ plusToSpace query, c.val < 128 := by
    intro c hc
    obtain ⟨d, hd, rfl⟩ := List.mem_map.mp hc
    have hlt := (mem_quotePlus h hd).1
    split
    · decide
    · exact hlt
  obtain ⟨b, hb, rfl⟩ := Option.map_eq_some_iff.mp h
  rw [unquoteReplace, unquoteRuns_ascii hascii, List.nil_append,
    unquoteToBytes_quoted, PyStr.decodeReplace_encode hb]

theorem takeWhile_field (h : ∀ c ∈ name, c.val ≠ 61) :
    (name ++ 61 :: value).takeWhile (· != 61) = name ∧
      (name ++ 61 :: value).dropWhile (· != 61) = 61 :: value := by
  have hall : ∀ c ∈ name, (c != 61) = true := by
    intro c hc
    rw [bne_iff_ne]
    rintro rfl
    exact h 61 hc rfl
  constructor
  · rw [List.takeWhile_append_of_pos hall]
    simp
  · rw [List.dropWhile_append_of_pos hall]
    simp

/-- A field is read back. -/
theorem parseField_urlencodeField {field : PyStr × PyStr}
    (h : urlencodeField field = some text) : parseField text = some field := by
  simp only [urlencodeField, Option.bind_eq_bind, Option.bind_eq_some_iff] at h
  obtain ⟨name, hname, value, hvalue, h⟩ := h
  cases h
  have hsplit : (name ++ 61 :: value).takeWhile (· != 61) = name ∧
      (name ++ 61 :: value).dropWhile (· != 61) = 61 :: value :=
    takeWhile_field fun c hc => (mem_quotePlus hname hc).2.2
  have hfull : (name ++ 61 :: value).isEmpty = false := by cases name <;> rfl
  rw [parseField, hfull, if_neg Bool.false_ne_true, hsplit.1, hsplit.2]
  show some (unquoteReplace (plusToSpace name), unquoteReplace (plusToSpace value)) = _
  rw [unquoteReplace_quotePlus hname, unquoteReplace_quotePlus hvalue]

theorem amp_not_mem_field {field : PyStr × PyStr}
    (h : urlencodeField field = some text) : 38 ∉ text := by
  simp only [urlencodeField, Option.bind_eq_bind, Option.bind_eq_some_iff] at h
  obtain ⟨name, hname, value, hvalue, h⟩ := h
  cases h
  intro hmem
  rcases List.mem_append.mp hmem with hmem | hmem
  · exact (mem_quotePlus hname hmem).2.1 rfl
  · rcases List.mem_cons.mp hmem with heq | hmem
    · exact absurd heq (by decide)
    · exact (mem_quotePlus hvalue hmem).2.1 rfl

theorem parseField_fields {texts : List PyStr}
    (h : fields.mapM urlencodeField = some texts) :
    texts.filterMap parseField = fields ∧ ∀ text ∈ texts, 38 ∉ text := by
  induction fields generalizing texts with
  | nil =>
      cases h
      exact ⟨rfl, fun text htext => absurd htext List.not_mem_nil⟩
  | cons field rest ih =>
      simp only [List.mapM_cons, Option.bind_eq_bind, Option.bind_eq_some_iff] at h
      obtain ⟨text, htext, texts', hrest, h⟩ := h
      cases h
      obtain ⟨hfields, hamp⟩ := ih hrest
      refine ⟨?_, ?_⟩
      · rw [List.filterMap_cons, parseField_urlencodeField htext]
        exact congrArg (field :: ·) hfields
      · intro other hother
        rcases List.mem_cons.mp hother with rfl | hother
        · exact amp_not_mem_field htext
        · exact hamp other hother

/-- What `urlencode` writes is read back, in order. -/
theorem parseQsl_urlencode (h : urlencode fields = some query) :
    parseQsl query = fields := by
  obtain ⟨texts, htexts, rfl⟩ := Option.map_eq_some_iff.mp h
  obtain ⟨hfields, hamp⟩ := parseField_fields htexts
  by_cases hnil : texts = []
  · subst hnil
    exact hfields
  · rw [parseQsl, joinFields, List.splitOn_intercalate 38 hamp hnil, hfields]

/-- Text without surrogates can be written. -/
theorem urlencode_scalar (h : ∀ field ∈ fields, PyStr.Scalar field.1 ∧
    PyStr.Scalar field.2) : ∃ query, urlencode fields = some query := by
  have hquote : ∀ text : PyStr, PyStr.Scalar text → ∃ query,
      quotePlus text = some query := by
    intro text htext
    have hencode := PyStr.encode_eq_some.mpr ⟨htext, rfl⟩
    exact ⟨_, by rw [quotePlus, hencode, Option.map_some]⟩
  have htexts : ∃ texts, fields.mapM urlencodeField = some texts := by
    induction fields with
    | nil => exact ⟨[], rfl⟩
    | cons field rest ih =>
        obtain ⟨texts, htexts⟩ := ih fun other hother =>
          h other (List.mem_cons_of_mem _ hother)
        obtain ⟨hname, hvalue⟩ := h field List.mem_cons_self
        obtain ⟨name, hname⟩ := hquote _ hname
        obtain ⟨value, hvalue⟩ := hquote _ hvalue
        exact ⟨_, by
          simp only [List.mapM_cons, urlencodeField, hname, hvalue, htexts,
            Option.bind_eq_bind, Option.bind_some]
          rfl⟩
  obtain ⟨texts, htexts⟩ := htexts
  exact ⟨joinFields texts, by rw [urlencode, htexts, Option.map_some]⟩

end RoundTrip

end LeakcheckHub.Foundation
