import LeakcheckHub.Foundation.Outcome
import LeakcheckHub.Foundation.Utf8
import Mathlib.Data.List.Basic

/-!
# Normalization

The functions of `app/normalization.py` that findings are built with. A
failure carries the text of its `NormalizationError`.

§1 the functions · §2 the texts they accept · §3 the optional ones ·
§4 encodable results.
-/

namespace LeakcheckHub.Normalization

open Foundation

/-! ## §1  The functions -/

abbrev Result : Type := Except String PyStr

variable (U : UnicodeData)

/-- `_text`. -/
def text (value : PyStr) : Result :=
  let normalized := (U.nfkc value).strip
  if normalized.isEmpty || normalized.any fun c => !U.isPrintable c then
    .error "value must be non-empty printable text"
  else .ok normalized

/-- `_bounded`. -/
def bounded (value : PyStr) (maximum : ℕ) : Result :=
  if maximum < value.length then .error "value is too long" else .ok value

def isAsciiAlnum (c : CodePoint) : Bool :=
  (48 ≤ c.val && c.val ≤ 57) || (65 ≤ c.val && c.val ≤ 90) ||
    (97 ≤ c.val && c.val ≤ 122)

def dot : CodePoint := PyStr.ofChar '.'

def hyphen : CodePoint := PyStr.ofChar '-'

def commercialAt : CodePoint := PyStr.ofChar '@'

def validLabel (label : PyStr) : Bool :=
  !label.isEmpty && decide (label.length ≤ 63) &&
    label.head? != some hyphen && label.getLast? != some hyphen &&
    label.all fun c => isAsciiAlnum c || c == hyphen

/-- The codec encodes to ASCII, so `isalnum` is asked of ASCII only. -/
def normalizeDomain (value : PyStr) : Result := do
  let value ← text U value
  let domain := ((U.casefold value).reverse.dropWhile (· == dot)).reverse
  match U.idna domain with
  | none => .error "domain is invalid"
  | some normalized =>
      let labels := normalized.splitOn dot
      if 253 < normalized.length || labels.length < 2 ||
          !labels.all validLabel then
        .error "domain is invalid"
      else .ok normalized

def normalizeEmail (value : PyStr) : Result := do
  let value ← text U value
  let value ← bounded (U.casefold value) 320
  if value.count commercialAt ≠ 1 then .error "email must contain one @"
  else
    let name := value.takeWhile (· != commercialAt)
    if name.isEmpty || name.any PyStr.isSpace then
      .error "email local part is invalid"
    else
      let domain ←
        normalizeDomain U ((value.dropWhile (· != commercialAt)).drop 1)
      .ok (name ++ [commercialAt] ++ domain)

/-- `normalize_subject` of an `EMAIL`; the value is displayed as it is
stored. -/
def normalizeEmailSubject (value : PyStr) : Result := do
  let value ← text U value
  normalizeEmail U value

/-- `_PHONE`: a plus sign and 8 to 15 digits, the first not 0. -/
def matchesPhone (s : PyStr) : Bool :=
  match s with
  | plus :: first :: rest =>
      plus == PyStr.ofChar '+' && (49 ≤ first.val && first.val ≤ 57) &&
        (7 ≤ rest.length && rest.length ≤ 14) &&
        rest.all fun c => 48 ≤ c.val && c.val ≤ 57
  | _ => false

def normalizePhone (value : PyStr) : Result := do
  let value ← text U value
  let compact := value.filter fun c =>
    !(PyStr.isSpace c || (PyStr.lit "().-").contains c)
  if matchesPhone compact then .ok compact
  else .error "phone must be an E.164 number including country code"

/-- The value a vendor row gets that is not a valid one of its kind. -/
def historical (value : PyStr) (maximum : ℕ) : Result := do
  let value ← text U value
  bounded (U.casefold value) maximum

/-- The shape of the three optional normalizers: nothing for an absent value,
`normalize`, and the text itself where that fails. -/
def normalizeOptional (normalize : PyStr → Result) (maximum : ℕ) :
    Option PyStr → Result
  | none => .ok []
  | some value =>
      if value.isEmpty then .ok []
      else
        match normalize value with
        | .ok normalized => .ok normalized
        | .error _ => historical U value maximum

def normalizeOptionalEmail : Option PyStr → Result :=
  normalizeOptional U (normalizeEmail U) 320

def normalizeOptionalPhone : Option PyStr → Result :=
  normalizeOptional U (normalizePhone U) 64

/-- Usernames have no format of their own. -/
def normalizeOptionalUsername : Option PyStr → Result
  | none => .ok []
  | some value => if value.isEmpty then .ok [] else historical U value 1024

/-! ## §2  The texts they accept -/

/-- A value in NFKC without surrounding space. -/
def canonical (value : PyStr) : PyStr := (U.nfkc value).strip

/-- Something is left of it, all of it printable. -/
def Readable (value : PyStr) : Prop :=
  canonical U value ≠ [] ∧ ∀ c ∈ canonical U value, U.isPrintable c = true

/-- And not longer than `maximum` with its case folded. -/
def Foldable (maximum : ℕ) (value : PyStr) : Prop :=
  Readable U value ∧ (U.casefold (canonical U value)).length ≤ maximum

/-- Without spaces, dots, parentheses and hyphens. -/
def compactPhone (value : PyStr) : PyStr :=
  value.filter fun c => !(PyStr.isSpace c || (PyStr.lit "().-").contains c)

instance (value : PyStr) : Decidable (Readable U value) :=
  decidable_of_iff (canonical U value ≠ [] ∧
      (canonical U value).all U.isPrintable = true)
    (and_congr_right fun _ => List.all_eq_true)

instance (maximum : ℕ) (value : PyStr) :
    Decidable (Foldable U maximum value) :=
  inferInstanceAs (Decidable (_ ∧ _))

variable {U} {value s : PyStr} {maximum : ℕ}

theorem text_eq_ok :
    text U value = .ok s ↔ Readable U value ∧ s = canonical U value := by
  have hreadable : (canonical U value).isEmpty = true ∨
      ((canonical U value).any fun c => !U.isPrintable c) = true ↔
        ¬ Readable U value := by
    rw [Readable, List.isEmpty_iff, List.any_eq_true, not_and_or, not_not]
    simp
  unfold text
  dsimp only
  split
  · rename_i hbad
    rw [Bool.or_eq_true] at hbad
    constructor
    · intro h
      cases h
    · rintro ⟨h, -⟩
      exact absurd h (hreadable.mp hbad)
  · rename_i hgood
    rw [Bool.or_eq_true] at hgood
    have h := not_not.mp (mt hreadable.mpr hgood)
    rw [Except.ok.injEq]
    exact ⟨fun heq => ⟨h, heq.symm⟩, fun heq => heq.2.symm⟩

theorem bounded_eq_ok :
    bounded value maximum = .ok s ↔ value.length ≤ maximum ∧ s = value := by
  unfold bounded
  split
  · rename_i hlong
    constructor
    · intro h
      cases h
    · rintro ⟨h, -⟩
      omega
  · rename_i hfits
    rw [Except.ok.injEq]
    exact ⟨fun heq => ⟨by omega, heq.symm⟩, fun heq => heq.2.symm⟩

theorem historical_eq_ok :
    historical U value maximum = .ok s ↔
      Foldable U maximum value ∧ s = U.casefold (canonical U value) := by
  unfold historical
  rw [bind_eq_ok]
  constructor
  · rintro ⟨t, ht, h⟩
    obtain ⟨hreadable, rfl⟩ := text_eq_ok.mp ht
    obtain ⟨hlen, rfl⟩ := bounded_eq_ok.mp h
    exact ⟨⟨hreadable, hlen⟩, rfl⟩
  · rintro ⟨⟨hreadable, hlen⟩, rfl⟩
    exact ⟨_, text_eq_ok.mpr ⟨hreadable, rfl⟩, bounded_eq_ok.mpr ⟨hlen, rfl⟩⟩

theorem normalizePhone_eq_ok :
    normalizePhone U value = .ok s ↔ Readable U value ∧
      matchesPhone (compactPhone (canonical U value)) = true ∧
        s = compactPhone (canonical U value) := by
  unfold normalizePhone
  rw [bind_eq_ok]
  constructor
  · rintro ⟨t, ht, h⟩
    obtain ⟨hreadable, rfl⟩ := text_eq_ok.mp ht
    dsimp only at h
    split at h
    · rename_i hmatch
      cases h
      exact ⟨hreadable, hmatch, rfl⟩
    · cases h
  · rintro ⟨hreadable, hmatch, rfl⟩
    exact ⟨_, text_eq_ok.mpr ⟨hreadable, rfl⟩, if_pos hmatch⟩

theorem mem_intercalate {sep : PyStr} {c : CodePoint} :
    ∀ {labels : List PyStr}, c ∈ sep.intercalate labels →
      c ∈ sep ∨ ∃ label ∈ labels, c ∈ label
  | [], h => nomatch h
  | [label], h => by
      rw [List.intercalate_singleton] at h
      exact .inr ⟨label, List.mem_cons_self, h⟩
  | label :: next :: labels, h => by
      rw [List.intercalate_cons_cons, List.mem_append, List.mem_append] at h
      rcases h with (h | h) | h
      · exact .inr ⟨label, List.mem_cons_self, h⟩
      · exact .inl h
      · rcases mem_intercalate h with h | ⟨l, hl, h⟩
        · exact .inl h
        · exact .inr ⟨l, List.mem_cons_of_mem _ hl, h⟩

theorem mem_validLabel (h : validLabel s = true) :
    ∀ c ∈ s, isAsciiAlnum c = true ∨ c = hyphen := by
  intro c hc
  have hall := (Bool.and_eq_true_iff.mp h).2
  have hmem := List.all_eq_true.mp hall c hc
  rwa [Bool.or_eq_true, beq_iff_eq] at hmem

/-- `rstrip(".")`. -/
def undotted (domain : PyStr) : PyStr :=
  (domain.reverse.dropWhile (· == dot)).reverse

/-- A host name of at least two labels. -/
def isHost (domain : PyStr) : Bool :=
  decide (domain.length ≤ 253) && decide (2 ≤ (domain.splitOn dot).length) &&
    (domain.splitOn dot).all validLabel

theorem normalizeDomain_eq_ok :
    normalizeDomain U value = .ok s ↔ Readable U value ∧
      U.idna (undotted (U.casefold (canonical U value))) = some s ∧
        isHost s = true := by
  unfold normalizeDomain
  rw [bind_eq_ok]
  constructor
  · rintro ⟨t, ht, h⟩
    obtain ⟨hreadable, rfl⟩ := text_eq_ok.mp ht
    dsimp only at h
    split at h
    · cases h
    · rename_i encoded hidna
      split at h
      · cases h
      · rename_i hvalid
        cases h
        refine ⟨hreadable, hidna, ?_⟩
        simp only [Bool.or_eq_true, decide_eq_true_eq, Bool.not_eq_true',
          not_or, Nat.not_lt, Bool.not_eq_false] at hvalid
        simp only [isHost, Bool.and_eq_true, decide_eq_true_eq]
        exact hvalid
  · rintro ⟨hreadable, hidna, hhost⟩
    refine ⟨_, text_eq_ok.mpr ⟨hreadable, rfl⟩, ?_⟩
    rw [undotted] at hidna
    simp only [isHost, Bool.and_eq_true, decide_eq_true_eq] at hhost
    simp only [hidna]
    refine if_neg ?_
    simp only [Bool.or_eq_true, decide_eq_true_eq, Bool.not_eq_true',
      not_or, Nat.not_lt, Bool.not_eq_false]
    exact hhost

theorem mem_isHost (h : isHost s = true) :
    ∀ c ∈ s, isAsciiAlnum c = true ∨ c = hyphen ∨ c = dot := by
  intro c hc
  have hsplit : [dot].intercalate (s.splitOn dot) = s :=
    List.intercalate_splitOn dot
  rw [← hsplit] at hc
  rcases mem_intercalate hc with hc | ⟨label, hlabel, hc⟩
  · exact .inr (.inr (List.mem_singleton.mp hc))
  · have hlabels := List.all_eq_true.mp (Bool.and_eq_true_iff.mp h).2
    rcases mem_validLabel (hlabels label hlabel) c hc with halnum | hhyphen
    · exact .inl halnum
    · exact .inr (.inl hhyphen)

/-- The visible characters of ASCII. -/
def Visible (s : PyStr) : Prop := ∀ c ∈ s, 33 ≤ c.val ∧ c.val ≤ 126

theorem visible_of_isHost (h : isHost s = true) : Visible s := by
  intro c hc
  rcases mem_isHost h c hc with halnum | rfl | rfl
  · simp only [isAsciiAlnum, Bool.or_eq_true, Bool.and_eq_true,
      decide_eq_true_eq] at halnum
    omega
  · decide
  · decide

theorem Visible.ascii (h : Visible s) : ∀ c ∈ s, c.val < 128 := by
  intro c hc
  have hvisible := h c hc
  omega

/-- A domain is short ASCII. -/
theorem normalizeDomain_spec (h : normalizeDomain U value = .ok s) :
    (∀ c ∈ s, c.val < 128) ∧ s.length ≤ 253 := by
  obtain ⟨-, -, hhost⟩ := normalizeDomain_eq_ok.mp h
  refine ⟨(visible_of_isHost hhost).ascii, ?_⟩
  simp only [isHost, Bool.and_eq_true, decide_eq_true_eq] at hhost
  exact hhost.1.1

/-- The text before the at sign. -/
def localPart (email : PyStr) : PyStr := email.takeWhile (· != commercialAt)

/-- The text after it. -/
def domainPart (email : PyStr) : PyStr :=
  (email.dropWhile (· != commercialAt)).drop 1

/-- One at sign, and a local part without spaces before it. -/
def hasLocalPart (email : PyStr) : Bool :=
  decide (email.count commercialAt = 1) && !(localPart email).isEmpty &&
    !(localPart email).any PyStr.isSpace

theorem normalizeEmail_eq_ok :
    normalizeEmail U value = .ok s ↔ Foldable U 320 value ∧
      hasLocalPart (U.casefold (canonical U value)) = true ∧
        ∃ domain, normalizeDomain U
            (domainPart (U.casefold (canonical U value))) = .ok domain ∧
          s = localPart (U.casefold (canonical U value)) ++
            [commercialAt] ++ domain := by
  unfold normalizeEmail
  rw [bind_eq_ok]
  constructor
  · rintro ⟨t, ht, h⟩
    obtain ⟨hreadable, rfl⟩ := text_eq_ok.mp ht
    obtain ⟨folded, hfolded, h⟩ := bind_eq_ok.mp h
    obtain ⟨hlen, rfl⟩ := bounded_eq_ok.mp hfolded
    split at h
    · cases h
    · rename_i hat
      dsimp only at h
      split at h
      · cases h
      · rename_i hname
        obtain ⟨domain, hdomain, h⟩ := bind_eq_ok.mp h
        cases h
        refine ⟨⟨hreadable, hlen⟩, ?_, domain, hdomain, rfl⟩
        rw [Bool.or_eq_true, not_or, Bool.not_eq_true, Bool.not_eq_true]
          at hname
        rw [hasLocalPart, localPart, hname.1, hname.2,
          decide_eq_true (not_not.mp hat)]
        rfl
  · rintro ⟨⟨hreadable, hlen⟩, hlocal, domain, hdomain, rfl⟩
    simp only [hasLocalPart, localPart, Bool.and_eq_true, decide_eq_true_eq,
      Bool.not_eq_true'] at hlocal
    obtain ⟨⟨hat, hne⟩, hspaces⟩ := hlocal
    refine ⟨_, text_eq_ok.mpr ⟨hreadable, rfl⟩,
      bind_eq_ok.mpr ⟨_, bounded_eq_ok.mpr ⟨hlen, rfl⟩, ?_⟩⟩
    rw [if_neg (not_not.mpr hat)]
    simp only [hne, hspaces, Bool.or_self, Bool.false_eq_true, if_false]
    exact bind_eq_ok.mpr ⟨domain, hdomain, rfl⟩

/-- An email is a part of the folded text, an at sign and a domain. -/
theorem normalizeEmail_spec (h : normalizeEmail U value = .ok s) :
    Foldable U 320 value ∧ ∃ domain, (∀ c ∈ domain, c.val < 128) ∧
      domain.length ≤ 253 ∧ s = (U.casefold (canonical U value)).takeWhile
        (· != commercialAt) ++ [commercialAt] ++ domain := by
  obtain ⟨hfoldable, -, domain, hdomain, rfl⟩ := normalizeEmail_eq_ok.mp h
  obtain ⟨hascii, hshort⟩ := normalizeDomain_spec hdomain
  exact ⟨hfoldable, domain, hascii, hshort, rfl⟩

theorem normalizeEmailSubject_eq_ok :
    normalizeEmailSubject U value = .ok s ↔ Readable U value ∧
      normalizeEmail U (canonical U value) = .ok s := by
  unfold normalizeEmailSubject
  rw [bind_eq_ok]
  constructor
  · rintro ⟨t, ht, h⟩
    obtain ⟨hreadable, rfl⟩ := text_eq_ok.mp ht
    exact ⟨hreadable, h⟩
  · rintro ⟨hreadable, h⟩
    exact ⟨_, text_eq_ok.mpr ⟨hreadable, rfl⟩, h⟩

/-! ## §3  The optional ones -/

section Optional

variable {optional : Option PyStr → Result} {run : PyStr → Result}
  {value : Option PyStr}

/-- No value and an empty one become empty; `run` does the others. -/
theorem optional_succeeds (hnone : optional none = .ok [])
    (hsome : ∀ v, optional (some v) = if v.isEmpty then .ok [] else run v) :
    (∃ s, optional value = .ok s) ↔
      ∀ v ∈ value, v ≠ [] → ∃ s, run v = .ok s := by
  cases value with
  | none => exact ⟨fun _ v hv => (nomatch hv), fun _ => ⟨[], hnone⟩⟩
  | some v =>
      simp only [Option.mem_some_iff, forall_eq', hsome]
      split
      · rename_i hempty
        exact ⟨fun _ hne => absurd (List.isEmpty_iff.mp hempty) hne,
          fun _ => ⟨[], rfl⟩⟩
      · rename_i hne
        rw [List.isEmpty_iff] at hne
        exact ⟨fun h _ => h, fun h => h hne⟩

theorem optional_cases (hnone : optional none = .ok [])
    (hsome : ∀ v, optional (some v) = if v.isEmpty then .ok [] else run v)
    (h : optional value = .ok s) : s = [] ∨ ∃ v, run v = .ok s := by
  cases value with
  | none =>
      rw [hnone] at h
      cases h
      exact .inl rfl
  | some v =>
      rw [hsome] at h
      split at h
      · cases h
        exact .inl rfl
      · exact .inr ⟨v, h⟩

end Optional

theorem normalizeOptional_succeeds {normalize : PyStr → Result}
    {value : Option PyStr} :
    (∃ s, normalizeOptional U normalize maximum value = .ok s) ↔
      ∀ v ∈ value, v ≠ [] → (∃ s, normalize v = .ok s) ∨
        Foldable U maximum v := by
  refine (optional_succeeds rfl fun v => rfl).trans ?_
  refine forall₂_congr fun v _ => imp_congr_right fun _ => ?_
  split
  · rename_i s hs
    exact ⟨fun _ => .inl ⟨s, hs⟩, fun _ => ⟨s, rfl⟩⟩
  · rename_i message hmessage
    constructor
    · rintro ⟨s, hs⟩
      exact .inr (historical_eq_ok.mp hs).1
    · rintro (⟨s, hs⟩ | hfold)
      · rw [hmessage] at hs
        cases hs
      · exact ⟨_, historical_eq_ok.mpr ⟨hfold, rfl⟩⟩

theorem normalizeOptionalEmail_succeeds {value : Option PyStr} :
    (∃ s, normalizeOptionalEmail U value = .ok s) ↔
      ∀ v ∈ value, v ≠ [] → Foldable U 320 v := by
  unfold normalizeOptionalEmail
  rw [normalizeOptional_succeeds]
  refine forall₂_congr fun v _ => imp_congr_right fun _ => ?_
  constructor
  · rintro (⟨s, hs⟩ | h)
    · exact (normalizeEmail_spec hs).1
    · exact h
  · exact .inr

theorem normalizeOptionalPhone_succeeds {value : Option PyStr} :
    (∃ s, normalizeOptionalPhone U value = .ok s) ↔
      ∀ v ∈ value, v ≠ [] → Readable U v ∧
        (matchesPhone (compactPhone (canonical U v)) = true ∨
          (U.casefold (canonical U v)).length ≤ 64) := by
  unfold normalizeOptionalPhone
  rw [normalizeOptional_succeeds]
  refine forall₂_congr fun v _ => imp_congr_right fun _ => ?_
  constructor
  · rintro (⟨s, hs⟩ | ⟨hreadable, hlen⟩)
    · obtain ⟨hreadable, hmatch, -⟩ := normalizePhone_eq_ok.mp hs
      exact ⟨hreadable, .inl hmatch⟩
    · exact ⟨hreadable, .inr hlen⟩
  · rintro ⟨hreadable, hmatch | hlen⟩
    · exact .inl ⟨_, normalizePhone_eq_ok.mpr ⟨hreadable, hmatch, rfl⟩⟩
    · exact .inr ⟨hreadable, hlen⟩

theorem normalizeOptionalUsername_succeeds {value : Option PyStr} :
    (∃ s, normalizeOptionalUsername U value = .ok s) ↔
      ∀ v ∈ value, v ≠ [] → Foldable U 1024 v := by
  refine (optional_succeeds rfl fun v => rfl).trans ?_
  refine forall₂_congr fun v _ => imp_congr_right fun _ => ?_
  constructor
  · rintro ⟨s, hs⟩
    exact (historical_eq_ok.mp hs).1
  · intro h
    exact ⟨_, historical_eq_ok.mpr ⟨h, rfl⟩⟩

/-! ## §4  Encodable results -/

/-- What the Unicode database documents of its tables: a surrogate is not
printable, and case folding makes at most three characters of one, none of
them a surrogate unless one was there. -/
structure Documented (U : UnicodeData) : Prop where
  surrogates : ∀ c, PyStr.isSurrogate c = true → U.isPrintable c = false
  scalar : ∀ s, PyStr.Scalar s → PyStr.Scalar (U.casefold s)
  expansion : ∀ s, (U.casefold s).length ≤ 3 * s.length

/-- Text with an encoding, of at most `n` characters. -/
def Encodable (n : ℕ) (s : PyStr) : Prop := PyStr.Scalar s ∧ s.length ≤ n

theorem Encodable.mono {m n : ℕ} (h : Encodable m s) (hmn : m ≤ n) :
    Encodable n s := ⟨h.1, Nat.le_trans h.2 hmn⟩

theorem encodable_nil (n : ℕ) : Encodable n [] :=
  ⟨fun _ hc => (nomatch hc), Nat.zero_le n⟩

theorem Readable.scalar (hU : Documented U) (h : Readable U value) :
    PyStr.Scalar (canonical U value) := by
  intro c hc
  by_contra hsurrogate
  have hprintable := h.2 c hc
  rw [hU.surrogates c (Bool.of_not_eq_false hsurrogate)] at hprintable
  cases hprintable

theorem historical_encodable (hU : Documented U)
    (h : historical U value maximum = .ok s) : Encodable maximum s := by
  obtain ⟨⟨hreadable, hlen⟩, rfl⟩ := historical_eq_ok.mp h
  exact ⟨hU.scalar _ (hreadable.scalar hU), hlen⟩

theorem normalizeEmail_encodable (hU : Documented U)
    (h : normalizeEmail U value = .ok s) : Encodable 1024 s := by
  obtain ⟨⟨hreadable, hlen⟩, domain, hascii, hshort, rfl⟩ :=
    normalizeEmail_spec h
  have hfolded := hU.scalar _ (hreadable.scalar hU)
  constructor
  · refine (PyStr.Scalar.append ?_ ?_).append (PyStr.scalar_of_ascii hascii)
    · intro c hc
      exact hfolded c (List.takeWhile_subset _ hc)
    · refine PyStr.scalar_of_ascii fun c hc => ?_
      rw [List.mem_singleton.mp hc]
      decide
  · have hname : ((U.casefold (canonical U value)).takeWhile
        (· != commercialAt)).length ≤ (U.casefold (canonical U value)).length :=
      (List.takeWhile_prefix _).length_le
    simp only [List.length_append, List.length_singleton]
    omega

theorem normalizePhone_encodable (hU : Documented U)
    (h : normalizePhone U value = .ok s) : Encodable 1024 s := by
  obtain ⟨hreadable, hmatch, rfl⟩ := normalizePhone_eq_ok.mp h
  constructor
  · intro c hc
    exact hreadable.scalar hU c (List.mem_filter.mp hc).1
  · unfold matchesPhone at hmatch
    split at hmatch
    · rename_i plus first rest heq
      simp only [Bool.and_eq_true, decide_eq_true_eq] at hmatch
      rw [heq, List.length_cons, List.length_cons]
      omega
    · cases hmatch

theorem normalizeOptional_encodable {normalize : PyStr → Result}
    {value : Option PyStr} (hU : Documented U) (hmax : maximum ≤ 1024)
    (hnormalize : ∀ {v s}, normalize v = .ok s → Encodable 1024 s)
    (h : normalizeOptional U normalize maximum value = .ok s) :
    Encodable 1024 s := by
  rcases optional_cases rfl (fun v => rfl) h with rfl | ⟨v, h⟩
  · exact encodable_nil 1024
  · split at h
    · rename_i hs
      cases h
      exact hnormalize hs
    · exact (historical_encodable hU h).mono hmax

theorem normalizeOptionalUsername_encodable {value : Option PyStr}
    (hU : Documented U) (h : normalizeOptionalUsername U value = .ok s) :
    Encodable 1024 s := by
  rcases optional_cases rfl (fun v => rfl) h with rfl | ⟨v, h⟩
  · exact encodable_nil 1024
  · exact historical_encodable hU h

end LeakcheckHub.Normalization
