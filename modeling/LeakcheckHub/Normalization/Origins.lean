import LeakcheckHub.Accounts.Addresses
import LeakcheckHub.Foundation.Decimal
import LeakcheckHub.Foundation.Url

/-!
# Origins

`normalize_origin` of `app/normalization.py`: text without `://` is folded, a
URL is taken apart and put together again without its fragment, its default
port and, in its host, anything but lower-case ASCII.

§1 the function · §2 the tables · §3 the netloc · §4 an origin's own parts ·
§5 what the function returns.
-/

namespace LeakcheckHub.Normalization

open Foundation

/-! ## §1  The function -/

/-- What `normalize_subject` reads of Python's libraries. -/
structure SubjectEnv extends UnicodeData where
  /-- What `_check_bracketed_netloc` accepts. -/
  bracketedNetloc : PyStr → Bool
  sha256 : Bytes → Bytes

def SubjectEnv.url (env : SubjectEnv) : UrlTables :=
  ⟨env.lower, env.nfkc, env.bracketedNetloc⟩

def separator : PyStr := PyStr.lit "://"

def schemes : List PyStr := [PyStr.lit "http", PyStr.lit "https"]

def includePort (scheme : PyStr) (port : ℤ) : Bool :=
  !((scheme == PyStr.lit "http" && port == 80) ||
    (scheme == PyStr.lit "https" && port == 443))

/-- `netloc`. -/
def originNetloc (hostname scheme : PyStr) (port : Option ℤ) : PyStr :=
  match port with
  | some port =>
      if includePort scheme port then hostname ++ 58 :: PyStr.ofInt port
      else hostname
  | none => hostname

variable (env : SubjectEnv)

/-- The parts of the URL that is stored; every failure has one text. -/
def originParts (raw : PyStr) : Option SplitResult := do
  let parsed ← Url.split env.url raw
  let hostname ← (normalizeDomain env.toUnicodeData
    ((parsed.hostname env.url).getD [])).toOption
  let port ← parsed.port
  let scheme := env.casefold parsed.scheme
  if !schemes.contains scheme || parsed.hasUserinfo then none
  else
    some ⟨scheme, originNetloc hostname scheme port, parsed.path,
      parsed.query, []⟩

def normalizeOrigin (value : PyStr) : Result := do
  let raw ← text env.toUnicodeData value
  let raw ← bounded raw 4096
  if ¬ separator <:+: raw then .ok (env.casefold raw)
  else
    match originParts env raw with
    | none => .error "origin URL is invalid"
    | some parts => .ok (Url.unsplit parts)

/-! ## §2  The tables -/

/-- What Python documents of its tables beyond `AddressTables`: no ASCII
character joins what precedes it in NFKC; folding works character by character,
leaves no character out, is not done twice, neither makes nor removes
unprintable characters, and keeps the delimiters of a URL; `lower` is that of
ASCII on ASCII; control characters are not printable; a folded name is encoded
in lower case. -/
structure SubjectTables (U : UnicodeData) : Prop extends AddressTables U where
  nfkc_boundary : ∀ s c t, c.val < 128 →
    U.nfkc (s ++ c :: t) = U.nfkc s ++ U.nfkc (c :: t)
  casefold_part : ∀ s t, s <:+: U.casefold t → U.casefold s = s
  casefold_ne_nil : ∀ c, U.casefold [c] ≠ []
  casefold_printable : ∀ c, (U.casefold [c]).all U.isPrintable = U.isPrintable c
  casefold_delimiter : ∀ c, ∀ d ∈ U.casefold [c], d = 58 ∨ d = 47 → c = d
  lower_eq : ∀ s, (∀ c ∈ s, c.val < 128) → U.lower s = s.asciiLower
  control_unprintable : ∀ c, c.val < 32 → U.isPrintable c = false
  idna_lower : ∀ s t, U.casefold s = s → U.idna s = some t → t.asciiLower = t

theorem lowered_val {c : CodePoint} (h : 65 ≤ c.val ∧ c.val ≤ 90) :
    (c + 32 : CodePoint).val = c.val + 32 := by
  rw [Fin.val_add]
  change (c.val + 32) % 0x110000 = _
  omega

/-- The tables of ASCII texts are such tables. -/
theorem subjectTables_ascii : SubjectTables asciiData where
  toAddressTables := addressTables_ascii
  nfkc_boundary _ _ _ _ := rfl
  casefold_part s t h := by
    refine asciiLower_of_lower fun c hc => ?_
    exact asciiLower_lower c (h.subset hc)
  casefold_ne_nil c := List.cons_ne_nil _ _
  casefold_printable c := by
    simp only [asciiData, PyStr.asciiLower, List.map_cons, List.map_nil,
      List.all_cons, List.all_nil, Bool.and_true]
    split
    · rename_i hupper
      have hval := lowered_val hupper
      rw [Bool.and_eq_decide, Bool.and_eq_decide, decide_eq_decide]
      simp only [decide_eq_true_eq]
      omega
    · rfl
  casefold_delimiter c d hd hdelimiter := by
    simp only [asciiData, PyStr.asciiLower, List.map_cons, List.map_nil,
      List.mem_singleton] at hd
    split at hd
    · rename_i hupper
      have hval := lowered_val hupper
      rw [← hd] at hval
      rcases hdelimiter with rfl | rfl
      · have h58 : (58 : CodePoint).val = 58 := rfl
        omega
      · have h47 : (47 : CodePoint).val = 47 := rfl
        omega
    · exact hd.symm
  lower_eq _ _ := rfl
  control_unprintable c hc := by
    simp only [asciiData, Bool.and_eq_false_iff, decide_eq_false_iff_not]
    omega
  idna_lower s t hs ht := by
    cases ht
    exact hs

/-! ## §3  The netloc -/

variable {env} {scheme host tail raw s : PyStr} {port : Option ℤ} {p : ℤ}
  {parsed parts : SplitResult}

/-- The port that the stored URL names. -/
def shownPort (scheme : PyStr) (port : Option ℤ) : Option ℤ :=
  port.filter (includePort scheme)

theorem originNetloc_eq : originNetloc host scheme port =
    host ++ ((shownPort scheme port).map PyStr.ofInt).elim [] (58 :: ·) := by
  unfold originNetloc shownPort
  cases port with
  | none => exact (List.append_nil host).symm
  | some p =>
      dsimp only
      rw [Option.filter_some]
      split
      · rfl
      · exact (List.append_nil host).symm

theorem shownPort_idem :
    shownPort scheme (shownPort scheme port) = shownPort scheme port := by
  cases port with
  | none => rfl
  | some p =>
      unfold shownPort
      rw [Option.filter_some]
      split
      · rename_i hinclude
        rw [Option.filter_some, if_pos hinclude]
      · rfl

/-- `port` of a URL: none, or a number of 16 bits. -/
def ValidPort (port : Option ℤ) : Prop := ∀ p ∈ port, 0 ≤ p ∧ p ≤ 65535

theorem validPort_port (h : parsed.port = some port) : ValidPort port := by
  unfold SplitResult.port at h
  split at h
  · cases h
    rintro p hp
    cases hp
  · split at h
    · split at h
      · split at h
        · rename_i hrange
          cases h
          rintro p hp
          cases hp
          exact hrange
        · cases h
      · cases h
    · cases h

theorem ValidPort.shown (h : ValidPort port) :
    ValidPort (shownPort scheme port) := by
  intro p hp
  exact h p (Option.mem_filter_iff.mp hp).1

/-- The text of a port is a number, and the port again. -/
theorem ofInt_digits (h : 0 ≤ p) :
    PyStr.ofInt p ≠ [] ∧ (PyStr.ofInt p).all PyStr.isAsciiDigit = true := by
  obtain ⟨n, rfl⟩ := Int.eq_ofNat_of_zero_le h
  obtain ⟨ds, hne, hds, htext, -⟩ := PyStr.ofNat_eq_map n
  have hof : PyStr.ofInt (n : ℤ) = ds.map PyStr.digit := htext
  rw [hof]
  constructor
  · rw [Ne, List.map_eq_nil_iff]
    exact hne
  · rw [List.all_map, List.all_eq_true]
    intro d hd
    exact PyStr.isAsciiDigit_digit (hds d hd)

theorem host_val (h : isHost host = true) : ∀ c ∈ host,
    c.val = 45 ∨ c.val = 46 ∨ (48 ≤ c.val ∧ c.val ≤ 57) ∨
      (65 ≤ c.val ∧ c.val ≤ 90) ∨ (97 ≤ c.val ∧ c.val ≤ 122) := by
  intro c hc
  rcases mem_isHost h c hc with halnum | rfl | rfl
  · simp only [isAsciiAlnum, Bool.or_eq_true, Bool.and_eq_true,
      decide_eq_true_eq] at halnum
    omega
  · exact .inl rfl
  · exact .inr (.inl rfl)

/-- Letters, digits, hyphens, dots and a colon. -/
theorem originNetloc_val (hhost : isHost host = true) (hport : ValidPort port) :
    ∀ c ∈ originNetloc host scheme port,
      c.val = 45 ∨ c.val = 46 ∨ (48 ≤ c.val ∧ c.val ≤ 58) ∨
        (65 ≤ c.val ∧ c.val ≤ 90) ∨ (97 ≤ c.val ∧ c.val ≤ 122) := by
  intro c hc
  rw [originNetloc_eq, List.mem_append] at hc
  rcases hc with hc | hc
  · have hval := host_val hhost c hc
    omega
  · have hshown : ValidPort (shownPort scheme port) := hport.shown
    cases hp : shownPort scheme port with
    | none =>
        rw [hp] at hc
        cases hc
    | some p =>
        rw [hp] at hc
        rcases List.mem_cons.mp hc with rfl | hc
        · have h58 : (58 : CodePoint).val = 58 := rfl
          omega
        · obtain ⟨-, hdigits⟩ := ofInt_digits (hshown p hp).1
          have hdigit := List.all_eq_true.mp hdigits c hc
          simp only [PyStr.isAsciiDigit, Bool.and_eq_true, decide_eq_true_eq]
            at hdigit
          omega

theorem originNetloc_notMem (hhost : isHost host = true)
    (hport : ValidPort port) {d : CodePoint}
    (hd : d.val < 45 ∨ d.val = 47 ∨ (58 < d.val ∧ d.val < 65) ∨
      (90 < d.val ∧ d.val < 97)) : d ∉ originNetloc host scheme port := by
  intro hmem
  have hval := originNetloc_val hhost hport d hmem
  omega

theorem originNetloc_visible (hhost : isHost host = true)
    (hport : ValidPort port) : Visible (originNetloc host scheme port) := by
  intro c hc
  have hval := originNetloc_val hhost hport c hc
  omega

theorem originNetloc_plain (hhost : isHost host = true)
    (hport : ValidPort port) :
    Url.PlainNetloc (originNetloc host scheme port) := by
  constructor
  · rw [PyStr.isAscii, List.all_eq_true]
    intro c hc
    rw [decide_eq_true_iff]
    exact (originNetloc_visible hhost hport).ascii c hc
  · intro c hc
    have hval := originNetloc_val hhost hport c hc
    simp only [List.contains_eq_mem, List.mem_cons, List.not_mem_nil, or_false,
      decide_eq_false_iff_not]
    omega

/-- What is read of the netloc of a stored URL. -/
theorem originNetloc_parts (hhost : isHost host = true)
    (hport : ValidPort port)
    (hnetloc : parsed.netloc = originNetloc host scheme port) :
    parsed.hasUserinfo = false ∧ parsed.host = host ∧
      parsed.port = some (shownPort scheme port) := by
  have hat : (64 : CodePoint) ∉ originNetloc host scheme port :=
    originNetloc_notMem hhost hport (.inr (.inr (.inl ⟨by decide, by decide⟩)))
  have hbracket : (91 : CodePoint) ∉ originNetloc host scheme port :=
    originNetloc_notMem hhost hport (.inr (.inr (.inr ⟨by decide, by decide⟩)))
  have hcolon : (58 : CodePoint) ∉ host := by
    intro hmem
    have hval := host_val hhost _ hmem
    have h58 : (58 : CodePoint).val = 58 := rfl
    omega
  have hrcut := PyStr.rcut_of_notMem hat
  have hopen := PyStr.cut_of_notMem hbracket
  have hcut : (originNetloc host scheme port).cut 58 =
      (host, (shownPort scheme port).map PyStr.ofInt) :=
    PyStr.cut_eq_iff.mpr ⟨hcolon, originNetloc_eq⟩
  refine ⟨?_, ?_, ?_⟩
  · rw [SplitResult.hasUserinfo, hnetloc, hrcut]
    rfl
  · rw [SplitResult.host, hnetloc, hrcut]
    simp only [hopen, hcut]
  · have htext : parsed.portText =
        ((shownPort scheme port).map PyStr.ofInt).getD [] := by
      rw [SplitResult.portText, hnetloc, hrcut]
      simp only [hopen, hcut]
    rw [SplitResult.port, htext]
    cases hp : shownPort scheme port with
    | none => rfl
    | some p =>
        obtain ⟨hlow, hhigh⟩ := hport.shown p hp
        obtain ⟨hne, hdigits⟩ := ofInt_digits hlow
        have hint : PyStr.toInt (fun _ => none) (PyStr.ofInt p) = some p :=
          PyStr.toInt_ofInt hlow (by omega)
        dsimp only [Option.map_some, Option.getD_some]
        rw [if_neg (mt List.isEmpty_iff.mp hne), if_pos hdigits, hint]
        exact if_pos ⟨hlow, hhigh⟩

/-! ## §4  An origin's own parts -/

theorem hostname_own (hU : SubjectTables env.toUnicodeData)
    (hhost : isHost host = true) (hlower : host.asciiLower = host)
    (h : parsed.host = host) : parsed.hostname env.url = some host := by
  have hpercent : (37 : CodePoint) ∉ host := by
    intro hmem
    have hval := host_val hhost _ hmem
    have h37 : (37 : CodePoint).val = 37 := rfl
    omega
  have hne : ¬ host.isEmpty = true :=
    fun hempty => isHost_ne_nil hhost (List.isEmpty_iff.mp hempty)
  have hfold : env.url.lower host = host :=
    (hU.lower_eq host (visible_of_isHost hhost).ascii).trans hlower
  rw [SplitResult.hostname, h, if_neg hne, PyStr.cut_of_notMem hpercent]
  dsimp only
  rw [hfold]

/-- `http` and `https` are schemes in lower case. -/
theorem scheme_spec (h : scheme ∈ schemes) :
    scheme.head?.any Url.isAlpha = true ∧
      scheme.all Url.isSchemeChar = true ∧ scheme.asciiLower = scheme := by
  rcases List.mem_pair.mp h with rfl | rfl
  · exact ⟨rfl, rfl, rfl⟩
  · exact ⟨rfl, rfl, rfl⟩

theorem scheme_ne_nil (h : scheme ∈ schemes) : scheme ≠ [] := by
  rintro rfl
  cases (scheme_spec h).1

theorem scheme_visible (h : scheme ∈ schemes) : Visible scheme := by
  intro c hc
  have hbounds := Url.isSchemeChar_bounds
    (List.all_eq_true.mp (scheme_spec h).2.1 c hc)
  omega

/-- The URL up to its path. -/
def authority (scheme host : PyStr) (port : Option ℤ) : PyStr :=
  scheme ++ 58 :: 47 :: 47 :: originNetloc host scheme port

theorem authority_append : authority scheme host port ++ tail =
    scheme ++ 58 :: 47 :: 47 :: (originNetloc host scheme port ++ tail) := by
  simp only [authority, List.append_assoc, List.cons_append]

/-- A stored URL is taken apart into its own parts. -/
theorem originParts_own (hU : SubjectTables env.toUnicodeData)
    (hscheme : scheme ∈ schemes) (hhost : isHost host = true)
    (hlower : host.asciiLower = host) (hport : ValidPort port)
    (htail : Url.Tail tail) (hclean : Url.Clean tail)
    (hfragment : (35 : CodePoint) ∉ tail) :
    originParts env (authority scheme host port ++ tail) =
      some ⟨scheme, originNetloc host scheme port, (tail.cut 63).1,
        ((tail.cut 63).2).getD [], []⟩ := by
  obtain ⟨hhead, hall, hfold⟩ := scheme_spec hscheme
  have hascii := (scheme_visible hscheme).ascii
  have hschemeLower : env.url.lower scheme = scheme :=
    (hU.lower_eq scheme hascii).trans hfold
  have hschemeFold : env.casefold scheme = scheme :=
    (hU.casefold_ascii scheme hascii).trans hfold
  have hnetlocClean : Url.Clean (originNetloc host scheme port) :=
    Url.clean_of_lt fun c hc => by
      have hc := (originNetloc_visible hhost hport c hc).1
      omega
  have hsplit := Url.split_of_tail hhead hall hschemeLower
    (originNetloc_plain hhost hport) hnetlocClean htail hclean hfragment
  obtain ⟨parts, hparts⟩ : ∃ parts : SplitResult, parts =
      ⟨scheme, originNetloc host scheme port, (tail.cut 63).1,
        ((tail.cut 63).2).getD [], []⟩ := ⟨_, rfl⟩
  obtain ⟨huser, hown, hportOwn⟩ : parts.hasUserinfo = false ∧
      parts.host = host ∧ parts.port = some (shownPort scheme port) :=
    originNetloc_parts hhost hport (by rw [hparts])
  have hhostname := hostname_own hU hhost hlower hown
  have hdomain := normalizeDomain_host hU.toAddressTables hhost hlower
  have hnetloc : originNetloc host scheme (shownPort scheme port) =
      originNetloc host scheme port := by
    rw [originNetloc_eq, originNetloc_eq, shownPort_idem]
  have hmem : schemes.contains scheme = true := List.contains_iff_mem.mpr hscheme
  rw [← hparts] at hsplit
  rw [originParts, authority_append, hsplit]
  simp only [Option.bind_eq_bind, Option.bind_some, hhostname, Option.getD_some,
    hdomain, Except.toOption, hportOwn, huser]
  simp only [hparts, hschemeFold, hmem, hnetloc, Bool.not_true, Bool.or_self,
    Bool.false_eq_true, if_false]

/-! ## §5  What the function returns -/

theorem head_strip {c : CodePoint} (h : c ∈ s.strip.head?) :
    PyStr.isSpace c = false := by
  cases hs : s.strip with
  | nil =>
      rw [hs] at h
      cases h
  | cons d rest =>
      rw [hs] at h
      cases h
      obtain ⟨back, hback⟩ := isPrefix_strip s
      rw [hs, List.cons_append] at hback
      have hhead := List.head_dropWhile_not PyStr.isSpace (l := s)
        (by rw [← hback]; exact List.cons_ne_nil _ _)
      simpa only [← hback, List.head_cons] using hhead

theorem SubjectTables.value_of_printable {U : UnicodeData}
    (hU : SubjectTables U) {c : CodePoint} (h : U.isPrintable c = true) :
    32 ≤ c.val := by
  by_contra hlt
  rw [hU.control_unprintable c (by omega)] at h
  cases h

theorem clean_of_printable {U : UnicodeData} (hU : SubjectTables U)
    (h : ∀ c ∈ s, U.isPrintable c = true) : Url.Clean s := by
  intro c hc
  have hle := hU.value_of_printable (h c hc)
  simp only [List.contains_eq_mem, List.mem_cons, List.not_mem_nil, or_false,
    decide_eq_false_iff_not]
  omega

/-- A text without spaces around it and without control characters reaches
`urlsplit` as it is. -/
theorem cleaned_readable (hU : SubjectTables env.toUnicodeData)
    (h : Readable env.toUnicodeData s) :
    Url.cleaned (canonical env.toUnicodeData s) =
      canonical env.toUnicodeData s := by
  refine Url.cleaned_of_clean ?_ (clean_of_printable hU h.2)
  intro c hc
  have hspace := head_strip hc
  have hle := hU.value_of_printable (h.2 c (List.mem_of_mem_head? hc))
  by_contra hlt
  have h32 : c.val = 32 := by omega
  rw [PyStr.isSpace, h32] at hspace
  cases hspace

theorem undotted_isPrefix (s : PyStr) : undotted s <+: s := by
  rw [undotted, ← List.reverse_suffix, List.reverse_reverse]
  exact List.dropWhile_suffix _

/-- A domain is in lower case. -/
theorem normalizeDomain_lower {U : UnicodeData} (hU : SubjectTables U)
    (h : normalizeDomain U raw = .ok s) : s.asciiLower = s := by
  obtain ⟨-, hidna, -⟩ := normalizeDomain_eq_ok.mp h
  refine hU.idna_lower _ s (hU.casefold_part _ (canonical U raw) ?_) hidna
  exact (undotted_isPrefix _).isInfix

theorem not_normalizeDomain_nil {U : UnicodeData} (hU : AddressTables U) :
    normalizeDomain U [] ≠ .ok s := by
  intro h
  obtain ⟨⟨hne, -⟩, -⟩ := normalizeDomain_eq_ok.mp h
  refine hne ?_
  rw [canonical, nfkc_ascii hU (List.forall_mem_nil _)]
  rfl

/-- An accepted URL: its parts as `urlsplit` finds them, the host and the port
that are stored, and the text that is. -/
structure Accepted (env : SubjectEnv) (raw : PyStr) (parsed : SplitResult)
    (host : PyStr) (port : Option ℤ) : Prop where
  split : Url.split env.url raw = some parsed
  domain : normalizeDomain env.toUnicodeData
    ((parsed.hostname env.url).getD []) = .ok host
  port : parsed.port = some port
  scheme : env.casefold parsed.scheme ∈ schemes

theorem originParts_spec (h : originParts env raw = some parts) :
    ∃ parsed host port, Accepted env raw parsed host port ∧
      parts = ⟨env.casefold parsed.scheme,
        originNetloc host (env.casefold parsed.scheme) port, parsed.path,
        parsed.query, []⟩ := by
  obtain ⟨parsed, hparsed, h⟩ := Option.bind_eq_some_iff.mp h
  obtain ⟨host, hhost, h⟩ := Option.bind_eq_some_iff.mp h
  obtain ⟨port, hport, h⟩ := Option.bind_eq_some_iff.mp h
  have hdomain : normalizeDomain env.toUnicodeData
      ((parsed.hostname env.url).getD []) = .ok host := by
    cases hd : normalizeDomain env.toUnicodeData
        ((parsed.hostname env.url).getD []) with
    | error e =>
        rw [hd] at hhost
        cases hhost
    | ok host' =>
        rw [hd] at hhost
        cases hhost
        rfl
  dsimp only at h
  split at h
  · cases h
  · rename_i hgood
    cases h
    rw [Bool.or_eq_true, not_or, Bool.not_eq_true', Bool.not_eq_false,
      List.contains_iff_mem] at hgood
    exact ⟨parsed, host, port, ⟨hparsed, hdomain, hport, hgood.1⟩, rfl⟩

namespace Accepted

variable (hU : SubjectTables env.toUnicodeData)
  (h : Accepted env raw parsed host port)

include h

theorem isHost : isHost host = true :=
  (normalizeDomain_eq_ok.mp h.domain).2.2

theorem validPort : ValidPort port := validPort_port h.port

include hU

theorem hostLower : host.asciiLower = host := normalizeDomain_lower hU h.domain

theorem netloc_ne_nil : parsed.netloc ≠ [] := by
  intro hnil
  have hnone : parsed.hostname env.url = none := by
    rw [SplitResult.hostname, SplitResult.host, hnil]
    rfl
  have hdomain := h.domain
  rw [hnone] at hdomain
  exact not_normalizeDomain_nil hU.toAddressTables hdomain

/-- The stored text is the authority, then path and query as they were. -/
theorem unsplit_eq : Url.unsplit ⟨env.casefold parsed.scheme,
      originNetloc host (env.casefold parsed.scheme) port, parsed.path,
      parsed.query, []⟩ =
    authority (env.casefold parsed.scheme) host port ++ parsed.target := by
  obtain ⟨hpath, -⟩ := Url.split_target h.split (h.netloc_ne_nil hU)
  have hne := scheme_ne_nil h.scheme
  have hunsplit := Url.unsplit_eq (r := ⟨env.casefold parsed.scheme,
    originNetloc host (env.casefold parsed.scheme) port, parsed.path,
    parsed.query, []⟩) hne hpath rfl
  rw [hunsplit, authority_append]
  rfl

end Accepted

/-- What is accepted is readable and not too long. -/
theorem normalizeOrigin_eq_ok :
    normalizeOrigin env raw = .ok s ↔ Readable env.toUnicodeData raw ∧
      (canonical env.toUnicodeData raw).length ≤ 4096 ∧
        (if ¬ separator <:+: canonical env.toUnicodeData raw then
          .ok (env.casefold (canonical env.toUnicodeData raw))
        else match originParts env (canonical env.toUnicodeData raw) with
          | none => .error "origin URL is invalid"
          | some parts => .ok (Url.unsplit parts) : Result) = .ok s := by
  unfold normalizeOrigin
  rw [bind_eq_ok]
  constructor
  · rintro ⟨t, ht, h⟩
    obtain ⟨hreadable, rfl⟩ := text_eq_ok.mp ht
    obtain ⟨t', ht', h⟩ := bind_eq_ok.mp h
    obtain ⟨hlen, rfl⟩ := bounded_eq_ok.mp ht'
    exact ⟨hreadable, hlen, h⟩
  · rintro ⟨hreadable, hlen, h⟩
    exact ⟨_, text_eq_ok.mpr ⟨hreadable, rfl⟩,
      bind_eq_ok.mpr ⟨_, bounded_eq_ok.mpr ⟨hlen, rfl⟩, h⟩⟩

/-- An accepted text without `://`. -/
theorem normalizeOrigin_plain
    (hplain : ¬ separator <:+: canonical env.toUnicodeData raw) :
    normalizeOrigin env raw = .ok s ↔ Readable env.toUnicodeData raw ∧
      (canonical env.toUnicodeData raw).length ≤ 4096 ∧
        s = env.casefold (canonical env.toUnicodeData raw) := by
  rw [normalizeOrigin_eq_ok, if_pos hplain, Except.ok.injEq, eq_comm (b := s)]

theorem normalizeOrigin_url
    (hurl : separator <:+: canonical env.toUnicodeData raw) :
    normalizeOrigin env raw = .ok s ↔ Readable env.toUnicodeData raw ∧
      (canonical env.toUnicodeData raw).length ≤ 4096 ∧
        ∃ parts, originParts env (canonical env.toUnicodeData raw) =
          some parts ∧ s = Url.unsplit parts := by
  rw [normalizeOrigin_eq_ok, if_neg (not_not.mpr hurl)]
  refine and_congr_right fun _ => and_congr_right fun _ => ?_
  constructor
  · intro h
    split at h
    · cases h
    · rename_i parts hparts
      cases h
      exact ⟨parts, hparts, rfl⟩
  · rintro ⟨parts, hparts, rfl⟩
    rw [hparts]

end LeakcheckHub.Normalization
