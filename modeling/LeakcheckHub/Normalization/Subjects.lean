import LeakcheckHub.Normalization.Origins
import LeakcheckHub.Routers.Recorders

/-!
# Subjects

`normalize_subject` of `app/normalization.py`, and when the value it stores is
the one it finds again.

§1 the function · §2 folded text · §3 texts in normal form · §4 domains, phones
and usernames · §5 emails · §6 origins · §7 the law.
-/

namespace LeakcheckHub.Normalization

open Foundation
open Routers (NormalizedSubject)

/-! ## §1  The function -/

/-- The `NormalizationError`, or the `UnicodeEncodeError` of a password. -/
inductive SubjectFailure where
  | normalization (text : String)
  | unicodeEncode
deriving DecidableEq, Repr

def failing (result : Result) : Except SubjectFailure PyStr :=
  result.mapError SubjectFailure.normalization

/-- `hexdigest`. -/
def hexdigest (digest : Bytes) : PyStr :=
  digest.flatMap fun b =>
    [hexDigit (b.toNat / 16), hexDigit (b.toNat % 16)]

section Normalize

variable (env : SubjectEnv)

/-- The branch of a `PASSWORD`. -/
def passwordSubject (value : PyStr) :
    Except SubjectFailure NormalizedSubject :=
  let rejected := Except.error (.normalization
    "password must contain between 1 and 4096 UTF-8 bytes")
  if value.isEmpty then rejected
  else
    match value.encode with
    | none => .error .unicodeEncode
    | some bytes =>
        if 4096 < bytes.length then rejected
        else
          let digest := hexdigest (env.sha256 bytes)
          .ok ⟨.password, digest,
            PyStr.lit "sha256:" ++ digest.take 12 ++ [0x2026]⟩

/-- `normalized` of the other branches. -/
def normalForm (kind : SubjectKind) (value : PyStr) : Result :=
  match kind with
  | .email => normalizeEmail env.toUnicodeData value
  | .domain => normalizeDomain env.toUnicodeData value
  | .phone => normalizePhone env.toUnicodeData value
  | .username => bounded (env.casefold value) 1024
  | .origin => normalizeOrigin env value
  | .password => .error "unsupported subject kind"

def normalizeSubject (kind : SubjectKind) (value : PyStr) :
    Except SubjectFailure NormalizedSubject :=
  if kind = .password then passwordSubject env value
  else do
    let value ← failing (text env.toUnicodeData value)
    let normalized ← failing (normalForm env kind value)
    .ok ⟨kind, normalized,
      if kind = .username then value else normalized⟩

/-- The bound on the input of a kind, if it has one. -/
def inputBound : SubjectKind → Option ℕ
  | .email => some 320
  | .username => some 1024
  | .origin => some 4096
  | _ => none

/-- The stored value is accepted within the bound, and stored again. -/
def Refound (kind : SubjectKind) (valueNorm : PyStr) : Prop :=
  (∃ subject, normalizeSubject env kind valueNorm = .ok subject ∧
    subject.valueNorm = valueNorm) ∧
  ∀ bound ∈ inputBound kind, valueNorm.length ≤ bound

end Normalize

variable {env : SubjectEnv} {U : UnicodeData} {kind : SubjectKind}
  {v s t n raw : PyStr} {subject : NormalizedSubject}

theorem failing_eq_ok {result : Result} :
    failing result = .ok s ↔ result = .ok s := mapError_eq_ok

theorem normalizeSubject_eq_ok (hkind : kind ≠ .password) :
    normalizeSubject env kind v = .ok subject ↔
      Readable env.toUnicodeData v ∧
      normalForm env kind (canonical env.toUnicodeData v) =
        .ok subject.valueNorm ∧
      subject = ⟨kind, subject.valueNorm, if kind = .username then
        canonical env.toUnicodeData v else subject.valueNorm⟩ := by
  unfold normalizeSubject
  rw [if_neg hkind, bind_eq_ok]
  constructor
  · rintro ⟨t, ht, h⟩
    obtain ⟨hreadable, rfl⟩ := text_eq_ok.mp (failing_eq_ok.mp ht)
    obtain ⟨n, hn, h⟩ := bind_eq_ok.mp h
    cases h
    exact ⟨hreadable, failing_eq_ok.mp hn, rfl⟩
  · rintro ⟨hreadable, hn, heq⟩
    refine ⟨_, failing_eq_ok.mpr (text_eq_ok.mpr ⟨hreadable, rfl⟩),
      bind_eq_ok.mpr ⟨_, failing_eq_ok.mpr hn, ?_⟩⟩
    rw [heq]

theorem normalizeSubject_again (hkind : kind ≠ .password) :
    (∃ subject, normalizeSubject env kind n = .ok subject ∧
      subject.valueNorm = n) ↔ Readable env.toUnicodeData n ∧
        normalForm env kind (canonical env.toUnicodeData n) = .ok n := by
  constructor
  · rintro ⟨subject, h, rfl⟩
    obtain ⟨hreadable, hn, -⟩ := (normalizeSubject_eq_ok hkind).mp h
    exact ⟨hreadable, hn⟩
  · rintro ⟨hreadable, hn⟩
    refine ⟨⟨kind, n, if kind = .username then
      canonical env.toUnicodeData n else n⟩, ?_, rfl⟩
    exact (normalizeSubject_eq_ok hkind).mpr ⟨hreadable, hn, rfl⟩

/-! ## §2  Folded text -/

theorem casefold_nil (hU : AddressTables U) : U.casefold [] = [] :=
  hU.casefold_ascii [] (List.forall_mem_nil _)

theorem casefold_cons (hU : AddressTables U) (c : CodePoint) (s : PyStr) :
    U.casefold (c :: s) = U.casefold [c] ++ U.casefold s :=
  hU.casefold_append [c] s

theorem casefold_printable (hU : SubjectTables U) (s : PyStr) :
    (U.casefold s).all U.isPrintable = s.all U.isPrintable := by
  induction s with
  | nil => rw [casefold_nil hU.toAddressTables]
  | cons c s ih =>
      rw [casefold_cons hU.toAddressTables, List.all_append, List.all_cons, ih,
        hU.casefold_printable]

theorem length_le_casefold (hU : SubjectTables U) (s : PyStr) :
    s.length ≤ (U.casefold s).length := by
  induction s with
  | nil => exact Nat.zero_le _
  | cons c s ih =>
      have hpos := List.length_pos_iff.mpr (hU.casefold_ne_nil c)
      rw [casefold_cons hU.toAddressTables, List.length_append,
        List.length_cons]
      omega

theorem casefold_eq_nil (hU : SubjectTables U) (h : U.casefold s = []) :
    s = [] := by
  have hlen := length_le_casefold hU s
  rw [h, List.length_nil] at hlen
  exact List.length_eq_zero_iff.mp (Nat.le_zero.mp hlen)

/-- A part of characters that the front lacks is a part of the rest. -/
theorem infix_of_infix_append {l m : PyStr} (hs : s ≠ [])
    (hl : ∀ c ∈ s, c ∉ l) (h : s <:+: l ++ m) : s <:+: m := by
  induction l with
  | nil => exact h
  | cons c l ih =>
      rw [List.cons_append, List.infix_cons_iff] at h
      rcases h with h | h
      · cases s with
        | nil => exact absurd rfl hs
        | cons d s =>
            rw [List.cons_prefix_cons] at h
            exact absurd (h.1 ▸ List.mem_cons_self) (hl d List.mem_cons_self)
      · exact ih (fun d hd hmem => hl d hd (List.mem_cons_of_mem _ hmem)) h

theorem casefold_delimiter (hU : SubjectTables U) {d : CodePoint}
    (hd : d = 58 ∨ d = 47) : U.casefold [d] = [d] := by
  rw [hU.casefold_ascii]
  · rcases hd with rfl | rfl <;> rfl
  · intro c hc
    rw [List.mem_singleton.mp hc]
    rcases hd with rfl | rfl
    · exact (by decide : (58 : ℕ) < 128)
    · exact (by decide : (47 : ℕ) < 128)

theorem casefold_delimiters (hU : SubjectTables U)
    (ht : ∀ c ∈ t, c = 58 ∨ c = 47) : U.casefold t = t := by
  induction t with
  | nil => exact casefold_nil hU.toAddressTables
  | cons c t ih =>
      rw [casefold_cons hU.toAddressTables,
        casefold_delimiter hU (ht c List.mem_cons_self),
        ih fun d hd => ht d (List.mem_cons_of_mem _ hd), List.singleton_append]

/-- Delimiters at the start of a folded text are those of the text. -/
theorem prefix_of_prefix_casefold (hU : SubjectTables U)
    (ht : ∀ c ∈ t, c = 58 ∨ c = 47) (h : t <+: U.casefold s) : t <+: s := by
  induction t generalizing s with
  | nil => exact List.nil_prefix
  | cons d t ih =>
      have hd := ht d List.mem_cons_self
      cases s with
      | nil =>
          rw [casefold_nil hU.toAddressTables] at h
          exact absurd (List.prefix_nil.mp h) (List.cons_ne_nil d t)
      | cons c s =>
          rw [casefold_cons hU.toAddressTables] at h
          have hc : c = d := by
            cases hfold : U.casefold [c] with
            | nil => exact absurd hfold (hU.casefold_ne_nil c)
            | cons e rest =>
                rw [hfold, List.cons_append, List.cons_prefix_cons] at h
                refine hU.casefold_delimiter c d ?_ hd
                rw [hfold, h.1]
                exact List.mem_cons_self
          rw [hc, casefold_delimiter hU hd, List.singleton_append,
            List.cons_prefix_cons] at h
          rw [hc, List.cons_prefix_cons]
          exact ⟨rfl, ih (fun e he => ht e (List.mem_cons_of_mem _ he)) h.2⟩

/-- A folded text has a run of delimiters only where the text has it. -/
theorem infix_casefold_iff (hU : SubjectTables U) (hne : t ≠ [])
    (ht : ∀ c ∈ t, c = 58 ∨ c = 47) : t <:+: U.casefold s ↔ t <:+: s := by
  constructor
  · intro h
    induction s with
    | nil =>
        rw [casefold_nil hU.toAddressTables] at h
        exact h
    | cons c s ih =>
        by_cases hc : c = 58 ∨ c = 47
        · have hcons : U.casefold (c :: s) = c :: U.casefold s := by
            rw [casefold_cons hU.toAddressTables, casefold_delimiter hU hc,
              List.singleton_append]
          rw [hcons, List.infix_cons_iff, ← hcons] at h
          rcases h with h | h
          · exact (prefix_of_prefix_casefold hU ht h).isInfix
          · exact (ih h).trans (List.suffix_cons c s).isInfix
        · rw [casefold_cons hU.toAddressTables] at h
          have hrest := infix_of_infix_append hne (fun d hd hmem => hc
            (hU.casefold_delimiter c d hmem (ht d hd) ▸ ht d hd)) h
          exact (ih hrest).trans (List.suffix_cons c s).isInfix
  · rintro ⟨front, back, rfl⟩
    refine ⟨U.casefold front, U.casefold back, ?_⟩
    rw [hU.casefold_append, hU.casefold_append, casefold_delimiters hU ht]

/-! ## §3  Texts in normal form -/

/-- Folding the NFKC form of the text gives the text back. -/
def Closed (U : UnicodeData) (s : PyStr) : Prop :=
  U.casefold (canonical U s) = s

instance : Decidable (Closed U s) := inferInstanceAs (Decidable (_ = _))

theorem Readable.printable (h : Readable U v) :
    (canonical U v).all U.isPrintable = true := List.all_eq_true.mpr h.2

theorem isSpace_lowered (c : CodePoint) :
    PyStr.isSpace (if 65 ≤ c.val ∧ c.val ≤ 90 then c + 32 else c) =
      PyStr.isSpace c := by
  split
  · rename_i hupper
    have hval := lowered_val hupper
    have hvisible : Visible [c, c + 32] := by
      intro d hd
      rcases List.mem_pair.mp hd with rfl | rfl <;> omega
    rw [hvisible.unspaced c List.mem_cons_self,
      hvisible.unspaced (c + 32) (List.mem_cons_of_mem _ List.mem_cons_self)]
  · rfl

theorem asciiLower_ascii (h : ∀ c ∈ s, c.val < 128) :
    ∀ c ∈ s.asciiLower, c.val < 128 := by
  intro c hc
  obtain ⟨d, hd, rfl⟩ := List.mem_map.mp hc
  split
  · rename_i hupper
    rw [lowered_val hupper]
    omega
  · exact h d hd

theorem strip_asciiLower (s : PyStr) :
    PyStr.strip s.asciiLower = (PyStr.strip s).asciiLower := by
  have hspace : PyStr.isSpace ∘ (fun c : CodePoint =>
      if 65 ≤ c.val ∧ c.val ≤ 90 then c + 32 else c) = PyStr.isSpace :=
    funext isSpace_lowered
  unfold PyStr.strip PyStr.asciiLower
  rw [List.dropWhile_map, hspace, ← List.map_reverse, List.dropWhile_map,
    hspace, List.map_reverse]

/-- ASCII text in lower case is as folding leaves it. -/
theorem closed_ascii (hU : SubjectTables U) (hascii : ∀ c ∈ v, c.val < 128) :
    Closed U (U.casefold (canonical U v)) := by
  have hinner : ∀ c ∈ PyStr.strip v, c.val < 128 :=
    fun c hc => hascii c ((isInfix_strip v).subset hc)
  have hfolded : U.casefold (canonical U v) = (PyStr.strip v).asciiLower := by
    rw [canonical, nfkc_ascii hU.toAddressTables hascii,
      hU.casefold_ascii _ hinner]
  have hnfkc : U.nfkc (U.casefold (canonical U v)) =
      U.casefold (canonical U v) := by
    apply nfkc_ascii hU.toAddressTables
    rw [hfolded]
    exact asciiLower_ascii hinner
  calc U.casefold (canonical U (U.casefold (canonical U v)))
      = U.casefold (PyStr.strip (PyStr.strip v).asciiLower) := by
        rw [canonical, hnfkc, hfolded]
    _ = U.casefold (U.casefold (canonical U v)) := by
        rw [strip_asciiLower, strip_idem, hfolded]
    _ = U.casefold (canonical U v) := hU.casefold_idem _

theorem folded_readable (hU : SubjectTables U) (h : Readable U v) :
    U.casefold (canonical U v) ≠ [] ∧
      (U.casefold (canonical U v)).all U.isPrintable = true := by
  rw [casefold_printable hU]
  exact ⟨fun hnil => h.1 (casefold_eq_nil hU hnil), h.printable⟩

theorem Closed.readable (hU : SubjectTables U) (h : Closed U s) (hne : s ≠ [])
    (hprintable : s.all U.isPrintable = true) : Readable U s := by
  rw [Closed] at h
  constructor
  · intro hnil
    rw [hnil, casefold_nil hU.toAddressTables] at h
    exact hne h.symm
  · rw [← List.all_eq_true, ← casefold_printable hU, h]
    exact hprintable

/-- The first characters of a text do not matter to the spaces behind it. -/
theorem strip_front (ht : t ≠ []) (h : Unspaced t) :
    PyStr.strip (t ++ s) = t ++ s.rdropWhile PyStr.isSpace := by
  have hback : Unspaced t.reverse := fun c hc => h c (List.mem_reverse.mp hc)
  have hkeep := dropWhile_unspaced (s := []) (mt List.reverse_eq_nil_iff.mp ht)
    hback
  rw [List.append_nil] at hkeep
  rw [PyStr.strip, dropWhile_unspaced ht h, List.reverse_append,
    List.dropWhile_append, List.rdropWhile]
  split
  · rename_i hempty
    rw [hkeep, List.reverse_reverse, List.isEmpty_iff.mp hempty,
      List.reverse_nil, List.append_nil]
  · rw [List.reverse_append, List.reverse_reverse]

/-! ## §4  Domains, phones and usernames -/

theorem domain_again (hU : SubjectTables U)
    (h : normalizeDomain U raw = .ok n) :
    Readable U n ∧ normalizeDomain U (canonical U n) = .ok n := by
  obtain ⟨-, -, hhost⟩ := normalizeDomain_eq_ok.mp h
  have hvisible := visible_of_isHost hhost
  have htables := hU.toAddressTables
  rw [hvisible.canonical_eq htables]
  exact ⟨hvisible.readable htables (isHost_ne_nil hhost),
    normalizeDomain_host htables hhost (normalizeDomain_lower hU h)⟩

theorem visible_of_matchesPhone (h : matchesPhone s = true) : Visible s := by
  unfold matchesPhone at h
  split at h
  · rename_i plus first rest
    simp only [Bool.and_eq_true, decide_eq_true_eq, beq_iff_eq,
      List.all_eq_true] at h
    obtain ⟨⟨⟨rfl, hfirst⟩, -⟩, hrest⟩ := h
    intro c hc
    rcases List.mem_cons.mp hc with rfl | hc
    · decide
    · rcases List.mem_cons.mp hc with rfl | hc
      · omega
      · have hdigit := hrest c hc
        omega
  · cases h

theorem phone_again (hU : SubjectTables U) (h : normalizePhone U raw = .ok n) :
    Readable U n ∧ normalizePhone U (canonical U n) = .ok n := by
  obtain ⟨-, hmatch, rfl⟩ := normalizePhone_eq_ok.mp h
  have hvisible := visible_of_matchesPhone hmatch
  have htables := hU.toAddressTables
  have hne : compactPhone (canonical U raw) ≠ [] := by
    intro hnil
    rw [hnil] at hmatch
    cases hmatch
  have hreadable := hvisible.readable htables hne
  have hcompact : compactPhone (compactPhone (canonical U raw)) =
      compactPhone (canonical U raw) := by
    rw [compactPhone, compactPhone, List.filter_filter]
    simp only [Bool.and_self]
  rw [hvisible.canonical_eq htables]
  refine ⟨hreadable, normalizePhone_eq_ok.mpr ⟨hreadable, ?_⟩⟩
  rw [hvisible.canonical_eq htables, hcompact]
  exact ⟨hmatch, rfl⟩

theorem username_again (hU : SubjectTables U) (hv : Readable U v)
    (hlen : (U.casefold (canonical U v)).length ≤ 1024) :
    Readable U (U.casefold (canonical U v)) ∧
        bounded (U.casefold (canonical U (U.casefold (canonical U v)))) 1024 =
          .ok (U.casefold (canonical U v)) ↔
      Closed U (U.casefold (canonical U v)) := by
  obtain ⟨hne, hprintable⟩ := folded_readable hU hv
  rw [bounded_eq_ok]
  constructor
  · rintro ⟨-, -, h⟩
    exact h.symm
  · intro h
    refine ⟨h.readable hU hne hprintable, ?_⟩
    rw [show U.casefold (canonical U (U.casefold (canonical U v))) = _ from h]
    exact ⟨hlen, rfl⟩

/-! ## §5  Emails -/

/-- A part of ASCII in lower case stays where it is. -/
theorem canonical_append (hU : AddressTables U) (hne : t ≠ [])
    (ht : Visible t) :
    canonical U (s ++ t) = (U.nfkc s).dropWhile PyStr.isSpace ++ t := by
  rw [canonical, hU.nfkc_append _ _ ht.ascii, strip_append hne ht.unspaced]

theorem closed_append_iff (hU : AddressTables U) (hne : t ≠ [])
    (ht : Visible t) (hlower : t.asciiLower = t) :
    Closed U (s ++ t) ↔
      U.casefold ((U.nfkc s).dropWhile PyStr.isSpace) = s := by
  rw [Closed, canonical_append hU hne ht, hU.casefold_append,
    hU.casefold_ascii t ht.ascii, hlower, List.append_left_inj]

/-- Folding again leaves the address up to its at sign as it is, and the
address with its encoded domain is not too long. -/
def EmailSettled (U : UnicodeData) (v : PyStr) : Prop :=
  Closed U (localPart (U.casefold (canonical U v)) ++ [commercialAt]) ∧
    ∀ domain, normalizeDomain U (domainPart (U.casefold (canonical U v))) =
        .ok domain →
      (localPart (U.casefold (canonical U v))).length + 1 + domain.length ≤ 320

theorem at_notMem_localPart (email : PyStr) :
    commercialAt ∉ localPart email := by
  intro hmem
  have hne := List.mem_takeWhile_imp hmem
  rw [bne_self_eq_false] at hne
  cases hne

/-- What an accepted email starts with. -/
structure LocalName (U : UnicodeData) (name : PyStr) : Prop where
  ne_nil : name ≠ []
  noAt : commercialAt ∉ name
  unspaced : name.any PyStr.isSpace = false
  printable : name.all U.isPrintable = true
  folded : U.casefold name = name

theorem localName_of_email (hU : SubjectTables U) (hv : Readable U v)
    (h : hasLocalPart (U.casefold (canonical U v)) = true) :
    LocalName U (localPart (U.casefold (canonical U v))) := by
  simp only [hasLocalPart, Bool.and_eq_true, Bool.not_eq_true',
    decide_eq_true_eq] at h
  obtain ⟨⟨-, hne⟩, hspaces⟩ := h
  obtain ⟨-, hprintable⟩ := folded_readable hU hv
  refine ⟨List.isEmpty_eq_false_iff.mp hne, at_notMem_localPart _, hspaces, ?_,
    hU.casefold_part _ (canonical U v) (List.takeWhile_prefix _).isInfix⟩
  rw [List.all_eq_true] at hprintable ⊢
  exact fun c hc => hprintable c (List.takeWhile_subset _ hc)

theorem hasLocalPart_own {name domain : PyStr} (hname : LocalName U name)
    (hhost : isHost domain = true) :
    hasLocalPart (name ++ commercialAt :: domain) = true := by
  obtain ⟨hlocal, -⟩ := parts_append hname.noAt domain
  have hcount : (name ++ commercialAt :: domain).count commercialAt = 1 := by
    rw [List.count_append, List.count_cons_self,
      List.count_eq_zero.mpr hname.noAt,
      List.count_eq_zero.mpr (at_notMem_host hhost)]
  rw [hasLocalPart, hlocal, hcount, hname.unspaced, decide_eq_true rfl]
  simpa using hname.ne_nil

/-- When a stored email is its own. -/
theorem own_email_iff (hU : SubjectTables U) {name domain : PyStr}
    (hname : LocalName U name) (hhost : isHost domain = true)
    (hlower : domain.asciiLower = domain) :
    normalizeEmailSubject U (name ++ commercialAt :: domain) =
        .ok (name ++ commercialAt :: domain) ↔
      Closed U (name ++ [commercialAt]) ∧
        name.length + 1 + domain.length ≤ 320 := by
  have htables := hU.toAddressTables
  have hvisible := visible_at_host hhost
  have hsuffix : PyStr.asciiLower (commercialAt :: domain) =
      commercialAt :: domain := congrArg (commercialAt :: ·) hlower
  have hfold : U.casefold (name ++ commercialAt :: domain) =
      name ++ commercialAt :: domain := by
    rw [hU.casefold_append, hname.folded, hU.casefold_ascii _ hvisible.ascii,
      hsuffix]
  have hat : Visible [commercialAt] := by
    intro c hc
    rw [List.mem_singleton.mp hc]
    decide
  have hclosed : Closed U (name ++ commercialAt :: domain) ↔
      Closed U (name ++ [commercialAt]) := by
    rw [closed_append_iff htables (List.cons_ne_nil _ _) hvisible hsuffix,
      closed_append_iff htables (List.cons_ne_nil _ _) hat rfl]
  have hlen : (name ++ commercialAt :: domain).length =
      name.length + 1 + domain.length := by
    rw [List.length_append, List.length_cons]
    omega
  rw [normalizeEmailSubject_eq_self htables hfold, ← hclosed, ← hlen]
  constructor
  · intro h
    exact ⟨h.folded, h.short⟩
  · rintro ⟨h, hshort⟩
    have hprintable : (name ++ commercialAt :: domain).all U.isPrintable =
        true := by
      rw [List.all_append, hname.printable, Bool.true_and, List.all_eq_true]
      intro c hc
      have hc := hvisible c hc
      exact hU.printable_ascii c (by omega) hc.2
    exact
      { readable := h.readable hU (List.append_ne_nil_of_left_ne_nil
          hname.ne_nil _) hprintable
        folded := h
        short := hshort
        localPart := hasLocalPart_own hname hhost
        host := by rw [(parts_append hname.noAt domain).2]; exact hhost }

theorem email_again (hU : SubjectTables U) (hv : Readable U v)
    (h : normalizeEmail U (canonical U v) = .ok n) :
    (Readable U n ∧ normalizeEmail U (canonical U n) = .ok n) ∧
        n.length ≤ 320 ↔ EmailSettled U v := by
  obtain ⟨-, hlocal, domain, hdomain, rfl⟩ := normalizeEmail_eq_ok.mp h
  rw [canonical_idem hU.toAddressTables] at hlocal hdomain ⊢
  obtain ⟨-, -, hhost⟩ := normalizeDomain_eq_ok.mp hdomain
  have hown := own_email_iff hU (localName_of_email hU hv hlocal) hhost
    (normalizeDomain_lower hU hdomain)
  rw [List.append_assoc, List.singleton_append,
    ← normalizeEmailSubject_eq_ok, hown, EmailSettled, hdomain]
  simp only [Except.ok.injEq, forall_eq', List.length_append, List.length_cons]
  constructor
  · rintro ⟨h, -⟩
    exact h
  · rintro ⟨h, hlen⟩
    exact ⟨⟨h, hlen⟩, by omega⟩

/-! ## §6  Origins -/

theorem text_canonical (hU : AddressTables U) (v : PyStr) :
    text U (canonical U v) = text U v := by
  have htext : ∀ v, text U v = if (canonical U v).isEmpty ||
      (canonical U v).any (fun c => !U.isPrintable c) then
        .error "value must be non-empty printable text"
      else .ok (canonical U v) := fun _ => rfl
  rw [htext, htext, canonical_idem hU]

theorem normalizeOrigin_canonical (hU : AddressTables env.toUnicodeData)
    (v : PyStr) : normalizeOrigin env (canonical env.toUnicodeData v) =
      normalizeOrigin env v := by
  rw [normalizeOrigin, text_canonical hU]
  rfl

theorem normalizeOrigin_readable (h : normalizeOrigin env v = .ok n) :
    Readable env.toUnicodeData v := by
  obtain ⟨t, ht, -⟩ := bind_eq_ok.mp h
  exact (text_eq_ok.mp ht).1

theorem separator_delimiters : ∀ c ∈ separator, c = 58 ∨ c = 47 := by
  have hseparator : separator = [58, 47, 47] := rfl
  rw [hseparator]
  intro c hc
  rcases List.mem_cons.mp hc with rfl | hc
  · exact .inl rfl
  · exact .inr ((List.mem_pair.mp hc).elim id id)

theorem separator_infix_casefold (hU : SubjectTables U) :
    separator <:+: U.casefold s ↔ separator <:+: s :=
  infix_casefold_iff hU (List.cons_ne_nil _ _) separator_delimiters

theorem separator_infix_authority {scheme host tail : PyStr}
    {port : Option ℤ} :
    separator <:+: authority scheme host port ++ tail := by
  refine ⟨scheme, originNetloc host scheme port ++ tail, ?_⟩
  rw [authority_append]
  exact List.append_assoc scheme separator _

/-- Folding the folded text again leaves it as it is, and it is not too
long. -/
def PlainSettled (U : UnicodeData) (v : PyStr) : Prop :=
  Closed U (U.casefold (canonical U v)) ∧
    (U.casefold (canonical U v)).length ≤ 4096

theorem plain_again (hU : SubjectTables env.toUnicodeData)
    (hplain : ¬ separator <:+: canonical env.toUnicodeData v)
    (h : normalizeOrigin env v = .ok n) :
    normalizeOrigin env n = .ok n ∧ n.length ≤ 4096 ↔
      PlainSettled env.toUnicodeData v := by
  obtain ⟨hv, -, rfl⟩ := (normalizeOrigin_plain hplain).mp h
  have hno : ¬ separator <:+:
      env.casefold (canonical env.toUnicodeData v) := by
    rw [separator_infix_casefold hU]
    exact hplain
  constructor
  · rintro ⟨hagain, hlen⟩
    refine ⟨?_, hlen⟩
    by_cases hurl : separator <:+: canonical env.toUnicodeData
        (env.casefold (canonical env.toUnicodeData v))
    · -- a URL would be stored, and it would have the separator
      obtain ⟨-, -, parts, hparts, hstored⟩ :=
        (normalizeOrigin_url hurl).mp hagain
      obtain ⟨parsed, host, port, haccepted, rfl⟩ := originParts_spec hparts
      rw [haccepted.unsplit_eq hU] at hstored
      rw [hstored] at hno
      exact absurd separator_infix_authority hno
    · obtain ⟨-, -, hstored⟩ := (normalizeOrigin_plain hurl).mp hagain
      exact hstored.symm
  · rintro ⟨hclosed, hlen⟩
    obtain ⟨hne, hprintable⟩ := folded_readable hU hv
    have hfolded : env.casefold (canonical env.toUnicodeData
        (env.casefold (canonical env.toUnicodeData v))) =
          env.casefold (canonical env.toUnicodeData v) := hclosed
    have hplain' : ¬ separator <:+: canonical env.toUnicodeData
        (env.casefold (canonical env.toUnicodeData v)) := by
      rw [← separator_infix_casefold hU, hfolded]
      exact hno
    refine ⟨(normalizeOrigin_plain hplain').mpr
      ⟨hclosed.readable hU hne hprintable, ?_, hfolded.symm⟩, hlen⟩
    have hshorter := length_le_casefold hU (canonical env.toUnicodeData
      (env.casefold (canonical env.toUnicodeData v)))
    rw [hfolded] at hshorter
    omega

/-- The URL with its host encoded is not too long, and does not end with a
space when its fragment is gone. -/
def UrlSettled (env : SubjectEnv) (v : PyStr) : Prop :=
  ∀ parsed host port,
    Accepted env (canonical env.toUnicodeData v) parsed host port →
      (authority (env.casefold parsed.scheme) host port).length +
          parsed.target.length ≤ 4096 ∧
        ∀ c ∈ parsed.target.getLast?, PyStr.isSpace c = false

theorem Accepted.unique {host host' : PyStr} {port port' : Option ℤ}
    {parsed parsed' : SplitResult} (h : Accepted env raw parsed host port)
    (h' : Accepted env raw parsed' host' port') :
    parsed' = parsed ∧ host' = host ∧ port' = port := by
  have hsplit := h'.split
  rw [h.split, Option.some.injEq] at hsplit
  subst hsplit
  have hdomain := h'.domain
  rw [h.domain, Except.ok.injEq] at hdomain
  have hport := h'.port
  rw [h.port, Option.some.injEq] at hport
  exact ⟨rfl, hdomain.symm, hport.symm⟩

/-- The end of a stored URL: text in NFKC that is printable, without a
fragment. -/
structure UrlEnd (U : UnicodeData) (target : PyStr) : Prop where
  nfkc : U.nfkc target = target
  tail : Url.Tail target
  printable : target.all U.isPrintable = true
  noFragment : (35 : CodePoint) ∉ target

theorem UrlEnd.of_prefix (hU : AddressTables U) (h : UrlEnd U t)
    (hs : s <+: t) : UrlEnd U s := by
  refine ⟨?_, h.tail.of_prefix hs, ?_, fun hmem => h.noFragment (hs.subset hmem)⟩
  · refine hU.nfkc_part s t ?_
    rw [h.nfkc]
    exact hs.isInfix
  · have hall := List.all_eq_true.mp h.printable
    exact List.all_eq_true.mpr fun c hc => hall c (hs.subset hc)

theorem UrlEnd.clean (hU : SubjectTables U) (h : UrlEnd U t) :
    Url.Clean t :=
  clean_of_printable hU (List.all_eq_true.mp h.printable)

theorem Accepted.urlEnd (hU : SubjectTables env.toUnicodeData)
    (hv : Readable env.toUnicodeData v) {parsed : SplitResult} {host : PyStr}
    {port : Option ℤ} (h : Accepted env (canonical env.toUnicodeData v)
      parsed host port) : UrlEnd env.toUnicodeData parsed.target := by
  obtain ⟨hpath, -, hhash, hpart⟩ :=
    Url.split_target h.split (h.netloc_ne_nil hU)
  rw [cleaned_readable hU hv] at hpart
  exact
    { nfkc := hU.nfkc_part _ v (hpart.trans (isInfix_strip _))
      tail := hpath.tail_target
      printable := List.all_eq_true.mpr fun c hc => hv.2 c (hpart.subset hc)
      noFragment := hhash }

section Own

variable {scheme host : PyStr} {port : Option ℤ}

theorem authority_visible (hscheme : scheme ∈ schemes)
    (hhost : isHost host = true) (hport : ValidPort port) :
    Visible (authority scheme host port) := by
  intro c hc
  rw [authority, List.mem_append] at hc
  rcases hc with hc | hc
  · exact scheme_visible hscheme c hc
  · rcases List.mem_cons.mp hc with rfl | hc
    · decide
    · rcases List.mem_cons.mp hc with rfl | hc
      · decide
      · rcases List.mem_cons.mp hc with rfl | hc
        · decide
        · exact originNetloc_visible hhost hport c hc

theorem authority_ne_nil : authority scheme host port ≠ [] :=
  List.append_ne_nil_of_right_ne_nil _ (List.cons_ne_nil _ _)

/-- NFKC and stripping only take the spaces behind a stored URL. -/
theorem canonical_authority (hU : SubjectTables U)
    (hvisible : Visible (authority scheme host port)) (h : UrlEnd U t) :
    canonical U (authority scheme host port ++ t) =
      authority scheme host port ++ t.rdropWhile PyStr.isSpace := by
  have hnfkc : U.nfkc (authority scheme host port ++ t) =
      authority scheme host port ++ t := by
    have hascii := nfkc_ascii hU.toAddressTables hvisible.ascii
    cases t with
    | nil => rw [List.append_nil, hascii]
    | cons c t =>
        have hc : c.val < 128 := by
          rcases h.tail with h | h | h
          · cases h
          · cases h
            decide
          · cases h
            decide
        rw [hU.nfkc_boundary _ _ _ hc, hascii, h.nfkc]
  rw [canonical, hnfkc, strip_front authority_ne_nil hvisible.unspaced]

/-- The parts of a stored URL with another end. -/
def ownParts (scheme host : PyStr) (port : Option ℤ) (target : PyStr) :
    SplitResult :=
  ⟨scheme, originNetloc host scheme port, (target.cut 63).1,
    ((target.cut 63).2).getD [], []⟩

theorem ownParts_target_prefix :
    (ownParts scheme host port t).target <+: t :=
  Url.target_prefix rfl rfl

/-- What is stored of a stored URL. -/
theorem normalizeOrigin_own (hU : SubjectTables env.toUnicodeData)
    (hscheme : scheme ∈ schemes) (hhost : isHost host = true)
    (hlower : host.asciiLower = host) (hport : ValidPort port)
    (h : UrlEnd env.toUnicodeData t) :
    normalizeOrigin env (authority scheme host port ++ t) = .ok s ↔
      (authority scheme host port ++
        t.rdropWhile PyStr.isSpace).length ≤ 4096 ∧
      s = authority scheme host port ++ (ownParts scheme host port
        (t.rdropWhile PyStr.isSpace)).target := by
  have hvisible := authority_visible hscheme hhost hport
  have hcanonical := canonical_authority hU hvisible h
  have hend : UrlEnd env.toUnicodeData (t.rdropWhile PyStr.isSpace) :=
    h.of_prefix hU.toAddressTables (List.rdropWhile_prefix PyStr.isSpace t)
  have hparts := originParts_own hU hscheme hhost hlower hport hend.tail
    (hend.clean hU) hend.noFragment
  have hunsplit : Url.unsplit (ownParts scheme host port
      (t.rdropWhile PyStr.isSpace)) = authority scheme host port ++
        (ownParts scheme host port (t.rdropWhile PyStr.isSpace)).target := by
    rw [Url.unsplit_eq (r := ownParts scheme host port _)
      (scheme_ne_nil hscheme) hend.tail.absolute rfl, authority_append]
    rfl
  have hreadable : Readable env.toUnicodeData
      (authority scheme host port ++ t) := by
    rw [Readable, hcanonical]
    refine ⟨List.append_ne_nil_of_left_ne_nil authority_ne_nil _, ?_⟩
    intro c hc
    rcases List.mem_append.mp hc with hc | hc
    · have hc := hvisible c hc
      exact hU.printable_ascii c (by omega) hc.2
    · exact List.all_eq_true.mp hend.printable c hc
  have hurl : separator <:+: canonical env.toUnicodeData
      (authority scheme host port ++ t) := by
    rw [hcanonical]
    exact separator_infix_authority
  rw [normalizeOrigin_url hurl, hcanonical, hparts, ← hunsplit]
  simp only [Option.some.injEq, exists_eq_left']
  exact and_iff_right hreadable

end Own

theorem url_again (hU : SubjectTables env.toUnicodeData)
    (hurl : separator <:+: canonical env.toUnicodeData v)
    (h : normalizeOrigin env v = .ok n) :
    normalizeOrigin env n = .ok n ∧ n.length ≤ 4096 ↔ UrlSettled env v := by
  obtain ⟨hv, -, parts, hparts, rfl⟩ := (normalizeOrigin_url hurl).mp h
  obtain ⟨parsed, host, port, haccepted, rfl⟩ := originParts_spec hparts
  rw [haccepted.unsplit_eq hU]
  have hsettled : UrlSettled env v ↔
      (authority (env.casefold parsed.scheme) host port).length +
          parsed.target.length ≤ 4096 ∧
        ∀ c ∈ parsed.target.getLast?, PyStr.isSpace c = false := by
    constructor
    · intro hall
      exact hall parsed host port haccepted
    · rintro hone parsed' host' port' haccepted'
      obtain ⟨rfl, rfl, rfl⟩ := haccepted.unique haccepted'
      exact hone
  have hend := haccepted.urlEnd hU hv
  obtain ⟨-, hquestion, -⟩ :=
    Url.split_target haccepted.split (haccepted.netloc_ne_nil hU)
  rw [hsettled, normalizeOrigin_own hU haccepted.scheme haccepted.isHost
    (haccepted.hostLower hU) haccepted.validPort hend, List.length_append,
    List.append_right_inj]
  constructor
  · rintro ⟨⟨-, hsame⟩, hlen⟩
    rw [List.length_append] at hlen
    refine ⟨hlen, ?_⟩
    -- the end that is stored again is no longer than what stripping leaves
    have hprefix := List.rdropWhile_prefix PyStr.isSpace parsed.target
    have hstored : parsed.target <+:
        parsed.target.rdropWhile PyStr.isSpace := by
      have hown : (ownParts (env.casefold parsed.scheme) host port
          (parsed.target.rdropWhile PyStr.isSpace)).target <+: _ :=
        ownParts_target_prefix
      rw [← hsame] at hown
      exact hown
    have hkept : parsed.target.rdropWhile PyStr.isSpace = parsed.target :=
      hprefix.eq_of_length_le hstored.length_le
    intro c hc
    obtain ⟨hne, hlast⟩ := List.mem_getLast?_eq_getLast hc
    rw [List.rdropWhile_eq_self_iff] at hkept
    rw [hlast]
    exact Bool.eq_false_iff.mpr (hkept hne)
  · rintro ⟨hlen, hlast⟩
    have hkept : parsed.target.rdropWhile PyStr.isSpace = parsed.target := by
      rw [List.rdropWhile_eq_self_iff]
      intro hne
      rw [hlast _ (List.getLast_mem_getLast? hne)]
      exact Bool.false_ne_true
    obtain ⟨hpath, hquery⟩ := Url.cut_target hquestion
    have hown : (ownParts (env.casefold parsed.scheme) host port
        parsed.target).target = parsed.target :=
      Url.target_congr hpath hquery
    rw [hkept, hown, List.length_append]
    exact ⟨⟨hlen, rfl⟩, hlen⟩

/-! ## §7  The law -/

/-- When a stored value is found again. -/
def Settled (env : SubjectEnv) (kind : SubjectKind) (v : PyStr) : Prop :=
  match kind with
  | .email => EmailSettled env.toUnicodeData v
  | .username => Closed env.toUnicodeData
      (env.casefold (canonical env.toUnicodeData v))
  | .origin =>
      if separator <:+: canonical env.toUnicodeData v then UrlSettled env v
      else PlainSettled env.toUnicodeData v
  | .domain => True
  | .phone => True
  | .password => True

theorem origin_again (hU : SubjectTables env.toUnicodeData)
    (h : normalizeOrigin env v = .ok n) :
    normalizeOrigin env n = .ok n ∧ n.length ≤ 4096 ↔
      Settled env .origin v := by
  unfold Settled
  dsimp only
  split
  · rename_i hurl
    exact url_again hU hurl h
  · rename_i hplain
    exact plain_again hU hplain h

theorem refound_username_iff (hU : SubjectTables env.toUnicodeData)
    (h : normalizeSubject env .username v = .ok subject) :
    Refound env .username subject.valueNorm ↔ Settled env .username v := by
  obtain ⟨hv, hn, -⟩ := (normalizeSubject_eq_ok (by decide)).mp h
  obtain ⟨hlen, hstored⟩ := bounded_eq_ok.mp hn
  rw [Refound, normalizeSubject_again (by decide), hstored]
  simp only [inputBound, Option.mem_some_iff, forall_eq']
  rw [and_iff_left hlen]
  exact username_again hU hv hlen

theorem refound_origin_iff (hU : SubjectTables env.toUnicodeData)
    (h : normalizeSubject env .origin v = .ok subject) :
    Refound env .origin subject.valueNorm ↔ Settled env .origin v := by
  have htables := hU.toAddressTables
  obtain ⟨-, hn, -⟩ := (normalizeSubject_eq_ok (by decide)).mp h
  have horigin : normalizeOrigin env v = .ok subject.valueNorm := by
    rw [← normalizeOrigin_canonical htables]
    exact hn
  rw [Refound, normalizeSubject_again (by decide)]
  simp only [inputBound, Option.mem_some_iff, forall_eq']
  rw [← origin_again hU horigin]
  refine and_congr_left fun _ => ?_
  rw [normalForm, normalizeOrigin_canonical htables]
  exact and_iff_right_of_imp normalizeOrigin_readable

/-- Every ASCII username is found again, and every ASCII origin that is no
URL. -/
theorem ascii_refound (hU : SubjectTables env.toUnicodeData)
    (hascii : ∀ c ∈ v, c.val < 128)
    (hkind : kind = .username ∨
      kind = .origin ∧ ¬ separator <:+: canonical env.toUnicodeData v)
    (h : normalizeSubject env kind v = .ok subject) :
    Refound env kind subject.valueNorm := by
  have hclosed := closed_ascii hU hascii
  rcases hkind with rfl | ⟨rfl, hplain⟩
  · exact (refound_username_iff hU h).mpr hclosed
  · rw [refound_origin_iff hU h, Settled, if_neg hplain]
    obtain ⟨-, hn, -⟩ := (normalizeSubject_eq_ok (by decide)).mp h
    rw [normalForm, normalizeOrigin_canonical hU.toAddressTables] at hn
    obtain ⟨-, hlen, -⟩ := (normalizeOrigin_plain hplain).mp hn
    refine ⟨hclosed, ?_⟩
    -- folding ASCII text does not make it longer
    rw [canonical, nfkc_ascii hU.toAddressTables hascii] at hlen ⊢
    rw [hU.casefold_ascii _ fun c hc =>
      hascii c ((isInfix_strip v).subset hc), asciiLower_length]
    exact hlen

/-- **Stored subjects.** The value that a subject of any kind but a password is
stored with is accepted again, within the bound, and stored as it is, exactly
when folding it again does not change it, encoding its host has not made it too
long and no space is left at its end. -/
theorem normalizeSubject_refound_iff (hU : SubjectTables env.toUnicodeData)
    (hkind : kind ≠ .password)
    (h : normalizeSubject env kind v = .ok subject) :
    Refound env kind subject.valueNorm ↔ Settled env kind v := by
  obtain ⟨hv, hn, -⟩ := (normalizeSubject_eq_ok hkind).mp h
  cases kind with
  | password => exact absurd rfl hkind
  | email =>
      rw [Refound, normalizeSubject_again hkind]
      simp only [inputBound, Option.mem_some_iff, forall_eq']
      exact email_again hU hv hn
  | domain =>
      rw [Refound, normalizeSubject_again hkind]
      simp only [inputBound, Option.mem_def, reduceCtorEq, false_implies,
        implies_true, and_true, Settled, iff_true]
      exact domain_again hU hn
  | phone =>
      rw [Refound, normalizeSubject_again hkind]
      simp only [inputBound, Option.mem_def, reduceCtorEq, false_implies,
        implies_true, and_true, Settled, iff_true]
      exact phone_again hU hn
  | username => exact refound_username_iff hU h
  | origin => exact refound_origin_iff hU h

def asciiEnv : SubjectEnv where
  toUnicodeData := asciiData
  bracketedNetloc _ := false
  sha256 _ := []

example : (normalizeSubject asciiEnv .origin
    (PyStr.lit "HTTPS://Example.Test:443/path#fragment")).map
      NormalizedSubject.valueNorm =
    .ok (PyStr.lit "https://example.test/path") := rfl

theorem padded_address_refound :
    ∃ subject, normalizeSubject asciiEnv .email
        (PyStr.lit "  Alice@EXAMPLE.TEST ") = .ok subject ∧
      Refound asciiEnv .email subject.valueNorm := by
  refine ⟨⟨.email, PyStr.lit "alice@example.test",
    PyStr.lit "alice@example.test"⟩, rfl, ?_⟩
  refine (normalizeSubject_refound_iff (v := PyStr.lit "  Alice@EXAMPLE.TEST ")
    subjectTables_ascii (by decide) rfl).mpr ⟨by decide, ?_⟩
  intro domain hdomain
  have hencoded : normalizeDomain asciiData (PyStr.lit "example.test") =
      .ok (PyStr.lit "example.test") := rfl
  obtain rfl : PyStr.lit "example.test" = domain :=
    Except.ok.inj (hencoded.symm.trans hdomain)
  decide

/-- The space before a fragment is stored, and the next time stripped. -/
theorem space_before_fragment :
    ∃ subject again,
      normalizeSubject asciiEnv .origin
        (PyStr.lit "https://example.com/a #x") = .ok subject ∧
      normalizeSubject asciiEnv .origin subject.valueNorm = .ok again ∧
      subject.valueNorm = PyStr.lit "https://example.com/a " ∧
      again.valueNorm = PyStr.lit "https://example.com/a" ∧
      ¬ Refound asciiEnv .origin subject.valueNorm := by
  have hagain : normalizeSubject asciiEnv .origin
      (PyStr.lit "https://example.com/a ") =
        .ok ⟨.origin, PyStr.lit "https://example.com/a",
          PyStr.lit "https://example.com/a"⟩ := rfl
  refine ⟨⟨.origin, PyStr.lit "https://example.com/a ",
    PyStr.lit "https://example.com/a "⟩, _, rfl, hagain, rfl, rfl, ?_⟩
  rintro ⟨⟨subject, h, hsame⟩, -⟩
  rw [hagain, Except.ok.injEq] at h
  rw [← h] at hsame
  revert hsame
  decide

end LeakcheckHub.Normalization
