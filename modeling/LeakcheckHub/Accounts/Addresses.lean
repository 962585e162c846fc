import LeakcheckHub.Accounts.Requests
import LeakcheckHub.Normalization
import Mathlib.Data.List.DropRight

/-!
# Addresses

Which stored addresses the subject normalisation of `app/normalization.py`
leaves as they are. It folds the case of the NFKC form and encodes the domain;
an address with its case folded is its own subject only if neither changes it.

§1 at signs and spaces · §2 the tables on ASCII · §3 addresses in canonical
form · §4 the addresses of local administrators.
-/

namespace LeakcheckHub.Normalization

open Foundation Accounts

/-! ## §1  At signs and spaces -/

variable {s t name domain email raw : PyStr}

theorem parts_append (hname : commercialAt ∉ name) (domain : PyStr) :
    localPart (name ++ commercialAt :: domain) = name ∧
      domainPart (name ++ commercialAt :: domain) = domain := by
  have hne : ∀ c ∈ name, (c != commercialAt) = true := by
    intro c hc
    rw [bne_iff_ne]
    rintro rfl
    exact hname hc
  constructor
  · rw [localPart, List.takeWhile_append_of_pos hne]
    simp
  · rw [domainPart, List.dropWhile_append_of_pos hne]
    simp

theorem append_parts (hat : email.count commercialAt = 1) :
    email = localPart email ++ commercialAt :: domainPart email := by
  have hsplit := List.takeWhile_append_dropWhile (p := (· != commercialAt))
    (l := email)
  have hmem : commercialAt ∈ email :=
    List.count_pos_iff.mp (Nat.lt_of_lt_of_eq Nat.zero_lt_one hat.symm)
  cases hrest : email.dropWhile (· != commercialAt) with
  | nil =>
      have hall := List.dropWhile_eq_nil_iff.mp hrest _ hmem
      rw [bne_self_eq_false] at hall
      cases hall
  | cons c rest =>
      have hc : c = commercialAt := by
        have hhead := List.head_dropWhile_not (· != commercialAt)
          (l := email) (by rw [hrest]; exact List.cons_ne_nil c rest)
        simp only [hrest, List.head_cons] at hhead
        simpa using hhead
      rw [hc] at hrest
      rw [localPart, domainPart, hrest, List.drop_one, List.tail_cons, ← hrest]
      exact hsplit.symm

def Unspaced (s : PyStr) : Prop := ∀ c ∈ s, PyStr.isSpace c = false

theorem dropWhile_unspaced (ht : t ≠ []) (h : Unspaced t) :
    (t ++ s).dropWhile PyStr.isSpace = t ++ s := by
  cases t with
  | nil => exact absurd rfl ht
  | cons c t =>
      have hc := h c List.mem_cons_self
      rw [List.cons_append, List.dropWhile_cons, hc]
      rfl

/-- Spaces are stripped from the front of the rest alone. -/
theorem strip_append (ht : t ≠ []) (h : Unspaced t) :
    PyStr.strip (s ++ t) = s.dropWhile PyStr.isSpace ++ t := by
  have hfront : (s ++ t).dropWhile PyStr.isSpace =
      s.dropWhile PyStr.isSpace ++ t := by
    rw [List.dropWhile_append]
    split
    · rename_i hempty
      have hback := dropWhile_unspaced (s := []) ht h
      rw [List.append_nil] at hback
      rw [hback, List.isEmpty_iff.mp hempty, List.nil_append]
    · rfl
  have hback : Unspaced t.reverse := fun c hc => h c (List.mem_reverse.mp hc)
  rw [PyStr.strip, hfront, List.reverse_append,
    dropWhile_unspaced (mt List.reverse_eq_nil_iff.mp ht) hback,
    List.reverse_append, List.reverse_reverse, List.reverse_reverse]

theorem strip_unspaced (h : Unspaced s) : PyStr.strip s = s := by
  cases s with
  | nil => rfl
  | cons c s =>
      have hstrip := strip_append (s := []) (List.cons_ne_nil c s) h
      simpa using hstrip

theorem isPrefix_strip (s : PyStr) : s.strip <+: s.dropWhile PyStr.isSpace := by
  rw [PyStr.strip, ← List.reverse_suffix, List.reverse_reverse]
  exact List.dropWhile_suffix _

theorem isInfix_strip (s : PyStr) : s.strip <:+: s :=
  (isPrefix_strip s).isInfix.trans (List.dropWhile_suffix _).isInfix

theorem strip_idem (s : PyStr) : s.strip.strip = s.strip := by
  have hfront : s.strip.dropWhile PyStr.isSpace = s.strip := by
    rw [List.dropWhile_eq_self_iff]
    intro hlen
    have hlen' := Nat.lt_of_lt_of_le hlen (isPrefix_strip s).length_le
    have hhead : s.strip[0] = (s.dropWhile PyStr.isSpace)[0] :=
      (isPrefix_strip s).getElem hlen
    rw [hhead]
    exact List.dropWhile_get_zero_not _ s hlen'
  have hback : s.strip.reverse.dropWhile PyStr.isSpace = s.strip.reverse := by
    rw [PyStr.strip, List.reverse_reverse]
    exact List.dropWhile_idempotent _ _
  rw [PyStr.strip, hfront, hback, List.reverse_reverse]

/-! ## §2  The tables on ASCII -/

/-- What the Unicode standard and the `idna` codec say of the tables: any part
of a text in NFKC is in NFKC, and ASCII neither changes in it nor joins what
precedes it; folding the case works character by character and is done once;
no upper-case ASCII letter is in a text in lower case; ASCII labels are encoded
as they are. -/
structure AddressTables (U : UnicodeData) : Prop where
  nfkc_part : ∀ s t, s <:+: U.nfkc t → U.nfkc s = s
  nfkc_append : ∀ s t, (∀ c ∈ t, c.val < 128) → U.nfkc (s ++ t) = U.nfkc s ++ t
  casefold_append : ∀ s t, U.casefold (s ++ t) = U.casefold s ++ U.casefold t
  casefold_idem : ∀ s, U.casefold (U.casefold s) = U.casefold s
  casefold_ascii : ∀ s, (∀ c ∈ s, c.val < 128) → U.casefold s = s.asciiLower
  lower_ascii : ∀ s, ∀ c ∈ U.lower s, ¬ (65 ≤ c.val ∧ c.val ≤ 90)
  printable_ascii : ∀ c, 32 ≤ c.val → c.val ≤ 126 → U.isPrintable c = true
  idna_host : ∀ s, isHost s = true → U.idna s = some s

theorem asciiLower_length (s : PyStr) : s.asciiLower.length = s.length :=
  List.length_map _

theorem asciiLower_of_lower (h : ∀ c ∈ s, ¬ (65 ≤ c.val ∧ c.val ≤ 90)) :
    s.asciiLower = s := by
  have hid : ∀ c ∈ s, (if 65 ≤ c.val ∧ c.val ≤ 90 then c + 32 else c) = c :=
    fun c hc => if_neg (h c hc)
  exact (List.map_congr_left hid).trans (List.map_id s)

theorem asciiLower_lower : ∀ c ∈ s.asciiLower, ¬ (65 ≤ c.val ∧ c.val ≤ 90) := by
  intro c hc
  obtain ⟨c, -, rfl⟩ := List.mem_map.mp hc
  split
  · rename_i hupper
    have hval : (c + 32 : CodePoint).val = c.val + 32 := by
      rw [Fin.val_add]
      change (c.val + 32) % 0x110000 = _
      omega
    omega
  · assumption

/-- The tables of ASCII texts are such tables. -/
theorem addressTables_ascii : AddressTables asciiData where
  nfkc_part _ _ _ := rfl
  nfkc_append _ _ _ := rfl
  casefold_append s t := List.map_append
  casefold_idem s := asciiLower_of_lower asciiLower_lower
  casefold_ascii _ _ := rfl
  lower_ascii _ := asciiLower_lower
  printable_ascii c h₁ h₂ := by simp [asciiData, h₁, h₂]
  idna_host _ _ := rfl

variable {U : UnicodeData}

theorem nfkc_ascii (hU : AddressTables U) (h : ∀ c ∈ s, c.val < 128) :
    U.nfkc s = s := by
  have hnil : U.nfkc [] = [] :=
    hU.nfkc_part [] [] (List.nil_infix)
  have happend := hU.nfkc_append [] s h
  rw [List.nil_append, hnil, List.nil_append] at happend
  exact happend

theorem canonical_idem (hU : AddressTables U) :
    canonical U (canonical U s) = canonical U s := by
  have hnfkc : U.nfkc (canonical U s) = canonical U s :=
    hU.nfkc_part _ s (isInfix_strip _)
  rw [canonical, hnfkc]
  exact strip_idem (U.nfkc s)

/-! ## §3  Addresses in canonical form -/

theorem Visible.unspaced (h : Visible s) : Unspaced s := by
  intro c hc
  have hvisible := h c hc
  simp only [PyStr.isSpace, List.contains_eq_mem, List.mem_cons,
    List.not_mem_nil, or_false, Bool.or_eq_false_iff, Bool.and_eq_false_iff,
    decide_eq_false_iff_not]
  omega

theorem Visible.canonical_eq (hU : AddressTables U) (h : Visible s) :
    canonical U s = s := by
  rw [canonical, nfkc_ascii hU h.ascii]
  exact strip_unspaced h.unspaced

theorem Visible.readable (hU : AddressTables U) (h : Visible s) (hs : s ≠ []) :
    Readable U s := by
  rw [Readable, h.canonical_eq hU]
  refine ⟨hs, fun c hc => hU.printable_ascii c ?_ (h c hc).2⟩
  have hvisible := (h c hc).1
  omega

theorem isHost_ne_nil (h : isHost domain = true) : domain ≠ [] := by
  rintro rfl
  cases h

theorem visible_at_host (h : isHost domain = true) :
    Visible (commercialAt :: domain) := by
  intro c hc
  rcases List.mem_cons.mp hc with rfl | hc
  · decide
  · exact visible_of_isHost h c hc

theorem at_notMem_host (h : isHost domain = true) : commercialAt ∉ domain := by
  intro hmem
  have hat := mem_isHost h _ hmem
  revert hat
  decide

/-- The empty text is no label. -/
theorem undotted_host (h : isHost domain = true) : undotted domain = domain := by
  have hlabels := List.all_eq_true.mp (Bool.and_eq_true_iff.mp h).2
  cases hrev : domain.reverse with
  | nil => exact absurd (List.reverse_eq_nil_iff.mp hrev) (isHost_ne_nil h)
  | cons c rest =>
      have hdomain : domain = rest.reverse ++ [c] := by
        rw [← List.reverse_cons, ← hrev, List.reverse_reverse]
      have hc : c ≠ dot := by
        rintro rfl
        rw [hdomain, List.splitOn_append_cons_self] at hlabels
        have hempty := hlabels [] (List.mem_append_right _
          (List.mem_singleton_self _))
        cases hempty
      rw [undotted, hrev, List.dropWhile_cons, if_neg (by simpa using hc),
        ← hrev, List.reverse_reverse]

/-- A host name in lower case is its own normal form. -/
theorem normalizeDomain_host (hU : AddressTables U)
    (h : isHost domain = true) (hlower : domain.asciiLower = domain) :
    normalizeDomain U domain = .ok domain := by
  have hvisible := visible_of_isHost h
  refine normalizeDomain_eq_ok.mpr
    ⟨hvisible.readable hU (isHost_ne_nil h), ?_, h⟩
  rw [hvisible.canonical_eq hU, hU.casefold_ascii domain hvisible.ascii,
    hlower, undotted_host h]
  exact hU.idna_host domain h

/-- An address that is printable NFKC with its case folded, with a local part
and a host name. -/
structure Canonical (U : UnicodeData) (email : PyStr) : Prop where
  readable : Readable U email
  folded : U.casefold (canonical U email) = email
  short : email.length ≤ 320
  localPart : hasLocalPart email = true
  host : isHost (domainPart email) = true

instance (U : UnicodeData) (email : PyStr) : Decidable (Canonical U email) :=
  decidable_of_iff (Readable U email ∧
      U.casefold (canonical U email) = email ∧ email.length ≤ 320 ∧
      hasLocalPart email = true ∧ isHost (domainPart email) = true)
    ⟨fun ⟨h₁, h₂, h₃, h₄, h₅⟩ => ⟨h₁, h₂, h₃, h₄, h₅⟩,
      fun h => ⟨h.readable, h.folded, h.short, h.localPart, h.host⟩⟩

theorem count_of_hasLocalPart (h : hasLocalPart email = true) :
    email.count commercialAt = 1 := by
  simp only [hasLocalPart, Bool.and_eq_true, decide_eq_true_eq] at h
  exact h.1.1

/-- The at sign and an ASCII domain of a folded address are in lower case. -/
theorem lower_of_folded (hU : AddressTables U)
    (hfold : U.casefold (name ++ t) = name ++ t) (ht : ∀ c ∈ t, c.val < 128) :
    t.asciiLower = t := by
  rw [hU.casefold_append, hU.casefold_ascii t ht] at hfold
  exact (List.append_inj' hfold (asciiLower_length t)).2

/-- NFKC, stripping and folding leave an ASCII domain of a folded address where
it is. -/
theorem folded_canonical (hU : AddressTables U)
    (hfold : U.casefold (name ++ commercialAt :: domain) =
      name ++ commercialAt :: domain) (hhost : isHost domain = true) :
    U.casefold (canonical U (name ++ commercialAt :: domain)) =
      U.casefold ((U.nfkc name).dropWhile PyStr.isSpace) ++
        commercialAt :: domain := by
  have hvisible := visible_at_host hhost
  have hlower := lower_of_folded hU hfold hvisible.ascii
  rw [canonical, hU.nfkc_append _ _ hvisible.ascii,
    strip_append (List.cons_ne_nil _ _) hvisible.unspaced,
    hU.casefold_append, hU.casefold_ascii _ hvisible.ascii, hlower]

theorem canonical_of_fixed (hU : AddressTables U)
    (hfold : U.casefold email = email)
    (h : normalizeEmailSubject U email = .ok email) : Canonical U email := by
  obtain ⟨hreadable, h⟩ := normalizeEmailSubject_eq_ok.mp h
  obtain ⟨⟨-, hshort⟩, hlocal, domain, hdomain, heq⟩ :=
    normalizeEmail_eq_ok.mp h
  obtain ⟨-, -, hhost⟩ := normalizeDomain_eq_ok.mp hdomain
  rw [canonical_idem hU] at hshort hlocal heq
  rw [List.append_assoc, List.singleton_append] at heq
  -- the folded form has the same domain, so its one at sign is in the same
  -- place, and the local parts agree as well
  have hfolded := folded_canonical hU (heq ▸ hfold) hhost
  rw [← heq] at hfolded
  have hat := count_of_hasLocalPart hlocal
  have hname : commercialAt ∉
      U.casefold ((U.nfkc (localPart (U.casefold (canonical U email)))).dropWhile
        PyStr.isSpace) := by
    rw [hfolded, List.count_append, List.count_cons_self] at hat
    exact List.count_eq_zero.mp (by omega)
  obtain ⟨hlocalPart, hdomainPart⟩ := parts_append hname domain
  rw [← hfolded] at hlocalPart hdomainPart
  have hsame : U.casefold (canonical U email) = email :=
    calc U.casefold (canonical U email)
        = _ ++ commercialAt :: domain := hfolded
      _ = localPart (U.casefold (canonical U email)) ++
            commercialAt :: domain :=
          congrArg (· ++ commercialAt :: domain) hlocalPart.symm
      _ = email := heq.symm
  rw [hsame] at hshort hlocal hdomainPart
  exact
    { readable := hreadable
      folded := hsame
      short := hshort
      localPart := hlocal
      host := hdomainPart ▸ hhost }

theorem fixed_of_canonical (hU : AddressTables U) (h : Canonical U email) :
    normalizeEmailSubject U email = .ok email := by
  have hparts := append_parts (count_of_hasLocalPart h.localPart)
  have hfold : U.casefold email = email := by
    rw [← h.folded, hU.casefold_idem]
  have hlower : (domainPart email).asciiLower = domainPart email := by
    have hcons := lower_of_folded hU (hparts ▸ hfold)
      (visible_at_host h.host).ascii
    exact (List.cons.inj hcons).2
  have hdomain := normalizeDomain_host hU h.host hlower
  refine normalizeEmailSubject_eq_ok.mpr
    ⟨h.readable, normalizeEmail_eq_ok.mpr ?_⟩
  rw [Foldable, Readable, canonical_idem hU, h.folded]
  refine ⟨⟨h.readable, h.short⟩, h.localPart, _, hdomain, ?_⟩
  rw [List.append_assoc, List.singleton_append]
  exact hparts

/-- **Own subjects.** An address with its case folded is the normal form of
itself if and only if it is in canonical form. -/
theorem normalizeEmailSubject_eq_self (hU : AddressTables U)
    (hfold : U.casefold email = email) :
    normalizeEmailSubject U email = .ok email ↔ Canonical U email :=
  ⟨canonical_of_fixed hU hfold, fixed_of_canonical hU⟩

/-! ## §4  The addresses of local administrators -/

variable {ops : TextOps}

theorem visible_of_isLocalChar {c : CodePoint} (h : isLocalChar c = true) :
    (33 ≤ c.val ∧ c.val ≤ 126) ∧ c ≠ commercialAt := by
  rw [isLocalChar, Bool.or_eq_true] at h
  rcases h with halnum | hsymbol
  · simp only [isAlnum, Bool.or_eq_true, Bool.and_eq_true, decide_eq_true_eq]
      at halnum
    refine ⟨by omega, ?_⟩
    rintro rfl
    revert halnum
    decide
  · have hall : (PyStr.lit ".!#$%&'*+/=?^_\x60\x7b|\x7d~-").all (fun c =>
        decide (33 ≤ c.val) && decide (c.val ≤ 126) && c != commercialAt) =
          true := by
      decide
    have hc := List.all_eq_true.mp hall c (List.contains_iff_mem.mp hsymbol)
    simpa using hc

theorem validLabel_of_isDomainLabel (h : isDomainLabel s = true) :
    validLabel s = true := by
  simp only [isDomainLabel, Bool.and_eq_true] at h
  obtain ⟨⟨⟨hhead, hlast⟩, hlen⟩, hall⟩ := h
  have hends : ∀ o : Option CodePoint, o.any isAlnum = true →
      (o != some hyphen) = true := by
    intro o ho
    rw [bne_iff_ne]
    rintro rfl
    revert ho
    decide
  have hne : s.isEmpty = false := by
    cases s with
    | nil => cases hhead
    | cons c s => rfl
  simp only [validLabel, hne, hlen, hends _ hhead, hends _ hlast,
    Bool.not_false, Bool.and_self, Bool.true_and]
  exact hall

/-- Two parts around the at sign, the second a host name but for its length. -/
theorem matchesEmailPattern_spec (h : matchesEmailPattern email = true) :
    ∃ name domain, email = name ++ commercialAt :: domain ∧ name ≠ [] ∧
      (∀ c ∈ name, isLocalChar c = true) ∧
      2 ≤ (domain.splitOn dot).length ∧
      (domain.splitOn dot).all validLabel = true := by
  unfold matchesEmailPattern at h
  split at h
  · rename_i name domain hsplit
    have hjoin : [commercialAt].intercalate (email.splitOn commercialAt) =
        email := List.intercalate_splitOn commercialAt
    rw [show email.splitOn commercialAt = [name, domain] from hsplit,
      List.intercalate_cons_cons, List.intercalate_singleton,
      List.append_assoc, List.singleton_append] at hjoin
    simp only [Bool.and_eq_true, Bool.not_eq_true', decide_eq_true_eq] at h
    obtain ⟨⟨⟨hne, hname⟩, hlabels⟩, hall⟩ := h
    refine ⟨name, domain, hjoin.symm, ?_, List.all_eq_true.mp hname, hlabels,
      ?_⟩
    · rintro rfl
      cases hne
    · refine List.all_eq_true.mpr fun label hlabel => ?_
      exact validLabel_of_isDomainLabel (List.all_eq_true.mp hall label hlabel)
  · cases h

theorem normaliseAdminEmail_spec (h : normaliseAdminEmail ops raw = .ok email) :
    email = ops.lower raw.strip ∧ email.length ≤ 255 ∧
      (∀ c ∈ email, c.val < 128) ∧ matchesEmailPattern email = true := by
  unfold normaliseAdminEmail at h
  dsimp only at h
  split at h
  · cases h
  · rename_i hvalid
    cases h
    simp only [Bool.or_eq_true, Bool.not_eq_true', decide_eq_true_eq, not_or,
      Bool.not_eq_false, Nat.not_lt] at hvalid
    obtain ⟨⟨hascii, hlen⟩, hmatch⟩ := hvalid
    refine ⟨rfl, hlen, ?_, hmatch⟩
    simpa [PyStr.isAscii] using hascii

theorem folded_of_normaliseAdminEmail (hU : AddressTables ops.toUnicodeData)
    (h : normaliseAdminEmail ops raw = .ok email) :
    ops.casefold email = email := by
  obtain ⟨rfl, -, hascii, -⟩ := normaliseAdminEmail_spec h
  rw [hU.casefold_ascii _ hascii]
  exact asciiLower_of_lower (hU.lower_ascii _)

/-- Local administrators have no other addresses. -/
theorem canonical_of_normaliseAdminEmail (hU : AddressTables ops.toUnicodeData)
    (h : normaliseAdminEmail ops raw = .ok email) :
    Canonical ops.toUnicodeData email := by
  have hfold := folded_of_normaliseAdminEmail hU h
  obtain ⟨-, hlen, -, hmatch⟩ := normaliseAdminEmail_spec h
  obtain ⟨name, domain, rfl, hne, hname, hlabels, hall⟩ :=
    matchesEmailPattern_spec hmatch
  have hat : commercialAt ∉ name := fun hmem =>
    (visible_of_isLocalChar (hname _ hmem)).2 rfl
  have hhost : isHost domain = true := by
    rw [List.length_append, List.length_cons] at hlen
    have hname := List.length_pos_iff.mpr hne
    rw [isHost, hall, decide_eq_true hlabels, decide_eq_true (by omega)]
    rfl
  have hvisible : Visible (name ++ commercialAt :: domain) := by
    intro c hc
    rcases List.mem_append.mp hc with hc | hc
    · exact (visible_of_isLocalChar (hname c hc)).1
    · exact visible_at_host hhost c hc
  obtain ⟨hlocal, hdomain⟩ := parts_append hat domain
  constructor
  case readable =>
    exact hvisible.readable hU (List.append_ne_nil_of_right_ne_nil _
      (List.cons_ne_nil _ _))
  case folded => rw [hvisible.canonical_eq hU, hfold]
  case short => omega
  case localPart =>
    have hcount : (name ++ commercialAt :: domain).count commercialAt = 1 := by
      rw [List.count_append, List.count_cons_self,
        List.count_eq_zero.mpr hat, List.count_eq_zero.mpr (at_notMem_host hhost)]
    have hspaces : name.any PyStr.isSpace = false := by
      rw [List.any_eq_false]
      intro c hc
      rw [hvisible.unspaced c (List.mem_append_left _ hc)]
      exact Bool.false_ne_true
    rw [hasLocalPart, hlocal, hcount, hspaces, decide_eq_true rfl]
    simpa using hne
  case host => rwa [hdomain]

end LeakcheckHub.Normalization
