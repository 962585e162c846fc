import LeakcheckHub.Foundation.PyText
import Mathlib.Data.List.TakeWhile

/-!
# Splitting URLs

`urllib.parse.urlsplit` on text, the parts of its result that a validator
looks at, and `urlunsplit`. Unicode and the syntax of IP literals are tables.
-/

namespace LeakcheckHub.Foundation

structure UrlTables where
  lower : PyStr → PyStr
  nfkc : PyStr → PyStr
  /-- What `_check_bracketed_netloc` accepts. -/
  bracketedNetloc : PyStr → Bool

structure SplitResult where
  scheme : PyStr
  netloc : PyStr
  path : PyStr
  query : PyStr
  fragment : PyStr
deriving DecidableEq, Repr

namespace PyStr

/-- `str.partition(separator)` for one character; `none` where there is
none. -/
def cut (separator : CodePoint) (s : PyStr) : PyStr × Option PyStr :=
  match s.dropWhile (· ≠ separator) with
  | [] => (s, none)
  | _ :: rest => (s.takeWhile (· ≠ separator), some rest)

/-- `str.rpartition(separator)` for one character. -/
def rcut (separator : CodePoint) (s : PyStr) : Option PyStr × PyStr :=
  match s.reverse.dropWhile (· ≠ separator) with
  | [] => (none, s)
  | _ :: rest => (some rest.reverse,
      (s.reverse.takeWhile (· ≠ separator)).reverse)

end PyStr

namespace Url

variable (tables : UrlTables)

def isAlpha (c : CodePoint) : Bool :=
  (65 ≤ c.val && c.val ≤ 90) || (97 ≤ c.val && c.val ≤ 122)

/-- `scheme_chars`. -/
def isSchemeChar (c : CodePoint) : Bool :=
  isAlpha c || (48 ≤ c.val && c.val ≤ 57) || [43, 45, 46].contains c.val

/-- The scheme in front of a colon, and the rest. -/
def splitScheme (url : PyStr) : PyStr × PyStr :=
  match url.cut 58 with
  | (_, none) => ([], url)
  | (front, some rest) =>
      if front.head?.any isAlpha && front.all isSchemeChar then
        (tables.lower front, rest)
      else ([], url)

/-- `_splitnetloc` behind two slashes. -/
def splitNetloc (url : PyStr) : PyStr × PyStr :=
  match url with
  | 47 :: 47 :: rest =>
      let isDelimiter := fun c : CodePoint => [47, 63, 35].contains c.val
      (rest.takeWhile fun c => !isDelimiter c,
        rest.dropWhile fun c => !isDelimiter c)
  | _ => ([], url)

/-- `_checknetloc`: no character that NFKC turns into a delimiter. -/
def netlocAccepted (netloc : PyStr) : Bool :=
  if netloc.isAscii then true
  else
    let n := netloc.filter fun c => !([64, 58, 35, 63].contains c.val)
    let n' := tables.nfkc n
    n == n' || !n'.any fun c => [47, 63, 35, 64, 58].contains c.val

/-- The brackets of an IP literal. -/
def bracketsAccepted (netloc : PyStr) : Bool :=
  match netloc.contains 91, netloc.contains 93 with
  | true, true => tables.bracketedNetloc netloc
  | false, false => true
  | _, _ => false

/-- `urlsplit(url)`; `none` is the `ValueError`. -/
def split (url : PyStr) : Option SplitResult :=
  let url := url.dropWhile fun c => c.val ≤ 32
  let url := url.filter fun c => !([9, 10, 13].contains c.val)
  let (scheme, url) := splitScheme tables url
  let (netloc, url) := splitNetloc url
  if bracketsAccepted tables netloc then
    let (url, fragment) := url.cut 35
    let (path, query) := url.cut 63
    if netlocAccepted tables netloc then
      some ⟨scheme, netloc, path, query.getD [], fragment.getD []⟩
    else none
  else none

section Split

variable {tables : UrlTables} {url : PyStr} {r : SplitResult}

/-- The characters of a URL that `urlsplit` keeps. -/
def cleaned (url : PyStr) : PyStr :=
  (url.dropWhile fun c => decide (c.val ≤ 32)).filter fun c =>
    !([9, 10, 13].contains c.val)

theorem split_eq_some (h : split tables url = some r) :
    r.scheme = (splitScheme tables (cleaned url)).1 ∧
      r.netloc = (splitNetloc (splitScheme tables (cleaned url)).2).1 := by
  unfold split at h
  dsimp only at h
  split at h
  · split at h
    · rw [Option.some.injEq] at h
      rw [← h]
      exact ⟨rfl, rfl⟩
    · cases h
  · cases h

theorem cleaned_eq (h : ∀ c ∈ url, 32 < c.val) : cleaned url = url := by
  unfold cleaned
  rw [List.dropWhile_eq_self_iff.mpr, List.filter_eq_self.mpr]
  · intro c hc
    have hc := h c hc
    simp
    omega
  · intro hne
    simpa using h _ (List.getElem_mem hne)

/-- No scheme comes without a colon. -/
theorem splitScheme_of_no_colon (h : (58 : CodePoint) ∉ url) :
    splitScheme tables url = ([], url) := by
  have hdrop : url.dropWhile (fun c => decide (c ≠ 58)) = [] := by
    rw [List.dropWhile_eq_nil_iff]
    intro c hc
    rw [decide_eq_true_iff]
    rintro rfl
    exact h hc
  unfold splitScheme PyStr.cut
  simp only [hdrop]

end Split

end Url

namespace SplitResult

/-- `_hostinfo`, without its port. -/
def host (r : SplitResult) : PyStr :=
  let hostinfo := (r.netloc.rcut 64).2
  match (hostinfo.cut 91).2 with
  | some bracketed => (bracketed.cut 93).1
  | none => (hostinfo.cut 58).1

/-- `hostname`; a zone keeps its case. -/
def hostname (tables : UrlTables) (r : SplitResult) : Option PyStr :=
  if r.host.isEmpty then none
  else
    match r.host.cut 37 with
    | (name, none) => some (tables.lower name)
    | (name, some zone) => some (tables.lower name ++ 37 :: zone)

/-- `username is not None`, and with it whether there can be a password. -/
def hasUserinfo (r : SplitResult) : Bool := (r.netloc.rcut 64).1.isSome

/-- The port of `_hostinfo`, empty where it has none. -/
def portText (r : SplitResult) : PyStr :=
  let hostinfo := (r.netloc.rcut 64).2
  match (hostinfo.cut 91).2 with
  | some bracketed =>
      let behind := ((bracketed.cut 93).2).getD []
      ((behind.cut 58).2).getD []
  | none => ((hostinfo.cut 58).2).getD []

/-- `port`; the outer `none` is the `ValueError`. Of ASCII digits, `int` reads
no table. -/
def port (r : SplitResult) : Option (Option ℤ) :=
  if r.portText.isEmpty then some none
  else if r.portText.all PyStr.isAsciiDigit then
    match PyStr.toInt (fun _ => none) r.portText with
    | some port =>
        if 0 ≤ port ∧ port ≤ 65535 then some (some port) else none
    | none => none
  else none

/-- Path and query as `urlunsplit` writes them. -/
def target (r : SplitResult) : PyStr :=
  r.path ++ if r.query.isEmpty then [] else 63 :: r.query

end SplitResult

namespace PyStr

variable {separator : CodePoint} {s front : PyStr} {rest : Option PyStr}

/-- A text is cut at its first separator. -/
theorem cut_eq_iff : s.cut separator = (front, rest) ↔
    separator ∉ front ∧ s = front ++ rest.elim [] (separator :: ·) := by
  have hsplit := List.takeWhile_append_dropWhile (p := (· ≠ separator)) (l := s)
  have hfront : separator ∉ s.takeWhile (· ≠ separator) := by
    intro hmem
    have hne := List.mem_takeWhile_imp hmem
    simp at hne
  constructor
  · intro h
    unfold cut at h
    split at h
    · rename_i hdrop
      rw [Prod.mk.injEq] at h
      obtain ⟨rfl, rfl⟩ := h
      rw [hdrop, List.append_nil] at hsplit
      rw [hsplit] at hfront
      exact ⟨hfront, (List.append_nil s).symm⟩
    · rename_i c tail hdrop
      rw [Prod.mk.injEq] at h
      obtain ⟨rfl, rfl⟩ := h
      have hc : c = separator := by
        have hhead := List.head_dropWhile_not (· ≠ separator)
          (l := s) (by rw [hdrop]; exact List.cons_ne_nil c tail)
        simp only [hdrop, List.head_cons] at hhead
        simpa using hhead
      rw [hdrop, hc] at hsplit
      exact ⟨hfront, hsplit.symm⟩
  · rintro ⟨hnot, rfl⟩
    have hall : ∀ c ∈ front, decide (c ≠ separator) = true := by
      intro c hc
      rw [decide_eq_true_iff]
      rintro rfl
      exact hnot hc
    unfold cut
    rw [List.dropWhile_append_of_pos hall, List.takeWhile_append_of_pos hall]
    cases rest with
    | none => simp
    | some rest => simp

theorem cut_of_notMem (h : separator ∉ s) : s.cut separator = (s, none) :=
  cut_eq_iff.mpr ⟨h, (List.append_nil s).symm⟩

theorem rcut_of_notMem (h : separator ∉ s) : s.rcut separator = (none, s) := by
  have hdrop : s.reverse.dropWhile (· ≠ separator) = [] := by
    rw [List.dropWhile_eq_nil_iff]
    intro c hc
    rw [decide_eq_true_iff]
    rintro rfl
    exact h (List.mem_reverse.mp hc)
  rw [rcut, hdrop]

end PyStr

namespace Url

/-- `urlunsplit`, where there is a netloc. -/
def unsplit (r : SplitResult) : PyStr :=
  let path :=
    if r.path.isEmpty || r.path.head? == some 47 then r.path else 47 :: r.path
  let url := 47 :: 47 :: (r.netloc ++ path)
  let url := if r.scheme.isEmpty then url else r.scheme ++ 58 :: url
  let url := if r.query.isEmpty then url else url ++ 63 :: r.query
  if r.fragment.isEmpty then url else url ++ 35 :: r.fragment

variable {tables : UrlTables} {scheme netloc tail url : PyStr} {r : SplitResult}

/-- The path is empty or absolute. -/
def Absolute (s : PyStr) : Prop := s = [] ∨ s.head? = some 47

/-- The end of a URL behind its netloc. -/
def Tail (s : PyStr) : Prop :=
  s = [] ∨ s.head? = some 47 ∨ s.head? = some 63

theorem unsplit_eq (hscheme : r.scheme ≠ []) (hpath : Absolute r.path)
    (hfragment : r.fragment = []) :
    unsplit r = r.scheme ++ 58 :: 47 :: 47 :: (r.netloc ++ r.target) := by
  have hpath' : (r.path.isEmpty || r.path.head? == some 47) = true := by
    rw [Bool.or_eq_true, List.isEmpty_iff, beq_iff_eq]
    exact hpath
  have hscheme' : ¬ r.scheme.isEmpty = true :=
    fun h => hscheme (List.isEmpty_iff.mp h)
  unfold unsplit SplitResult.target
  simp only [hpath', hscheme', hfragment, List.isEmpty_nil, if_true,
    Bool.false_eq_true, if_false]
  split
  · rw [List.append_nil]
  · simp only [List.append_assoc, List.cons_append]

theorem target_prefix {s : PyStr} (hpath : r.path = (s.cut 63).1)
    (hquery : r.query = ((s.cut 63).2).getD []) : r.target <+: s := by
  obtain ⟨path, rest, hcut⟩ : ∃ path rest, s.cut 63 = (path, rest) :=
    ⟨_, _, rfl⟩
  obtain ⟨-, hs⟩ := PyStr.cut_eq_iff.mp hcut
  rw [hcut] at hpath hquery
  rw [SplitResult.target, hpath, hquery, hs]
  refine (List.prefix_append_right_inj path).mpr ?_
  cases rest with
  | none => exact List.nil_prefix
  | some query =>
      dsimp only [Option.getD_some, Option.elim_some]
      split
      · exact List.nil_prefix
      · exact List.prefix_refl _

theorem target_congr {r' : SplitResult} (hpath : r'.path = r.path)
    (hquery : r'.query = r.query) : r'.target = r.target := by
  rw [SplitResult.target, SplitResult.target, hpath, hquery]

/-- Cutting what `urlunsplit` writes finds path and query again. -/
theorem cut_target (hpath : (63 : CodePoint) ∉ r.path) :
    (r.target.cut 63).1 = r.path ∧ ((r.target.cut 63).2).getD [] = r.query := by
  have hcut : r.target.cut 63 =
      (r.path, if r.query.isEmpty then none else some r.query) := by
    rw [PyStr.cut_eq_iff]
    refine ⟨hpath, ?_⟩
    unfold SplitResult.target
    split <;> rfl
  rw [hcut]
  refine ⟨rfl, ?_⟩
  dsimp only
  split
  · rename_i hempty
    rw [List.isEmpty_iff.mp hempty]
    rfl
  · rfl

theorem Absolute.tail_target (h : Absolute r.path) : Tail r.target := by
  unfold SplitResult.target
  rcases h with h | h
  · rw [h, List.nil_append]
    split
    · exact .inl rfl
    · exact .inr (.inr rfl)
  · obtain ⟨rest, hpath⟩ := List.head?_eq_some_iff.mp h
    rw [hpath]
    exact .inr (.inl rfl)

/-- No character that `urlsplit` removes. -/
def Clean (s : PyStr) : Prop := ∀ c ∈ s, [9, 10, 13].contains c.val = false

theorem cleaned_of_clean (hhead : ∀ c ∈ url.head?, 32 < c.val)
    (h : Clean url) : cleaned url = url := by
  unfold cleaned
  rw [List.dropWhile_eq_self_iff.mpr, List.filter_eq_self.mpr]
  · intro c hc
    rw [h c hc]
    rfl
  · intro hlen
    have hfirst := hhead url[0] (by rw [List.head?_eq_getElem?]; simp [hlen])
    simpa using hfirst

theorem splitScheme_front {front rest : PyStr}
    (hhead : front.head?.any isAlpha = true)
    (hall : front.all isSchemeChar = true) :
    splitScheme tables (front ++ 58 :: rest) = (tables.lower front, rest) := by
  have hcolon : (58 : CodePoint) ∉ front := by
    intro hmem
    have hchar := List.all_eq_true.mp hall 58 hmem
    revert hchar
    decide
  have hcut : (front ++ 58 :: rest).cut 58 = (front, some rest) :=
    PyStr.cut_eq_iff.mpr ⟨hcolon, rfl⟩
  rw [splitScheme, hcut]
  simp only [hhead, hall, Bool.and_self, if_true]

/-- A netloc of plain ASCII: no delimiter, no bracket. -/
structure PlainNetloc (s : PyStr) : Prop where
  ascii : s.isAscii = true
  plain : ∀ c ∈ s, [47, 63, 35, 91, 93].contains c.val = false

theorem Tail.stops (h : Tail tail) {p : CodePoint → Bool}
    (hslash : p 47 = false) (hquestion : p 63 = false) :
    tail.takeWhile p = [] ∧ tail.dropWhile p = tail := by
  cases tail with
  | nil => exact ⟨rfl, rfl⟩
  | cons c tail =>
      have hc : p c = false := by
        rcases h with h | h | h
        · cases h
        · rw [List.head?_cons, Option.some.injEq] at h
          rw [h, hslash]
        · rw [List.head?_cons, Option.some.injEq] at h
          rw [h, hquestion]
      rw [List.takeWhile_cons, List.dropWhile_cons, hc]
      exact ⟨rfl, rfl⟩

theorem splitNetloc_tail (hnetloc : PlainNetloc netloc) (htail : Tail tail) :
    splitNetloc (47 :: 47 :: (netloc ++ tail)) = (netloc, tail) := by
  have hplain : ∀ c ∈ netloc, (!([47, 63, 35].contains c.val)) = true := by
    intro c hc
    have hc := hnetloc.plain c hc
    simp only [List.contains_eq_mem, List.mem_cons, List.not_mem_nil, or_false,
      decide_eq_false_iff_not, Bool.not_eq_true', not_or] at hc ⊢
    exact ⟨hc.1, hc.2.1, hc.2.2.1⟩
  obtain ⟨htake, hdrop⟩ :=
    htail.stops (p := fun c => !([47, 63, 35].contains c.val)) rfl rfl
  simp only [splitNetloc]
  rw [List.takeWhile_append_of_pos hplain, List.dropWhile_append_of_pos hplain,
    htake, hdrop, List.append_nil]

variable (tables) in
theorem PlainNetloc.accepted (h : PlainNetloc netloc) :
    bracketsAccepted tables netloc = true ∧
      netlocAccepted tables netloc = true := by
  have hno : ∀ b : CodePoint, [47, 63, 35, 91, 93].contains b.val = true →
      netloc.contains b = false := by
    intro b hb
    rw [List.contains_eq_mem, decide_eq_false_iff_not]
    intro hmem
    rw [h.plain b hmem] at hb
    cases hb
  constructor
  · rw [bracketsAccepted, hno 91 rfl, hno 93 rfl]
  · rw [netlocAccepted, if_pos h.ascii]

theorem isSchemeChar_bounds {c : CodePoint} (h : isSchemeChar c = true) :
    32 < c.val ∧ c.val ≤ 122 := by
  simp only [isSchemeChar, isAlpha, Bool.or_eq_true, Bool.and_eq_true,
    decide_eq_true_eq, List.contains_eq_mem, List.mem_cons, List.not_mem_nil,
    or_false] at h
  omega

theorem clean_of_lt (h : ∀ c ∈ url, 32 < c.val) : Clean url := by
  intro c hc
  have hc := h c hc
  simp
  omega

theorem Clean.append {s t : PyStr} (hs : Clean s) (ht : Clean t) :
    Clean (s ++ t) := by
  intro c hc
  rcases List.mem_append.mp hc with hc | hc
  · exact hs c hc
  · exact ht c hc

/-- What `urlsplit` returns of text that it has cleaned. -/
theorem split_cleaned {s : PyStr} (hclean : cleaned url = s)
    {rest target : PyStr} (hscheme : splitScheme tables s = (scheme, rest))
    (hnetloc : splitNetloc rest = (netloc, tail))
    (htarget : (tail.cut 35).1 = target) :
    split tables url =
      if bracketsAccepted tables netloc then
        if netlocAccepted tables netloc then
          some ⟨scheme, netloc, (target.cut 63).1,
            ((target.cut 63).2).getD [], ((tail.cut 35).2).getD []⟩
        else none
      else none := by
  subst htarget
  have hunfold : split tables url =
      if bracketsAccepted tables
          (splitNetloc (splitScheme tables (cleaned url)).2).1 then
        if netlocAccepted tables
            (splitNetloc (splitScheme tables (cleaned url)).2).1 then
          some ⟨(splitScheme tables (cleaned url)).1,
            (splitNetloc (splitScheme tables (cleaned url)).2).1,
            ((((splitNetloc (splitScheme tables (cleaned url)).2).2.cut
              35).1).cut 63).1,
            (((((splitNetloc (splitScheme tables (cleaned url)).2).2.cut
              35).1).cut 63).2).getD [],
            (((splitNetloc (splitScheme tables (cleaned url)).2).2.cut
              35).2).getD []⟩
        else none
      else none := rfl
  rw [hunfold, hclean, hscheme]
  dsimp only
  rw [hnetloc]

/-- What `urlsplit` finds in a URL that is put together of a scheme, a netloc
and a tail without a fragment. -/
theorem split_of_tail (hhead : scheme.head?.any isAlpha = true)
    (hall : scheme.all isSchemeChar = true)
    (hlower : tables.lower scheme = scheme) (hnetloc : PlainNetloc netloc)
    (hcleanNetloc : Clean netloc) (htail : Tail tail) (hcleanTail : Clean tail)
    (hfragment : (35 : CodePoint) ∉ tail) :
    split tables (scheme ++ 58 :: 47 :: 47 :: (netloc ++ tail)) =
      some ⟨scheme, netloc, (tail.cut 63).1, ((tail.cut 63).2).getD [], []⟩ := by
  have hbounds : ∀ c ∈ scheme, 32 < c.val := fun c hc =>
    (isSchemeChar_bounds (List.all_eq_true.mp hall c hc)).1
  have hslashes : Clean ([58, 47, 47] : PyStr) := by
    simp only [Clean, List.forall_mem_cons, List.not_mem_nil, false_implies,
      implies_true, and_true]
    exact ⟨rfl, rfl, rfl⟩
  have hcleaned : cleaned (scheme ++ 58 :: 47 :: 47 :: (netloc ++ tail)) =
      scheme ++ 58 :: 47 :: 47 :: (netloc ++ tail) := by
    refine cleaned_of_clean ?_ ((clean_of_lt hbounds).append
      (hslashes.append (hcleanNetloc.append hcleanTail)))
    intro c hc
    cases scheme with
    | nil => cases hhead
    | cons d rest =>
        cases hc
        exact hbounds c List.mem_cons_self
  obtain ⟨hbrackets, haccepted⟩ := hnetloc.accepted tables
  have hsplitScheme :
      splitScheme tables (scheme ++ 58 :: (47 :: 47 :: (netloc ++ tail))) =
        (scheme, 47 :: 47 :: (netloc ++ tail)) := by
    rw [splitScheme_front hhead hall, hlower]
  have hcut := PyStr.cut_of_notMem hfragment
  have hsplit := split_cleaned hcleaned hsplitScheme
    (splitNetloc_tail hnetloc htail) (congrArg Prod.fst hcut)
  rw [if_pos hbrackets, if_pos haccepted, hcut] at hsplit
  exact hsplit

theorem splitScheme_suffix : (splitScheme tables url).2 <:+ url := by
  unfold splitScheme
  split
  · exact List.suffix_refl url
  · rename_i front rest hcut
    obtain ⟨-, hurl⟩ := PyStr.cut_eq_iff.mp hcut
    split
    · rw [hurl]
      exact (List.suffix_cons 58 rest).trans (List.suffix_append front _)
    · exact List.suffix_refl url

/-- A netloc ends where the URL does, or at a delimiter. -/
theorem splitNetloc_delimited (h : splitNetloc url = (netloc, tail))
    (hne : netloc ≠ []) :
    tail <:+ url ∧ ∀ c ∈ tail.head?, c = 47 ∨ c = 63 ∨ c = 35 := by
  unfold splitNetloc at h
  split at h
  · rename_i rest
    dsimp only at h
    rw [Prod.mk.injEq] at h
    obtain ⟨-, rfl⟩ := h
    refine ⟨(List.dropWhile_suffix _).trans
      ((List.suffix_cons 47 rest).trans (List.suffix_cons 47 _)), ?_⟩
    intro c hc
    cases hdrop : rest.dropWhile (fun c => !([47, 63, 35].contains c.val)) with
    | nil =>
        rw [hdrop] at hc
        cases hc
    | cons d tail =>
        have hhead := List.head_dropWhile_not
          (fun c : CodePoint => !([47, 63, 35].contains c.val))
          (l := rest) (by rw [hdrop]; exact List.cons_ne_nil d tail)
        rw [hdrop] at hc
        simp only [hdrop, List.head_cons] at hhead
        cases hc
        simp only [Bool.not_eq_false', List.contains_eq_mem, List.mem_cons,
          List.not_mem_nil, or_false, decide_eq_true_eq] at hhead
        rcases hhead with h | h | h
        · exact .inl (Fin.ext h)
        · exact .inr (.inl (Fin.ext h))
        · exact .inr (.inr (Fin.ext h))
  · rw [Prod.mk.injEq] at h
    exact absurd h.1.symm hne

/-- The part of a tail before its fragment. -/
theorem tail_cut_fragment
    (hhead : ∀ c ∈ tail.head?, c = 47 ∨ c = 63 ∨ c = 35) :
    Tail (tail.cut 35).1 ∧ (35 : CodePoint) ∉ (tail.cut 35).1 ∧
      (tail.cut 35).1 <+: tail := by
  obtain ⟨front, rest, hcut⟩ : ∃ front rest, tail.cut 35 = (front, rest) :=
    ⟨_, _, rfl⟩
  obtain ⟨hnot, htail⟩ := PyStr.cut_eq_iff.mp hcut
  rw [hcut]
  refine ⟨?_, hnot, htail ▸ List.prefix_append front _⟩
  cases front with
  | nil => exact .inl rfl
  | cons c front =>
      rcases hhead c (by rw [htail]; rfl) with rfl | rfl | rfl
      · exact .inr (.inl rfl)
      · exact .inr (.inr rfl)
      · exact absurd List.mem_cons_self hnot

theorem Tail.absolute {s : PyStr} (h : Tail s) : Absolute (s.cut 63).1 := by
  obtain ⟨path, query, hcut⟩ : ∃ path query, s.cut 63 = (path, query) :=
    ⟨_, _, rfl⟩
  obtain ⟨hnot, heq⟩ := PyStr.cut_eq_iff.mp hcut
  rw [hcut]
  cases path with
  | nil => exact .inl rfl
  | cons c path =>
      rw [heq] at h
      rcases h with h | h | h
      · cases h
      · exact .inr h
      · cases h
        exact absurd List.mem_cons_self hnot

theorem Tail.of_prefix {s t : PyStr} (h : Tail t) (hs : s <+: t) : Tail s := by
  obtain ⟨rest, rfl⟩ := hs
  cases s with
  | nil => exact .inl rfl
  | cons c s =>
      rcases h with h | h
      · cases h
      · exact .inr h

/-- Behind a netloc, path and query are a part of the URL as it was cleaned:
an absolute path up to the query, and no fragment. -/
theorem split_target (h : split tables url = some r) (hnetloc : r.netloc ≠ []) :
    Absolute r.path ∧ (63 : CodePoint) ∉ r.path ∧
      (35 : CodePoint) ∉ r.target ∧ r.target <:+: cleaned url := by
  obtain ⟨scheme, rest, hscheme⟩ : ∃ scheme rest,
      splitScheme tables (cleaned url) = (scheme, rest) := ⟨_, _, rfl⟩
  obtain ⟨netloc, tail, hsplit⟩ : ∃ netloc tail,
      splitNetloc rest = (netloc, tail) := ⟨_, _, rfl⟩
  rw [split_cleaned rfl hscheme hsplit rfl] at h
  split at h
  · split at h
    · rw [Option.some.injEq] at h
      subst h
      obtain ⟨htail, hhead⟩ := splitNetloc_delimited hsplit hnetloc
      obtain ⟨hstart, hno, hprefix⟩ := tail_cut_fragment hhead
      have htarget := target_prefix (r := ⟨scheme, netloc,
        ((tail.cut 35).1.cut 63).1, (((tail.cut 35).1.cut 63).2).getD [],
        ((tail.cut 35).2).getD []⟩) rfl rfl
      refine ⟨hstart.absolute, ?_, fun hmem => hno (htarget.subset hmem), ?_⟩
      · exact (PyStr.cut_eq_iff.mp rfl).1
      · have hrest : rest <:+ cleaned url := by
          have hsuffix : (splitScheme tables (cleaned url)).2 <:+ cleaned url :=
            splitScheme_suffix
          rw [hscheme] at hsuffix
          exact hsuffix
        exact (htarget.trans hprefix).isInfix.trans
          (htail.trans hrest).isInfix
    · cases h
  · cases h

end Url

end LeakcheckHub.Foundation
