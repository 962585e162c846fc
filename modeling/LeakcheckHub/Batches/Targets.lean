import LeakcheckHub.Outbox.Campaigns
import LeakcheckHub.Scheduling.Dispatch
import Mathlib.Data.List.Infix
import Mathlib.Data.List.TakeWhile

/-!
# Targets

The users that `create_batch` of `app/batches.py` and `_recipient_findings`
of `app/routers/notifications.py` select for an organisational unit or a
domain. Both write the target into a pattern of `LIKE`, each with an
`_escape_like` of its own.

§1 the two selections · §2 patterns · §3 the law · §4 a trailing slash.
-/

namespace LeakcheckHub.Batches

open Foundation Outbox
open Scheduling (BatchTarget)

/-! ## §1  The two selections -/

/-- `value.replace(old, new)` for one character. -/
def replaceChar (old : CodePoint) (new value : PyStr) : PyStr :=
  value.flatMap fun c => if c = old then new else [c]

/-- `_escape_like`. -/
def escapeLike (value : PyStr) : PyStr :=
  replaceChar 95 (PyStr.lit "\\_")
    (replaceChar 37 (PyStr.lit "\\%") (replaceChar 92 (PyStr.lit "\\\\") value))

/-- `_escaped_ou_prefix`. -/
def escapedOuPrefix (path : PyStr) : PyStr :=
  escapeLike (rstripSlashes path ++ PyStr.lit "/") ++ PyStr.lit "%"

/-- `str | tuple[uuid.UUID, ...]`. -/
inductive TargetValue where
  | text (value : PyStr)
  | ids (value : List Uuid)
deriving DecidableEq, Repr

def valueError (message : String) : PyException :=
  ⟨PyStr.lit "ValueError", PyStr.lit message⟩

section Selections

variable (tables : TextTables) (citext : PyStr → PyStr)
  (emailLe : PyStr → PyStr → Bool)

/-- `value.casefold().lstrip("@")`. -/
def domainOf (value : PyStr) : PyStr :=
  (tables.casefold value).dropWhile fun c => c == 64

/-- The `WHERE` that the target adds; `LIKE` without `ESCAPE` takes the
backslash. -/
def targeted (targetType : BatchTarget) (target : TargetValue) :
    Except PyException (User → Bool) :=
  match targetType, target with
  | .ou, .text value =>
      .ok fun user => user.ouPath == some value ||
        user.ouPath.any (like (escapedOuPrefix value))
  | .ou, .ids _ => .error (valueError "OU target must be a path")
  | .domain, .text value =>
      .ok fun user =>
        like (citext (PyStr.lit "%@" ++ escapeLike (domainOf tables value)))
          (citext user.email)
  | .domain, .ids _ => .error (valueError "domain target must be text")
  | .selection, .ids ids => .ok fun user => decide (user.id ∈ ids)
  | .selection, .text _ =>
      .error (valueError "selection target must contain user IDs")

/-- `users` of `create_batch`, in the order of the collation. -/
def batchUsers (users : List User) (targetType : BatchTarget)
    (target : TargetValue) : Except PyException (List User) := do
  let p ← targeted tables citext targetType target
  .ok ((users.filter fun user => user.isActive && p user).insertionSort
    fun x y => emailLe x.email y.email = true)

/-- The inner select of `_recipient_findings`. -/
def campaignUsers (db : Directory) (form : TargetType × PyStr) :
    Except PyException (List User) := do
  let p ← Outbox.targeted tables citext form.1 form.2
  .ok (db.users.filter fun user => user.isActive && p user)

/-- A campaign is about their open findings. -/
theorem recipientFindings_eq (db : Directory) (form : TargetType × PyStr) :
    recipientFindings tables citext db form = (do
      let users ← campaignUsers tables citext db form
      .ok (groupByKey (db.openRows fun user =>
        decide (user.id ∈ users.map User.id)))) := by
  unfold recipientFindings campaignUsers
  cases Outbox.targeted tables citext form.1 form.2 with
  | error e => rfl
  | ok p => rfl

end Selections

/-! ## §2  Patterns -/

theorem flatMap_replaceChar (old : CodePoint) (new value : PyStr)
    (f : CodePoint → PyStr) :
    (replaceChar old new value).flatMap f =
      value.flatMap fun c => if c = old then new.flatMap f else f c := by
  unfold replaceChar
  rw [List.flatMap_assoc]
  congr 1
  funext c
  split
  · rfl
  · simp

/-- Three replacements one after the other escape each character once. -/
theorem escapeLike_eq (value : PyStr) :
    escapeLike value = Outbox.escapeLike value := by
  unfold escapeLike
  conv_lhs => rw [replaceChar]
  rw [flatMap_replaceChar, flatMap_replaceChar]
  unfold Outbox.escapeLike
  congr 1
  funext c
  by_cases h92 : c = 92
  · subst h92
    rfl
  · by_cases h37 : c = 37
    · subst h37
      rfl
    · by_cases h95 : c = 95
      · subst h95
        rfl
      · simp [h92, h37, h95]

theorem like_percent (pattern text : PyStr) :
    like (37 :: pattern) text = text.tails.any (like pattern) := by
  rw [like.eq_def]
  exact if_pos rfl

theorem like_plain {p : CodePoint} (h92 : p ≠ 92) (h37 : p ≠ 37)
    (h95 : p ≠ 95) (pattern text : PyStr) :
    like (p :: pattern) text = true ↔
      ∃ rest, text = p :: rest ∧ like pattern rest = true := by
  rw [like.eq_def]
  dsimp only
  rw [if_neg h37]
  cases text with
  | nil => simp
  | cons c text => simp [h92, h95]

theorem like_escaped (p : CodePoint) (pattern text : PyStr) :
    like (92 :: p :: pattern) text = true ↔
      ∃ rest, text = p :: rest ∧ like pattern rest = true := by
  rw [like.eq_def]
  dsimp only
  rw [if_neg (by decide)]
  cases text with
  | nil => simp
  | cons c text =>
      dsimp only
      rw [if_neg (by decide), if_pos rfl]
      simp

theorem like_any (text : PyStr) : like (PyStr.lit "%") text = true := by
  have h := like_percent [] text
  rw [show PyStr.lit "%" = [37] from rfl, h, List.any_eq_true]
  exact ⟨[], (List.mem_tails _ _).mpr List.nil_suffix, rfl⟩

/-- An escaped text at the head of a pattern stands for itself. -/
theorem like_escapeLike_append (value pattern text : PyStr) :
    like (Outbox.escapeLike value ++ pattern) text = true ↔
      ∃ rest, text = value ++ rest ∧ like pattern rest = true := by
  induction value generalizing text with
  | nil => simp [Outbox.escapeLike]
  | cons c value ih =>
      have hcons : Outbox.escapeLike (c :: value) =
          (if c = 92 ∨ c = 37 ∨ c = 95 then [92, c] else [c]) ++
            Outbox.escapeLike value := rfl
      -- escaped or not, the head of the pattern matches `c` alone
      have hhead : like (Outbox.escapeLike (c :: value) ++ pattern) text = true ↔
          ∃ rest, text = c :: rest ∧
            like (Outbox.escapeLike value ++ pattern) rest = true := by
        rw [hcons, List.append_assoc]
        split
        · exact like_escaped c _ text
        · rename_i hplain
          simp only [not_or] at hplain
          exact like_plain hplain.1 hplain.2.1 hplain.2.2 _ text
      rw [hhead]
      constructor
      · rintro ⟨_, rfl, hlike⟩
        obtain ⟨rest, rfl, hrest⟩ := (ih _).mp hlike
        exact ⟨rest, rfl, hrest⟩
      · rintro ⟨rest, rfl, hrest⟩
        exact ⟨value ++ rest, rfl, (ih _).mpr ⟨rest, rfl, hrest⟩⟩

/-- `value%`. -/
theorem like_starts (value text : PyStr) :
    like (Outbox.escapeLike value ++ PyStr.lit "%") text = true ↔
      value <+: text := by
  rw [like_escapeLike_append]
  constructor
  · rintro ⟨rest, htext, -⟩
    exact ⟨rest, htext.symm⟩
  · rintro ⟨rest, htext⟩
    exact ⟨rest, htext.symm, like_any rest⟩

theorem like_escapeLike (value text : PyStr) :
    like (Outbox.escapeLike value) text = true ↔ text = value := by
  have h := like_escapeLike_append value [] text
  rw [List.append_nil] at h
  rw [h]
  constructor
  · rintro ⟨rest, htext, hrest⟩
    have hnil : rest = [] := List.isEmpty_iff.mp hrest
    rw [htext, hnil, List.append_nil]
  · intro htext
    exact ⟨[], by rw [htext, List.append_nil], rfl⟩

/-- `%value`. -/
theorem like_ends (value text : PyStr) :
    like (37 :: Outbox.escapeLike value) text = true ↔ value <:+ text := by
  rw [like_percent, List.any_eq_true]
  constructor
  · rintro ⟨ending, hmem, hlike⟩
    rw [← (like_escapeLike value ending).mp hlike]
    exact (List.mem_tails _ _).mp hmem
  · intro hends
    exact ⟨value, (List.mem_tails _ _).mpr hends,
      (like_escapeLike value value).mpr rfl⟩

/-- Letter case is folded character by character, and no letter becomes one
of the three characters that a pattern reads. -/
def LetterCase (citext : PyStr → PyStr) : Prop :=
  ∃ lower : CodePoint → CodePoint, (∀ text, citext text = text.map lower) ∧
    ∀ c, ∀ d ∈ ([92, 37, 95] : PyStr), lower c = d ↔ c = d

theorem letterCase_asciiLower : LetterCase PyStr.asciiLower := by
  refine ⟨fun c => if 65 ≤ c.val ∧ c.val ≤ 90 then c + 32 else c,
    fun _ => rfl, ?_⟩
  intro c d hd
  have hd : d = 92 ∨ d = 37 ∨ d = 95 := by simpa using hd
  dsimp only
  split
  · rename_i hupper
    have hval : (c + 32 : CodePoint).val = c.val + 32 := by
      rw [Fin.val_add]
      exact Nat.mod_eq_of_lt (by have := hupper.2; norm_num; omega)
    constructor
    · intro h
      rw [h] at hval
      rcases hd with rfl | rfl | rfl <;> norm_num at hval <;> omega
    · rintro rfl
      rcases hd with rfl | rfl | rfl <;> exact absurd hupper (by decide)
  · rfl

/-- Folding the case of an escaped text escapes the folded text. -/
theorem map_escapeLike {lower : CodePoint → CodePoint}
    (h : ∀ c, ∀ d ∈ ([92, 37, 95] : PyStr), lower c = d ↔ c = d)
    (value : PyStr) :
    (Outbox.escapeLike value).map lower =
      Outbox.escapeLike (value.map lower) := by
  have hbackslash : lower 92 = 92 := (h 92 92 (by simp)).mpr rfl
  unfold Outbox.escapeLike
  rw [List.map_flatMap, List.flatMap_map]
  congr 1
  funext c
  have hspecial : (lower c = 92 ∨ lower c = 37 ∨ lower c = 95) ↔
      (c = 92 ∨ c = 37 ∨ c = 95) := by
    rw [h c 92 (by simp), h c 37 (by simp), h c 95 (by simp)]
  simp only [hspecial]
  split
  · rw [List.map_cons, List.map_cons, List.map_nil, hbackslash]
  · rfl

/-! ## §3  The law -/

/-- The unit itself, or what its path followed by a slash leads to. -/
def InUnit (target : PyStr) (user : User) : Prop :=
  ∃ path, user.ouPath = some path ∧
    (path = target ∨ rstripSlashes target ++ PyStr.lit "/" <+: path)

/-- The address ends in the text, up to letter case. -/
def EndsUpToCase (citext : PyStr → PyStr) (text email : PyStr) : Prop :=
  ∃ ending, ending <:+ email ∧ citext ending = citext text

theorem ouFilter_iff (target : PyStr) (user : User) :
    (user.ouPath == some target || user.ouPath.any (like (Outbox.escapeLike
      (rstripSlashes target ++ PyStr.lit "/") ++ PyStr.lit "%"))) = true ↔
        InUnit target user := by
  unfold InUnit
  rw [Bool.or_eq_true, beq_iff_eq]
  cases user.ouPath with
  | none => simp
  | some path =>
      rw [Option.any_some, like_starts]
      simp

theorem domainFilter_iff {citext : PyStr → PyStr} (hcase : LetterCase citext)
    (domain email : PyStr) :
    like (citext (PyStr.lit "%@" ++ Outbox.escapeLike domain)) (citext email) =
        true ↔
      EndsUpToCase citext (PyStr.lit "@" ++ domain) email := by
  obtain ⟨lower, hmap, hspecial⟩ := hcase
  have hat : Outbox.escapeLike (PyStr.lit "@" ++ domain) =
      64 :: Outbox.escapeLike domain := rfl
  have hpercent : lower 37 = 37 := (hspecial 37 37 (by simp)).mpr rfl
  have hpattern : citext (PyStr.lit "%@" ++ Outbox.escapeLike domain) =
      37 :: Outbox.escapeLike (citext (PyStr.lit "@" ++ domain)) := by
    rw [hmap, hmap, ← map_escapeLike hspecial, hat]
    show lower 37 :: _ = _
    rw [hpercent]
    rfl
  rw [hpattern, like_ends]
  unfold EndsUpToCase
  constructor
  · rintro ⟨before, hbefore⟩
    rw [hmap, hmap] at hbefore
    obtain ⟨start, ending, hemail, -, hending⟩ :=
      List.append_eq_map_iff.mp hbefore
    refine ⟨ending, ⟨start, hemail.symm⟩, ?_⟩
    rw [hmap, hmap, hending]
  · rintro ⟨ending, ⟨start, hemail⟩, hending⟩
    rw [← hending, ← hemail]
    refine ⟨start.map lower, ?_⟩
    rw [hmap, hmap, List.map_append]

section Law

variable {tables : TextTables} {citext : PyStr → PyStr}
  {emailLe : PyStr → PyStr → Bool}

/-- What a batch selects. -/
theorem batchUsers_spec (emailLe : PyStr → PyStr → Bool)
    (users : List User) {targetType : BatchTarget} {target : TargetValue}
    {p : User → Bool} (h : targeted tables citext targetType target = .ok p) :
    ∃ batch, batchUsers tables citext emailLe users targetType target =
        .ok batch ∧
      ∀ user, user ∈ batch ↔
        user ∈ users ∧ user.isActive = true ∧ p user = true := by
  refine ⟨_, by rw [batchUsers, h]; rfl, ?_⟩
  intro user
  rw [List.mem_insertionSort, List.mem_filter, Bool.and_eq_true]

theorem campaignUsers_spec (db : Directory) {formType : TargetType}
    {target : PyStr} {p : User → Bool}
    (h : Outbox.targeted tables citext formType target = .ok p) :
    ∃ campaign, campaignUsers tables citext db (formType, target) =
        .ok campaign ∧
      ∀ user, user ∈ campaign ↔
        user ∈ db.users ∧ user.isActive = true ∧ p user = true := by
  refine ⟨_, by rw [campaignUsers, h]; rfl, ?_⟩
  intro user
  rw [List.mem_filter, Bool.and_eq_true]

/-- Both operations select the active users of the table that `P` holds of. -/
def SelectBoth (tables : TextTables) (citext : PyStr → PyStr)
    (emailLe : PyStr → PyStr → Bool) (db : Directory)
    (targetType : BatchTarget) (formType : TargetType) (target : PyStr)
    (P : User → Prop) : Prop :=
  ∃ batch campaign,
    batchUsers tables citext emailLe db.users targetType (.text target) =
      .ok batch ∧
    campaignUsers tables citext db (formType, target) = .ok campaign ∧
    (∀ user, user ∈ batch ↔ user ∈ db.users ∧ user.isActive = true ∧ P user) ∧
    ∀ user, user ∈ campaign ↔ user ∈ db.users ∧ user.isActive = true ∧ P user

theorem ou_selectBoth (tables : TextTables) (citext : PyStr → PyStr)
    (emailLe : PyStr → PyStr → Bool) (db : Directory) (target : PyStr) :
    SelectBoth tables citext emailLe db .ou .ou target (InUnit target) := by
  have hp : targeted tables citext .ou (.text target) = .ok _ := rfl
  obtain ⟨batch, hbatch, hmem⟩ := batchUsers_spec emailLe db.users hp
  have hq : Outbox.targeted tables citext .ou target = .ok _ := rfl
  obtain ⟨campaign, hcampaign, hmem'⟩ := campaignUsers_spec db hq
  refine ⟨batch, campaign, hbatch, hcampaign, ?_, ?_⟩
  · intro user
    rw [hmem, escapedOuPrefix, escapeLike_eq, ouFilter_iff]
  · intro user
    rw [hmem', ouFilter_iff]

theorem domain_selectBoth (hcase : LetterCase citext) (db : Directory)
    (target : PyStr) :
    SelectBoth tables citext emailLe db .domain .domain target fun user =>
      EndsUpToCase citext (PyStr.lit "@" ++ domainOf tables target)
        user.email := by
  have hp : targeted tables citext .domain (.text target) = .ok _ := rfl
  obtain ⟨batch, hbatch, hmem⟩ := batchUsers_spec emailLe db.users hp
  have hq : Outbox.targeted tables citext .domain target = .ok _ := rfl
  obtain ⟨campaign, hcampaign, hmem'⟩ := campaignUsers_spec db hq
  refine ⟨batch, campaign, hbatch, hcampaign, ?_, ?_⟩
  · intro user
    rw [hmem, escapeLike_eq, domainFilter_iff hcase]
  · intro user
    rw [hmem', domainFilter_iff hcase]
    rfl

/-- **Targets.** Whatever the target contains, a batch and a campaign select
the users of the unit, and those of the domain. -/
theorem targets_literal (hcase : LetterCase citext) (db : Directory) :
    (∀ target, SelectBoth tables citext emailLe db .ou .ou target
      (InUnit target)) ∧
    ∀ target, SelectBoth tables citext emailLe db .domain .domain target
      fun user => EndsUpToCase citext
        (PyStr.lit "@" ++ domainOf tables target) user.email :=
  ⟨ou_selectBoth tables citext emailLe db, domain_selectBoth hcase db⟩

end Law

/-- Ana in the unit of a wildcard, which is nobody else's. -/
def wildcardDirectory : Directory where
  users := [{ sampleUser with ouPath := some (PyStr.lit "/a_b/c") },
    { sampleUser with id := 2, ouPath := some (PyStr.lit "/axb/c") }]
  subjects := []
  findings := []

theorem targets_literal_wildcard :
    LetterCase PyStr.asciiLower ∧
      ((∀ target, SelectBoth asciiTables PyStr.asciiLower (fun _ _ => true)
        wildcardDirectory .ou .ou target (InUnit target)) ∧
      ∀ target, SelectBoth asciiTables PyStr.asciiLower (fun _ _ => true)
        wildcardDirectory .domain .domain target fun user =>
          EndsUpToCase PyStr.asciiLower
            (PyStr.lit "@" ++ domainOf asciiTables target) user.email) :=
  ⟨letterCase_asciiLower, targets_literal letterCase_asciiLower wildcardDirectory⟩

example : (campaignUsers asciiTables PyStr.asciiLower wildcardDirectory
    (.ou, PyStr.lit "/a_b/")).toOption.map (List.map User.id) = some [1] := by
  decide +kernel

/-! ## §4  A trailing slash -/

def SameUsers (found found' : Except PyException (List User)) : Prop :=
  ∃ users users', found = .ok users ∧ found' = .ok users' ∧
    ∀ user, user ∈ users ↔ user ∈ users'

section Slash

variable (tables : TextTables) (citext : PyStr → PyStr)
  (emailLe : PyStr → PyStr → Bool)

/-- The path with and without a slash at its end is one target, for a batch
and for a campaign. -/
def OneUnit (db : Directory) (path : PyStr) : Prop :=
  SameUsers
    (batchUsers tables citext emailLe db.users .ou (.text path))
    (batchUsers tables citext emailLe db.users .ou
      (.text (path ++ PyStr.lit "/"))) ∧
  SameUsers (campaignUsers tables citext db (.ou, path))
    (campaignUsers tables citext db (.ou, path ++ PyStr.lit "/"))

end Slash

theorem rstripSlashes_of_unslashed {path : PyStr}
    (h : path.getLast? ≠ some 47) : rstripSlashes path = path := by
  unfold rstripSlashes
  have hdrop : path.reverse.dropWhile (fun c => c == 47) = path.reverse := by
    rw [List.dropWhile_eq_self_iff]
    intro hpos hslash
    apply h
    rw [← List.head?_reverse, List.head?_eq_getElem?,
      List.getElem?_eq_getElem hpos]
    exact congrArg some (beq_iff_eq.mp hslash)
  rw [hdrop, List.reverse_reverse]

theorem rstripSlashes_slash (path : PyStr) :
    rstripSlashes (path ++ PyStr.lit "/") = rstripSlashes path := by
  unfold rstripSlashes
  rw [List.reverse_append]
  rfl

/-- The slash loses the members of the unit itself, and nobody else. -/
theorem inUnit_iff_slash {path : PyStr} (h : path.getLast? ≠ some 47)
    (user : User) :
    InUnit path user ↔
      user.ouPath = some path ∨ InUnit (path ++ PyStr.lit "/") user := by
  have hstripped := rstripSlashes_of_unslashed h
  unfold InUnit
  rw [rstripSlashes_slash, hstripped]
  constructor
  · rintro ⟨other, hpath, rfl | hbelow⟩
    · exact .inl hpath
    · exact .inr ⟨other, hpath, .inr hbelow⟩
  · rintro (hpath | ⟨other, hpath, rfl | hbelow⟩)
    · exact ⟨path, hpath, .inl rfl⟩
    · exact ⟨_, hpath, .inr (List.prefix_refl _)⟩
    · exact ⟨other, hpath, .inr hbelow⟩

theorem not_inUnit_slash {path : PyStr} (h : path.getLast? ≠ some 47)
    {user : User} (hpath : user.ouPath = some path) :
    ¬ InUnit (path ++ PyStr.lit "/") user := by
  unfold InUnit
  rw [rstripSlashes_slash, rstripSlashes_of_unslashed h]
  rintro ⟨other, hother, hlong⟩
  rw [hpath, Option.some.injEq] at hother
  subst hother
  have hlength : path.length < (path ++ PyStr.lit "/").length := by
    rw [List.length_append]
    exact Nat.lt_succ_self _
  rcases hlong with heq | hbelow
  · rw [← heq] at hlength
    exact Nat.lt_irrefl _ hlength
  · exact absurd hbelow.length_le (Nat.not_le.mpr hlength)

section Slash

variable {tables : TextTables} {citext : PyStr → PyStr}
  {emailLe : PyStr → PyStr → Bool}

/-- Two selections agree just when their conditions do. -/
theorem sameUsers_iff {found found' : Except PyException (List User)}
    {users users' selected : List User} {P Q : User → Prop}
    (hok : found = .ok users) (hok' : found' = .ok users')
    (hP : ∀ user, user ∈ users ↔
      user ∈ selected ∧ user.isActive = true ∧ P user)
    (hQ : ∀ user, user ∈ users' ↔
      user ∈ selected ∧ user.isActive = true ∧ Q user) :
    SameUsers found found' ↔
      ∀ user ∈ selected, user.isActive = true → (P user ↔ Q user) := by
  constructor
  · rintro ⟨x, y, hx, hy, hsame⟩ user hmem hactive
    rw [hok, Except.ok.injEq] at hx
    rw [hok', Except.ok.injEq] at hy
    subst hx hy
    have h := hsame user
    rw [hP, hQ] at h
    simpa [hmem, hactive] using h
  · intro hall
    refine ⟨users, users', hok, hok', fun user => ?_⟩
    rw [hP, hQ]
    constructor
    · rintro ⟨hmem, hactive, h⟩
      exact ⟨hmem, hactive, (hall user hmem hactive).mp h⟩
    · rintro ⟨hmem, hactive, h⟩
      exact ⟨hmem, hactive, (hall user hmem hactive).mpr h⟩

theorem oneUnit_iff_inUnit (db : Directory) (path : PyStr) :
    OneUnit tables citext emailLe db path ↔
      ∀ user ∈ db.users, user.isActive = true →
        (InUnit path user ↔ InUnit (path ++ PyStr.lit "/") user) := by
  obtain ⟨_, _, hb, hc, hmemb, hmemc⟩ := ou_selectBoth tables citext
    emailLe db path
  obtain ⟨_, _, hb', hc', hmemb', hmemc'⟩ := ou_selectBoth tables citext
    emailLe db (path ++ PyStr.lit "/")
  unfold OneUnit
  rw [sameUsers_iff hb hb' hmemb hmemb', sameUsers_iff hc hc' hmemc hmemc',
    and_self]

/-- **A trailing slash.** A path and the path with a slash select the same
users just when no active user is in the unit itself. -/
theorem oneUnit_iff (db : Directory) {path : PyStr}
    (h : path.getLast? ≠ some 47) :
    OneUnit tables citext emailLe db path ↔
      ∀ user ∈ db.users, user.isActive = true → user.ouPath ≠ some path := by
  rw [oneUnit_iff_inUnit]
  constructor
  · intro hsame user hmem hactive hpath
    have hin : InUnit path user := ⟨path, hpath, .inl rfl⟩
    exact not_inUnit_slash h hpath ((hsame user hmem hactive).mp hin)
  · intro hnone user hmem hactive
    rw [inUnit_iff_slash h]
    exact or_iff_right (hnone user hmem hactive)

end Slash

/-- Ana, in a unit below. -/
def tierDirectory : Directory where
  users := [{ sampleUser with ouPath := some (PyStr.lit "/SOC/Tier1") }]
  subjects := []
  findings := []

theorem oneUnit_iff_below :
    (PyStr.lit "/SOC").getLast? ≠ some 47 ∧
      (∀ target ∈ [PyStr.lit "/SOC", PyStr.lit "/SOC/"],
        batchUsers asciiTables PyStr.asciiLower (fun _ _ => true)
          tierDirectory.users .ou (.text target) = .ok tierDirectory.users) ∧
      OneUnit asciiTables PyStr.asciiLower (fun _ _ => true) tierDirectory
        (PyStr.lit "/SOC") := by
  refine ⟨by decide, ?_, (oneUnit_iff tierDirectory (by decide)).mpr ?_⟩
  · decide +kernel
  · decide

/-- Ana, in the unit itself. -/
def unitDirectory : Directory where
  users := [{ sampleUser with ouPath := some (PyStr.lit "/SOC") }]
  subjects := []
  findings := []

/-- With the slash, nobody is selected. -/
theorem slash_skips_members :
    ¬ ∀ (tables : TextTables) (citext : PyStr → PyStr)
      (emailLe : PyStr → PyStr → Bool) (db : Directory) (path : PyStr),
      path.getLast? ≠ some 47 → OneUnit tables citext emailLe db path := by
  intro hall
  have hsame := hall asciiTables PyStr.asciiLower (fun _ _ => true)
    unitDirectory (PyStr.lit "/SOC") (by decide)
  have hslash : SameUsers (.ok unitDirectory.users) (.ok []) := hsame.2
  obtain ⟨_, _, ⟨⟩, ⟨⟩, hmem⟩ := hslash
  exact absurd ((hmem _).mp List.mem_cons_self) List.not_mem_nil

end LeakcheckHub.Batches
