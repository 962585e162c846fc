import LeakcheckHub.Foundation.Base64
import LeakcheckHub.Foundation.Calls
import LeakcheckHub.Models
import Mathlib.Logic.Function.Iterate

/-!
# Bootstrap secrets

`app/bootstrap_secrets.py`: five secret files, created where they are missing.
`initialize_bootstrap_secrets` is given as its file-system operations, one at
a time, so that a run may end between any two of them; an operation that
raises (a full disk) leaves what the operations before it did.

§1 files · §2 a run, operation by operation · §3 fresh secrets · §4 what runs
keep · §5 an empty file · §6 the law.
-/

namespace LeakcheckHub.Deployment

open Foundation

/-! ## §1  Files -/

inductive SecretName where
  | postgresPassword
  | migratorPassword
  | runtimePassword
  | sessionSecret
  | dataKey
deriving DecidableEq, Repr

/-- `_SECRET_FILES`. -/
def SecretName.file : SecretName → PyStr
  | postgresPassword => PyStr.lit "postgres-password"
  | migratorPassword => PyStr.lit "migrator-password"
  | runtimePassword => PyStr.lit "runtime-password"
  | sessionSecret => PyStr.lit "session-secret"
  | dataKey => PyStr.lit "data-key"

/-- The keys of `_SECRET_FILES`, in its order. -/
def secretNames : List SecretName :=
  [.postgresPassword, .migratorPassword, .runtimePassword, .sessionSecret,
    .dataKey]

inductive Node where
  | regular (content : Bytes) (mode : ℕ)
  | other
deriving DecidableEq, Repr

/-- The secret directory, as the user of the process finds it. -/
structure Volume where
  present : Bool
  writable : Bool
  files : SecretName → Option Node

def Volume.set (v : Volume) (n : SecretName) (x : Option Node) : Volume :=
  { v with files := fun m => if m = n then x else v.files m }

def newline : CodePoint := Fin.ofNat _ 10

/-- `s.encode("ascii")`, of ASCII text. -/
def asciiBytes (s : PyStr) : Bytes := s.map fun c => UInt8.ofNat c.val

/-- `b.decode("ascii")`, of ASCII bytes. -/
def asciiText (b : Bytes) : PyStr := b.map fun x => Fin.ofNat _ x.toNat

/-- The newlines of text mode. -/
def universalNewlines : PyStr → PyStr
  | [] => []
  | [c] => if c.val = 13 then [newline] else [c]
  | c :: d :: rest =>
      if c.val = 13 then
        if d.val = 10 then universalNewlines (d :: rest)
        else newline :: universalNewlines (d :: rest)
      else c :: universalNewlines (d :: rest)

def runtimeError (message : PyStr) : PyException :=
  ⟨PyStr.lit "RuntimeError", message⟩

/-- `_read_secret`. The owner reads a file whose mode lets it. -/
def readSecret (n : SecretName) (node : Option Node) :
    Except PyException PyStr :=
  match node with
  | none => .error ⟨PyStr.lit "FileNotFoundError", n.file⟩
  | some .other => .error
      (runtimeError (PyStr.lit "bootstrap secret is not a regular file: " ++
        n.file))
  | some (.regular content mode) =>
      if mode / 256 % 2 = 0 then .error ⟨PyStr.lit "PermissionError", n.file⟩
      else if content.any fun b => 128 ≤ b.toNat then
        .error ⟨PyStr.lit "UnicodeDecodeError", []⟩
      else
        let value := PyStr.strip (universalNewlines (asciiText content))
        if value.length < 32 ∨ value.any fun c => c.val = 10 || c.val = 13 then
          .error (runtimeError (PyStr.lit "bootstrap secret is invalid: " ++
            n.file))
        else .ok value

def Valid (n : SecretName) (node : Option Node) : Prop :=
  ∃ value, readSecret n node = .ok value

/-- `load_bootstrap_secrets`. -/
def loadBootstrapSecrets (v : Volume) :
    Except PyException (List (SecretName × PyStr)) :=
  secretNames.mapM fun n => do
    let value ← readSecret n (v.files n)
    pure (n, value)

/-! ## §2  A run, operation by operation -/

/-- What `secrets.token_bytes(32)` gives for each secret. -/
structure Draws where
  bytes : SecretName → Bytes
  length_eq : ∀ n, (bytes n).length = 32

/-- `_new_secret`. -/
def newSecret (d : Draws) (n : SecretName) : PyStr :=
  if n = .dataKey then stripPads (urlsafeB64encode (d.bytes n))
  else (d.bytes n).flatMap fun b =>
    [hexDigit (b.toNat / 16), hexDigit (b.toNat % 16)]

/-- `(_new_secret(name) + "\n").encode("ascii")`. -/
def newContent (d : Draws) (n : SecretName) : Bytes :=
  asciiBytes (newSecret d n ++ [newline])

/-- The operation a run is about to make. `opening rest` stands before the
`os.open` of the first name of `rest`. -/
inductive Point where
  | mkdir
  | access
  | chmodDirectory
  | opening (rest : List SecretName)
  | writing (n : SecretName) (rest : List SecretName)
  | closing (n : SecretName) (rest : List SecretName)
  | chmod (n : SecretName) (rest : List SecretName)
  | finished
  | raised (e : PyException)
deriving DecidableEq

/-- The message goes on with the uid, the directory and what to do. -/
def notWritable : PyException :=
  runtimeError (PyStr.lit "bootstrap secret directory is not writable")

/-- One operation of `initialize_bootstrap_secrets`. The checks of a file that
is there already change nothing and count as part of the failed `os.open`. -/
def step (d : Draws) : Point × Volume → Point × Volume
  | (.mkdir, v) =>
      (.access, if v.present then v
        else { v with present := true, writable := true })
  | (.access, v) =>
      if v.writable then (.chmodDirectory, v) else (.raised notWritable, v)
  | (.chmodDirectory, v) => (.opening secretNames, v)
  | (.opening [], v) => (.finished, v)
  | (.opening (n :: rest), v) =>
      match v.files n with
      | none => (.writing n rest, v.set n (some (.regular [] 0o400)))
      | some node =>
          match readSecret n (some node) with
          | .ok _ => (.opening rest, v)
          | .error e => (.raised e, v)
  | (.writing n rest, v) =>
      match v.files n with
      | some (.regular content mode) =>
          (.closing n rest,
            v.set n (some (.regular (content ++ newContent d n) mode)))
      | _ => (.closing n rest, v)
  | (.closing n rest, v) => (.chmod n rest, v)
  | (.chmod n rest, v) =>
      match v.files n with
      | some (.regular content _) =>
          (.opening rest, v.set n (some (.regular content 0o444)))
      | _ => (.opening rest, v)
  | (.finished, v) => (.finished, v)
  | (.raised e, v) => (.raised e, v)

/-- A run that stops after some of its operations. -/
structure Attempt where
  draws : Draws
  operations : ℕ

def Attempt.run (a : Attempt) (v : Volume) : Point × Volume :=
  (step a.draws)^[a.operations] (.mkdir, v)

/-- The directory after a sequence of runs. -/
def afterAttempts (v : Volume) (attempts : List Attempt) : Volume :=
  attempts.foldl (fun v a => (a.run v).2) v

/-- Some run of the sequence stops between the `os.open` that created a file
and the `os.write` that fills it. -/
def CutBeforeWrite : Volume → List Attempt → Prop
  | _, [] => False
  | v, a :: attempts =>
      (∃ n rest, (a.run v).1 = .writing n rest) ∨
        CutBeforeWrite (a.run v).2 attempts

/-- The directory is missing or may be written, and every file is missing or
valid. -/
structure Prior (v : Volume) : Prop where
  directory : v.present = true → v.writable = true
  absent : v.present = false → ∀ n, v.files n = none
  files : ∀ n, v.files n = none ∨ Valid n (v.files n)

/-- An undisturbed run over `v` ends well, with a complete set of secrets, and
keeps every secret that was valid in `before`. -/
def Recovers (before v : Volume) : Prop :=
  ∀ d : Draws, ∃ k v', (step d)^[k] (.mkdir, v) = (.finished, v') ∧
    (∃ values, loadBootstrapSecrets v' = .ok values) ∧
    ∀ n, Valid n (before.files n) → v'.files n = before.files n

/-! ## §3  Fresh secrets -/

section Fresh

variable {n : SecretName} {s : PyStr} {c : CodePoint} {mode : ℕ}

/-- Visible ASCII. -/
def Plain (c : CodePoint) : Prop := 33 ≤ c.val ∧ c.val < 127

theorem plain_of_isBase64 (h : isBase64 c = true) : Plain c := by
  by_contra hnot
  unfold Plain at hnot
  have hnone : isBase64 c = false := by
    unfold isBase64 sextet
    rw [if_neg (by omega), if_neg (by omega), if_neg (by omega),
      if_neg (by omega), if_neg (by omega)]
    rfl
  rw [h] at hnone
  cases hnone

theorem plain_hexDigit {k : ℕ} (h : k < 16) : Plain (hexDigit k) := by
  have hall : ∀ k < 16, 33 ≤ (hexDigit k).val ∧ (hexDigit k).val < 127 := by
    decide
  exact hall k h

theorem isSpace_of_plain (h : Plain c) : PyStr.isSpace c = false := by
  obtain ⟨hlow, hhigh⟩ := h
  unfold PyStr.isSpace
  simp only [Bool.or_eq_false_iff, Bool.and_eq_false_iff, decide_eq_false_iff_not,
    List.contains_eq_mem, List.mem_cons, List.not_mem_nil, or_false]
  omega

theorem universalNewlines_eq (h : ∀ c ∈ s, c.val ≠ 13) :
    universalNewlines s = s := by
  fun_induction universalNewlines s with
  | case1 => rfl
  | case2 c hc => exact absurd hc (h c List.mem_cons_self)
  | case3 => rfl
  | case4 c d rest hc _ _ => exact absurd hc (h c List.mem_cons_self)
  | case5 c d rest hc _ _ => exact absurd hc (h c List.mem_cons_self)
  | case6 c d rest hc ih =>
      rw [ih fun e he => h e (List.mem_cons_of_mem c he)]

/-- A newline behind visible text is stripped, and nothing else. -/
theorem strip_newline (h : ∀ c ∈ s, Plain c) (hne : s ≠ []) :
    PyStr.strip (s ++ [newline]) = s := by
  have hdrop : ∀ {t u : PyStr}, (∀ c ∈ t, Plain c) → t ≠ [] →
      (t ++ u).dropWhile PyStr.isSpace = t ++ u := by
    intro t u ht hne
    cases t with
    | nil => exact absurd rfl hne
    | cons c t =>
        rw [List.cons_append, List.dropWhile_cons,
          isSpace_of_plain (ht c List.mem_cons_self), if_neg Bool.false_ne_true]
  have hspace : PyStr.isSpace newline = true := by decide
  have hback := hdrop (t := s.reverse) (u := [])
    (fun c hc => h c (List.mem_reverse.mp hc))
    (fun hnil => hne (List.reverse_eq_nil_iff.mp hnil))
  rw [List.append_nil] at hback
  rw [PyStr.strip, hdrop h hne, List.reverse_append, List.reverse_singleton,
    List.singleton_append, List.dropWhile_cons, if_pos hspace, hback,
    List.reverse_reverse]

theorem toNat_asciiByte (h : c.val < 128) :
    (UInt8.ofNat c.val).toNat = c.val := by
  rw [UInt8.toNat_ofNat', Nat.mod_eq_of_lt (show c.val < 2 ^ 8 by omega)]

/-- The bytes of ASCII text are read back. -/
theorem asciiText_asciiBytes (h : ∀ c ∈ s, c.val < 128) :
    asciiText (asciiBytes s) = s := by
  unfold asciiText asciiBytes
  rw [List.map_map]
  refine (List.map_congr_left fun c hc => ?_).trans (List.map_id s)
  apply Fin.ext
  show (UInt8.ofNat c.val).toNat % 0x110000 = c.val
  rw [toNat_asciiByte (h c hc), Nat.mod_eq_of_lt c.isLt]

theorem asciiBytes_small (h : ∀ c ∈ s, c.val < 128) :
    ((asciiBytes s).any fun b => 128 ≤ b.toNat) = false := by
  rw [List.any_eq_false]
  intro b hb
  obtain ⟨c, hc, rfl⟩ := List.mem_map.mp hb
  have hlt := h c hc
  rw [toNat_asciiByte hlt, decide_eq_true_eq]
  omega

/-- Visible text of 32 characters or more is a secret once it is stored. -/
theorem readSecret_stored (hplain : ∀ c ∈ s, Plain c) (hlen : 32 ≤ s.length)
    (hmode : mode / 256 % 2 ≠ 0) :
    readSecret n (some (.regular (asciiBytes (s ++ [newline])) mode)) =
      .ok s := by
  have hne : s ≠ [] := List.ne_nil_of_length_pos (by omega)
  have hascii : ∀ c ∈ s ++ [newline], c.val < 128 := by
    intro c hc
    rcases List.mem_append.mp hc with hc | hc
    · have hhigh := (hplain c hc).2
      omega
    · rw [List.mem_singleton.mp hc]
      decide
  have hnewlines : universalNewlines (s ++ [newline]) = s ++ [newline] := by
    apply universalNewlines_eq
    intro c hc
    rcases List.mem_append.mp hc with hc | hc
    · have hlow := (hplain c hc).1
      omega
    · rw [List.mem_singleton.mp hc]
      decide
  have hgood : ¬ (s.length < 32 ∨
      (s.any fun c => decide (c.val = 10) || decide (c.val = 13)) = true) := by
    rintro (hshort | hany)
    · omega
    · obtain ⟨c, hc, h⟩ := List.any_eq_true.mp hany
      have hlow := (hplain c hc).1
      rw [Bool.or_eq_true, decide_eq_true_eq, decide_eq_true_eq] at h
      omega
  simp only [readSecret, if_neg hmode, asciiBytes_small hascii,
    Bool.false_eq_true, if_false, asciiText_asciiBytes hascii, hnewlines,
    strip_newline hplain hne, if_neg hgood]

theorem newSecret_plain (d : Draws) (n : SecretName) :
    (∀ c ∈ newSecret d n, Plain c) ∧ 32 ≤ (newSecret d n).length := by
  unfold newSecret
  split
  · obtain ⟨u, k, hu, hall, hlen⟩ := urlsafeB64encode_spec (d.bytes n)
    rw [hu, stripPads_append hall, hlen, d.length_eq]
    exact ⟨fun c hc => plain_of_isBase64 (hall c hc), by decide⟩
  · constructor
    · intro c hc
      obtain ⟨b, -, hc⟩ := List.mem_flatMap.mp hc
      have hb := b.toNat_lt
      rcases List.mem_cons.mp hc with rfl | hc
      · exact plain_hexDigit (by omega)
      · rw [List.mem_singleton.mp hc]
        exact plain_hexDigit (by omega)
    · rw [List.length_flatMap]
      simp [d.length_eq]

/-- What a run writes is a valid secret. -/
theorem valid_newContent (d : Draws) (n : SecretName) (mode : ℕ)
    (hmode : mode / 256 % 2 ≠ 0) :
    Valid n (some (.regular (newContent d n) mode)) := by
  obtain ⟨hplain, hlen⟩ := newSecret_plain d n
  exact ⟨newSecret d n, readSecret_stored hplain hlen hmode⟩

theorem not_valid_empty : ¬ Valid n (some (.regular [] mode)) := by
  rintro ⟨value, h⟩
  by_cases hmode : mode / 256 % 2 = 0
  · simp only [readSecret, if_pos hmode] at h
    cases h
  · simp only [readSecret, if_neg hmode] at h
    cases h

end Fresh

/-! ## §4  What runs keep -/

section Runs

variable {d : Draws} {start v w : Volume} {x : Point × Volume}
  {n m : SecretName} {rest : List SecretName} {node : Node}

@[simp] theorem set_files_self {x : Option Node} : (v.set n x).files n = x :=
  if_pos rfl

theorem set_files_ne {x : Option Node} (h : m ≠ n) :
    (v.set n x).files m = v.files m := if_neg h

theorem set_set {x y : Option Node} : (v.set n x).set n y = v.set n y := by
  unfold Volume.set
  congr 1
  funext m
  by_cases hm : m = n
  · rw [if_pos hm, if_pos hm]
  · rw [if_neg hm, if_neg hm]
    exact if_neg hm

theorem step_opening_new (h : v.files n = none) :
    step d (.opening (n :: rest), v) =
      (.writing n rest, v.set n (some (.regular [] 0o400))) := by
  simp only [step, h]

theorem step_opening_valid (h : v.files n = some node)
    (hvalid : Valid n (some node)) :
    step d (.opening (n :: rest), v) = (.opening rest, v) := by
  obtain ⟨value, hvalue⟩ := hvalid
  simp only [step, h, hvalue]

theorem step_writing {mode : ℕ} :
    step d (.writing n rest, v.set n (some (.regular [] mode))) =
      (.closing n rest, v.set n (some (.regular (newContent d n) mode))) := by
  simp only [step, set_files_self, List.nil_append, set_set]

theorem step_chmod {content : Bytes} {mode : ℕ} :
    step d (.chmod n rest, v.set n (some (.regular content mode))) =
      (.opening rest, v.set n (some (.regular content 0o444))) := by
  simp only [step, set_files_self, set_set]

/-- A directory as complete runs leave it: what was there is untouched, and
what is there is valid. -/
structure Settled (start v : Volume) : Prop where
  present : v.present = true
  writable : v.writable = true
  kept : ∀ n, start.files n ≠ none → v.files n = start.files n
  files : ∀ n, v.files n = none ∨ Valid n (v.files n)

theorem Settled.prior (h : Settled start v) : Prior v where
  directory := fun _ => h.writable
  absent := by
    intro habsent
    rw [h.present] at habsent
    cases habsent
  files := h.files

/-- A secret in a new file. -/
theorem Settled.set (h : Settled start v) (hnew : v.files n = none)
    (hvalid : Valid n (some node)) : Settled start (v.set n (some node)) where
  present := h.present
  writable := h.writable
  kept := by
    intro m hm
    by_cases hmn : m = n
    · subst hmn
      exact absurd ((h.kept m hm).symm.trans hnew) hm
    · rw [set_files_ne hmn]
      exact h.kept m hm
  files := by
    intro m
    by_cases hmn : m = n
    · subst hmn
      rw [set_files_self]
      exact .inr hvalid
    · rw [set_files_ne hmn]
      exact h.files m

/-- Where a run over `start` stands: between the operations on one file it has
the others settled. -/
def Underway (d : Draws) (start : Volume) : Point × Volume → Prop
  | (.mkdir, v) => v = start
  | (.writing n _, v) =>
      ∃ w, Settled start w ∧ w.files n = none ∧
        v = w.set n (some (.regular [] 0o400))
  | (.closing n _, v) | (.chmod n _, v) =>
      ∃ w, Settled start w ∧ w.files n = none ∧
        v = w.set n (some (.regular (newContent d n) 0o400))
  | (_, v) => Settled start v

theorem settled_mkdir (h : Prior start) :
    Settled start (if start.present then start
      else { start with present := true, writable := true }) := by
  cases hpresent : start.present with
  | true =>
      rw [if_pos rfl]
      exact ⟨hpresent, h.directory hpresent, fun _ _ => rfl, h.files⟩
  | false =>
      rw [if_neg Bool.false_ne_true]
      exact ⟨rfl, rfl, fun _ _ => rfl, h.files⟩

/-- **Step lemma.** -/
theorem Underway.step (h : Underway d start x) (hprior : Prior start) :
    Underway d start (step d x) := by
  obtain ⟨p, v⟩ := x
  cases p with
  | mkdir =>
      rw [show v = start from h]
      exact settled_mkdir hprior
  | access =>
      have hwritable : v.writable = true := Settled.writable h
      simp only [Deployment.step, hwritable, if_true]
      exact h
  | chmodDirectory => exact h
  | opening names =>
      cases names with
      | nil => exact h
      | cons n rest =>
          cases hn : v.files n with
          | none =>
              rw [step_opening_new hn]
              exact ⟨v, h, hn, rfl⟩
          | some node =>
              have hvalid := (Settled.files h n).resolve_left
                (by rw [hn]; exact Option.some_ne_none _)
              rw [step_opening_valid hn (hn ▸ hvalid)]
              exact h
  | writing n rest =>
      obtain ⟨w, hw, hnew, rfl⟩ := h
      rw [step_writing]
      exact ⟨w, hw, hnew, rfl⟩
  | closing n rest => exact h
  | chmod n rest =>
      obtain ⟨w, hw, hnew, rfl⟩ := h
      rw [step_chmod]
      exact hw.set hnew (valid_newContent d n _ (by decide))
  | finished => exact h
  | raised e => exact h

theorem Underway.iterate (hprior : Prior start) (k : ℕ) :
    Underway d start ((Deployment.step d)^[k] (.mkdir, start)) := by
  induction k with
  | zero => rfl
  | succ k ih =>
      rw [Function.iterate_succ_apply']
      exact ih.step hprior

/-- A run that does not stop before its write leaves a directory it could have
begun with. -/
theorem Underway.stopped (h : Underway d start x) (hprior : Prior start)
    (hnot : ∀ n rest, x.1 ≠ .writing n rest) :
    Prior x.2 ∧ ∀ n, start.files n ≠ none → x.2.files n = start.files n := by
  obtain ⟨p, v⟩ := x
  have hsettled : p = .mkdir ∨ Settled start v := by
    cases p with
    | mkdir => exact .inl rfl
    | writing n rest => exact absurd rfl (hnot n rest)
    | closing n rest | chmod n rest =>
        obtain ⟨w, hw, hnew, rfl⟩ := h
        exact .inr (hw.set hnew (valid_newContent d n _ (by decide)))
    | access | chmodDirectory | opening | finished | raised => exact .inr h
  rcases hsettled with rfl | hsettled
  · rw [show v = start from h]
    exact ⟨hprior, fun _ _ => rfl⟩
  · exact ⟨hsettled.prior, hsettled.kept⟩

/-- The run gets from one point to another. -/
def Reaches (d : Draws) (x y : Point × Volume) : Prop :=
  ∃ k, (step d)^[k] x = y

theorem Reaches.head {y : Point × Volume} (h : Reaches d (step d x) y) :
    Reaches d x y := by
  obtain ⟨k, hk⟩ := h
  exact ⟨k + 1, (Function.iterate_succ_apply _ _ _).trans hk⟩

/-- The loop over the names comes to its end. -/
theorem reaches_finished (d : Draws) (rest : List SecretName) :
    ∀ {v : Volume}, Settled start v →
    ∃ v', Reaches d (.opening rest, v) (.finished, v') ∧ Settled start v' ∧
      (∀ n ∈ rest, v'.files n ≠ none) ∧
      ∀ n, v.files n ≠ none → v'.files n = v.files n := by
  induction rest with
  | nil =>
      intro v hv
      exact ⟨v, ⟨1, rfl⟩, hv, fun n hn => (List.not_mem_nil hn).elim,
        fun _ _ => rfl⟩
  | cons n rest ih =>
      intro v hv
      cases hn : v.files n with
      | none =>
          -- four operations create the file and fill it
          have hset := hv.set hn
            (valid_newContent d n 0o444 (by decide))
          obtain ⟨v', hreach, hv', hrest, hkept⟩ := ih hset
          refine ⟨v', ?_, hv', ?_, ?_⟩
          · apply Reaches.head
            rw [step_opening_new hn]
            apply Reaches.head
            rw [step_writing]
            apply Reaches.head
            apply Reaches.head
            rw [show step d (.closing n rest, _) = (.chmod n rest, _) from rfl,
              step_chmod]
            exact hreach
          · intro m hm
            rcases List.mem_cons.mp hm with rfl | hm
            · rw [hkept m (by rw [set_files_self]; exact Option.some_ne_none _),
                set_files_self]
              exact Option.some_ne_none _
            · exact hrest m hm
          · intro m hm
            have hmn : m ≠ n := by
              rintro rfl
              exact hm hn
            rw [hkept m (by rwa [set_files_ne hmn]), set_files_ne hmn]
      | some node =>
          obtain ⟨v', hreach, hv', hrest, hkept⟩ := ih hv
          refine ⟨v', ?_, hv', ?_, hkept⟩
          · have hvalid := (hv.files n).resolve_left
              (by rw [hn]; exact Option.some_ne_none _)
            apply Reaches.head
            rw [step_opening_valid hn (hn ▸ hvalid)]
            exact hreach
          · intro m hm
            rcases List.mem_cons.mp hm with rfl | hm
            · rw [hkept m (by rw [hn]; exact Option.some_ne_none _), hn]
              exact Option.some_ne_none _
            · exact hrest m hm

theorem mem_secretNames : n ∈ secretNames := by
  cases n <;> decide

theorem load_of_valid (h : ∀ n, Valid n (v.files n)) :
    ∃ values, loadBootstrapSecrets v = .ok values := by
  have hall : ∀ n ∈ secretNames, ∃ y, (do
      let value ← readSecret n (v.files n)
      pure (n, value) : Except PyException (SecretName × PyStr)) = .ok y ∧
        True := by
    intro n _
    obtain ⟨value, hvalue⟩ := h n
    exact ⟨(n, value), bind_eq_ok.mpr ⟨value, hvalue, rfl⟩, trivial⟩
  obtain ⟨values, hvalues, -⟩ := mapM_eq_ok hall
  exact ⟨values, hvalues⟩

theorem recovers_of_prior {before : Volume} (h : Prior v)
    (hkept : ∀ n, Valid n (before.files n) → v.files n = before.files n) :
    Recovers before v := by
  intro d
  obtain ⟨v', ⟨k, hk⟩, hv', hall, -⟩ :=
    reaches_finished d secretNames (settled_mkdir h)
  have hrun : Reaches d (.mkdir, v) (.finished, v') := by
    apply Reaches.head
    apply Reaches.head
    simp only [Deployment.step, (settled_mkdir h).writable, if_true]
    apply Reaches.head
    exact ⟨k, hk⟩
  obtain ⟨k', hk'⟩ := hrun
  refine ⟨k', v', hk', ?_, ?_⟩
  · apply load_of_valid
    intro n
    exact (hv'.files n).resolve_left (hall n mem_secretNames)
  · intro n hn
    have hsome : v.files n ≠ none := by
      rw [hkept n hn]
      rintro hnone
      obtain ⟨value, hvalue⟩ := hn
      rw [hnone] at hvalue
      cases hvalue
    rw [hv'.kept n hsome, hkept n hn]

end Runs

/-! ## §5  An empty file -/

section Empty

variable {d : Draws} {v start : Volume} {x : Point × Volume}
  {n m : SecretName} {a : Attempt}

/-- The file was created and never written. -/
def Abandoned (n : SecretName) (v : Volume) : Prop :=
  v.files n = some (.regular [] 0o400)

/-- A run that finds the abandoned file cannot get past it. -/
def Blocked (n : SecretName) (x : Point × Volume) : Prop :=
  Abandoned n x.2 ∧
    match x.1 with
    | .opening rest => n ∈ rest
    | .writing m rest | .closing m rest | .chmod m rest => m ≠ n ∧ n ∈ rest
    | .finished => False
    | .mkdir | .access | .chmodDirectory | .raised _ => True

theorem Abandoned.set {node : Option Node} (h : Abandoned n v) (hm : m ≠ n) :
    Abandoned n (v.set m node) :=
  (set_files_ne hm.symm).trans h

/-- **Step lemma.** -/
theorem Blocked.step (h : Blocked n x) : Blocked n (step d x) := by
  obtain ⟨p, v⟩ := x
  obtain ⟨hfile, hpoint⟩ := h
  cases p with
  | mkdir =>
      refine ⟨?_, trivial⟩
      simp only [Deployment.step]
      split <;> exact hfile
  | access =>
      simp only [Deployment.step]
      split <;> exact ⟨hfile, trivial⟩
  | chmodDirectory => exact ⟨hfile, mem_secretNames⟩
  | opening names =>
      cases names with
      | nil => exact (List.not_mem_nil hpoint).elim
      | cons m rest =>
          by_cases hmn : m = n
          · -- the file is there and is no secret
            subst hmn
            have hbad : ∃ e, readSecret m (v.files m) = .error e := by
              cases hread : readSecret m (v.files m) with
              | error e => exact ⟨e, rfl⟩
              | ok value =>
                  rw [show v.files m = _ from hfile] at hread
                  exact absurd ⟨value, hread⟩ not_valid_empty
            obtain ⟨e, he⟩ := hbad
            rw [show v.files m = _ from hfile] at he
            simp only [Deployment.step, show v.files m = _ from hfile, he]
            exact ⟨hfile, trivial⟩
          · have hrest : n ∈ rest :=
              (List.mem_cons.mp hpoint).resolve_left fun h => hmn h.symm
            cases hm : v.files m with
            | none =>
                rw [step_opening_new hm]
                exact ⟨hfile.set hmn, hmn, hrest⟩
            | some node =>
                simp only [Deployment.step, hm]
                split
                · exact ⟨hfile, hrest⟩
                · exact ⟨hfile, trivial⟩
  | writing m rest =>
      simp only [Deployment.step]
      split
      · exact ⟨hfile.set hpoint.1, hpoint⟩
      · exact ⟨hfile, hpoint⟩
  | closing m rest => exact ⟨hfile, hpoint⟩
  | chmod m rest =>
      simp only [Deployment.step]
      split
      · exact ⟨hfile.set hpoint.1, hpoint.2⟩
      · exact ⟨hfile, hpoint.2⟩
  | finished => exact hpoint.elim
  | raised e => exact ⟨hfile, trivial⟩

theorem Blocked.iterate (h : Abandoned n v) (k : ℕ) :
    Blocked n ((Deployment.step d)^[k] (.mkdir, v)) := by
  induction k with
  | zero => exact ⟨h, trivial⟩
  | succ k ih =>
      rw [Function.iterate_succ_apply']
      exact ih.step

theorem Abandoned.afterAttempts :
    ∀ {attempts : List Attempt} {v : Volume}, Abandoned n v →
      Abandoned n (afterAttempts v attempts) := by
  intro attempts
  induction attempts with
  | nil =>
      intro v h
      exact h
  | cons a attempts ih =>
      intro v h
      exact ih (Blocked.iterate (d := a.draws) h a.operations).1

def zeroDraws : Draws where
  bytes := fun _ => List.replicate 32 0
  length_eq := fun _ => List.length_replicate

theorem Abandoned.not_recovers {before : Volume} (h : Abandoned n v) :
    ¬ Recovers before v := by
  intro hrecovers
  obtain ⟨k, v', hk, -⟩ := hrecovers zeroDraws
  have hblocked := Blocked.iterate (d := zeroDraws) h k
  rw [hk] at hblocked
  exact hblocked.2

/-- A run that stops before its write abandons the file. -/
theorem abandoned_of_cut (hprior : Prior v) {rest : List SecretName}
    (h : (a.run v).1 = .writing n rest) : Abandoned n (a.run v).2 := by
  have hunder : Underway a.draws v (a.run v) :=
    Underway.iterate hprior a.operations
  obtain ⟨w, -, -, hw⟩ : ∃ w, Settled v w ∧ w.files n = none ∧
      (a.run v).2 = w.set n (some (.regular [] 0o400)) := by
    generalize a.run v = x at hunder h
    obtain ⟨p, u⟩ := x
    subst h
    exact hunder
  rw [Abandoned, hw, set_files_self]

end Empty

/-! ## §6  The law -/

section Law

variable {before v : Volume} {attempts : List Attempt}

theorem prior_afterAttempts :
    ∀ {v : Volume}, Prior v →
      (∀ n, Valid n (before.files n) → v.files n = before.files n) →
      ¬ CutBeforeWrite v attempts →
      Prior (afterAttempts v attempts) ∧ ∀ n, Valid n (before.files n) →
        (afterAttempts v attempts).files n = before.files n := by
  induction attempts with
  | nil =>
      intro v hprior hkept _
      exact ⟨hprior, hkept⟩
  | cons a attempts ih =>
      intro v hprior hkept hcut
      have hnot : ∀ n rest, (a.run v).1 ≠ .writing n rest :=
        fun n rest h => hcut (.inl ⟨n, rest, h⟩)
      obtain ⟨hprior', hkept'⟩ := Underway.stopped
        (Underway.iterate hprior a.operations) hprior hnot
      refine ih hprior' ?_ fun h => hcut (.inr h)
      intro n hn
      have hsome : v.files n ≠ none := by
        rw [hkept n hn]
        intro hnone
        obtain ⟨value, hvalue⟩ := hn
        rw [hnone] at hvalue
        cases hvalue
      exact (hkept' n hsome).trans (hkept n hn)

theorem abandoned_afterAttempts :
    ∀ {v : Volume}, Prior v → CutBeforeWrite v attempts →
      ∃ n, Abandoned n (afterAttempts v attempts) := by
  induction attempts with
  | nil =>
      intro v _ hcut
      exact hcut.elim
  | cons a attempts ih =>
      intro v hprior hcut
      by_cases hfirst : ∃ n rest, (a.run v).1 = .writing n rest
      · obtain ⟨n, rest, h⟩ := hfirst
        exact ⟨n, (abandoned_of_cut hprior h).afterAttempts⟩
      · have hnot : ∀ n rest, (a.run v).1 ≠ .writing n rest :=
          fun n rest h => hfirst ⟨n, rest, h⟩
        have hprior' := (Underway.stopped
          (Underway.iterate hprior a.operations) hprior hnot).1
        exact ih hprior' (hcut.resolve_left hfirst)

/-- Runs that stop early do no harm as long as none of them stops between
creating a file and writing it; one that does blocks every later run. -/
theorem recovers_iff (h : Prior v) (attempts : List Attempt) :
    Recovers v (afterAttempts v attempts) ↔ ¬ CutBeforeWrite v attempts := by
  constructor
  · intro hrecovers hcut
    obtain ⟨n, hn⟩ := abandoned_afterAttempts h hcut
    exact hn.not_recovers hrecovers
  · intro hcut
    obtain ⟨hprior, hkept⟩ := prior_afterAttempts h (fun _ _ => rfl) hcut
    exact recovers_of_prior hprior hkept

/-- The named volume of a first deployment. -/
def emptyVolume : Volume := ⟨true, true, fun _ => none⟩

theorem emptyVolume_prior : Prior emptyVolume :=
  ⟨fun _ => rfl, fun _ _ => rfl, fun _ => .inl rfl⟩

/-- Stopped after the first write, then before the second file. -/
def harmlessStops : List Attempt := [⟨zeroDraws, 5⟩, ⟨zeroDraws, 3⟩]

theorem harmlessStops_recover :
    ¬ CutBeforeWrite emptyVolume harmlessStops ∧
      Recovers emptyVolume (afterAttempts emptyVolume harmlessStops) := by
  have hcut : ¬ CutBeforeWrite emptyVolume harmlessStops := by
    rintro (⟨n, rest, h⟩ | ⟨n, rest, h⟩ | h)
    · cases h
    · cases h
    · exact h
  exact ⟨hcut, (recovers_iff emptyVolume_prior harmlessStops).mpr hcut⟩

/-- Killed between creating `postgres-password` and writing it. -/
def killedBeforeWrite : List Attempt := [⟨zeroDraws, 4⟩]

theorem killed_before_write_blocks :
    Prior emptyVolume ∧
      ¬ Recovers emptyVolume (afterAttempts emptyVolume killedBeforeWrite) :=
  ⟨emptyVolume_prior, Abandoned.not_recovers (n := .postgresPassword) rfl⟩

end Law

end LeakcheckHub.Deployment
