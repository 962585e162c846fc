import LeakcheckHub.Foundation.Digests
import LeakcheckHub.Settings.Consumers
import LeakcheckHub.Settings.History

/-!
# The process-shared client

`configured_client` of `app/scan_runtime.py`: a call reads its settings one by
one while administrators write others, and only then takes the lock under which
the cached client is inspected and replaced. There is no `await` under the
lock, so a holder's section is one step.

§1 the digest · §2 the cache · §3 calls and updates · §4 what the digest tells
apart · §5 the invariant · §6 what a call returns.
-/

namespace LeakcheckHub.Scans

open Foundation Crypto
open Findings (Env)
open Outbox (TextTables)
open Portal (readSetting PortalError)
open Settings (ClientError LeakCheckClient clientFromPlatformValues Stores
  Sound Number UpdateRequest ValidatorTables updateSettings
  updateSettings_eq_some)

/-- The dictionary of `read_many`. -/
abbrev Values : Type := Outbox.Settings

/-! ## §1  The digest -/

/-- `_CLIENT_KEYS`, sorted by their values. -/
def clientKeys : List SettingKey :=
  [.leakcheckApiKey, .leakcheckConcurrency, .leakcheckMaxResponseBytes,
    .leakcheckRps]

/-- What one iteration of `_client_config_digest` hashes; `none` is the
`UnicodeEncodeError` of `encode` or the `OverflowError` of `to_bytes`. -/
def configPart (values : Values) (key : SettingKey) : Option Bytes :=
  (((values key).getD []).encode).bind fun encoded =>
    if encoded.length < 2 ^ 32 then
      some (PyStr.asciiLit key.value ++ frame encoded)
    else none

def configMessage (values : Values) : Option Bytes :=
  (clientKeys.mapM (configPart values)).map List.flatten

/-- `_client_config_digest`. -/
def clientConfigDigest (env : Env) (values : Values) : Option Bytes :=
  (configMessage values).map env.sha256

/-! ## §2  The cache -/

/-- A client object: its limiter, its semaphore and its breaker are its own.
`serial` tells the objects of the process apart. -/
structure ClientObject where
  serial : ℕ
  /-- The dictionary it was constructed from. -/
  builtFrom : Values
  client : LeakCheckClient

/-- `leakcheck_client` and `leakcheck_client_config_digest` of `app.state`,
with the number of clients constructed so far. -/
structure ClientCache where
  cached : Option ClientObject
  configDigest : Option Bytes
  constructed : ℕ

/-- `app.state` after start-up. -/
def ClientCache.empty : ClientCache := ⟨none, none, 0⟩

def ClientCache.construct (tables : TextTables) (values : Values)
    (digest : Bytes) (cache : ClientCache) :
    Except ClientError ClientObject × ClientCache :=
  match clientFromPlatformValues tables values with
  | .error e => (.error e, cache)
  | .ok client =>
      let object := ⟨cache.constructed, values, client⟩
      (.ok object, ⟨some object, some digest, cache.constructed + 1⟩)

/-- What `configured_client` does under the lock. -/
def ClientCache.locked (tables : TextTables) (values : Values)
    (digest : Bytes) (cache : ClientCache) :
    Except ClientError ClientObject × ClientCache :=
  match cache.cached with
  | some object =>
      if cache.configDigest = some digest then (.ok object, cache)
      else cache.construct tables values digest
  | none => cache.construct tables values digest

/-! ## §3  Calls and updates -/

inductive CallError where
  | setting (error : PortalError)
  | digest
  | client (error : ClientError)

/-- Where a call of `configured_client` stands. -/
inductive Call where
  | idle
  /-- In `read_many`, with the keys that are still to be read. -/
  | reading (values : Values) (remaining : List SettingKey)
  /-- At the lock. -/
  | waiting (values : Values) (digest : Bytes)
  | returned (values : Values) (object : ClientObject)
  | raised (error : CallError)

structure ClientState where
  rows : List PlatformSetting
  cache : ClientCache
  calls : ℕ → Call

def ClientState.setCall (s : ClientState) (i : ℕ) (call : Call) :
    ClientState :=
  { s with calls := Function.update s.calls i call }

inductive ClientAction where
  /-- An accepted `update_settings`, at its commit. -/
  | update (request : UpdateRequest)
  /-- A call begins; a `frozenset` has any order. -/
  | start (i : ℕ) (order : List SettingKey)
  /-- One `SELECT` of `read_many`. -/
  | read (i : ℕ)
  /-- A call gets the lock. -/
  | enter (i : ℕ)

section Steps

variable (env : Env) (urls : ValidatorTables) (tables : TextTables)

/-- From the last `SELECT` to the lock. -/
def goOn (values : Values) : List SettingKey → Call
  | [] => match clientConfigDigest env values with
    | none => .raised .digest
    | some digest => .waiting values digest
  | remaining => .reading values remaining

def readKey (rows : List PlatformSetting) (values : Values) (key : SettingKey)
    (remaining : List SettingKey) : Call :=
  match readSetting env rows key with
  | .error e => .raised (.setting e)
  | .ok value => goOn env (Function.update values key value) remaining

def outcome (values : Values) : Except ClientError ClientObject → Call
  | .error e => .raised (.client e)
  | .ok object => .returned values object

def clientStep (s : ClientState) : ClientAction → Option ClientState
  | .update request => (updateSettings env urls request s.rows).map fun x =>
      { s with rows := x.2 }
  | .start i order => match s.calls i with
    | .idle => if order.Perm clientKeys then
          some (s.setCall i (goOn env (fun _ => none) order))
        else none
    | _ => none
  | .read i => match s.calls i with
    | .reading values (key :: remaining) =>
        some (s.setCall i (readKey env s.rows values key remaining))
    | _ => none
  | .enter i => match s.calls i with
    | .waiting values digest =>
        let result := s.cache.locked tables values digest
        some (({ s with cache := result.2 } : ClientState).setCall i
          (outcome values result.1))
    | _ => none

/-- One process over one database. -/
def clientSystem : System ClientState ClientAction where
  init s := s.rows = [] ∧ s.cache = .empty ∧ ∀ i, s.calls i = .idle
  step := clientStep env urls tables

end Steps

/-- SHA-256 does not collide on what a call compares under the lock: its own
settings, and those of the cached client. -/
def ComparisonTells (env : Env) : Call → Option ClientObject → Prop
  | .waiting values _, some object =>
      NoCollision (Option.map env.sha256) (configMessage object.builtFrom)
        (configMessage values)
  | _, _ => True

def DigestsTell (env : Env) (s : ClientState) : ClientAction → Prop
  | .enter i => ComparisonTells env (s.calls i) s.cache.cached
  | _ => True

instance (env : Env) : ∀ call cached, Decidable (ComparisonTells env call cached)
  | .waiting values _, some object =>
      inferInstanceAs (Decidable (Option.map env.sha256
        (configMessage object.builtFrom) =
          Option.map env.sha256 (configMessage values) →
            configMessage object.builtFrom = configMessage values))
  | .waiting _ _, none => .isTrue trivial
  | .idle, _ => .isTrue trivial
  | .reading _ _, _ => .isTrue trivial
  | .returned _ _, _ => .isTrue trivial
  | .raised _, _ => .isTrue trivial

instance (env : Env) (s : ClientState) : ∀ a, Decidable (DigestsTell env s a)
  | .enter i => inferInstanceAs
      (Decidable (ComparisonTells env (s.calls i) s.cache.cached))
  | .update _ => .isTrue trivial
  | .start _ _ => .isTrue trivial
  | .read _ => .isTrue trivial

/-! ## §4  What the digest tells apart -/

/-- Settings as a call reads them: no others, and none that is blank. An absent
value and a blank one have the same digest. -/
structure Readable (values : Values) : Prop where
  unblank : ∀ key, values key ≠ some []
  only : ∀ key, key ∉ clientKeys → values key = none

variable {env : Env} {urls : ValidatorTables} {tables : TextTables}
  {values values' : Values} {digest : Bytes} {cache : ClientCache}
  {s t u : ClientState} {a : ClientAction} {i j : ℕ}

theorem readable_empty : Readable fun _ => none where
  unblank _ h := nomatch h
  only _ _ := rfl

theorem Readable.update (h : Readable values) {key : SettingKey}
    {value : Option PyStr} (hkey : key ∈ clientKeys) (hvalue : value ≠ some []) :
    Readable (Function.update values key value) where
  unblank other := by
    by_cases heq : other = key
    · subst heq
      rw [Function.update_self]
      exact hvalue
    · rw [Function.update_of_ne heq]
      exact h.unblank other
  only other hother := by
    have hne : other ≠ key := fun heq => hother (heq ▸ hkey)
    rw [Function.update_of_ne hne]
    exact h.only other hother

theorem configPart_eq_some {key : SettingKey} {part : Bytes} :
    configPart values key = some part ↔
      ∃ encoded, ((values key).getD []).encode = some encoded ∧
        encoded.length < 2 ^ 32 ∧
        part = PyStr.asciiLit key.value ++ frame encoded := by
  unfold configPart
  rw [Option.bind_eq_some_iff]
  refine exists_congr fun encoded => and_congr_right fun _ => ?_
  by_cases hlen : encoded.length < 2 ^ 32
  · rw [if_pos hlen, Option.some.injEq, eq_comm, and_iff_right hlen]
  · rw [if_neg hlen]
    exact iff_of_false (fun h => nomatch h) fun h => hlen h.1

/-- By induction on the keys: the parts of a message can be told apart from
the left. -/
theorem configParts_inj : ∀ {keys : List SettingKey} {parts parts' : List Bytes},
    keys.mapM (configPart values) = some parts →
    keys.mapM (configPart values') = some parts' →
    parts.flatten = parts'.flatten →
    ∀ key ∈ keys, (values key).getD [] = (values' key).getD [] := by
  intro keys
  induction keys with
  | nil => simp
  | cons first rest ih =>
      intro parts parts' h h' hflat
      rw [List.mapM_cons] at h h'
      obtain ⟨p, hp, h⟩ := Option.bind_eq_some_iff.mp h
      obtain ⟨ps, hps, h⟩ := Option.bind_eq_some_iff.mp h
      obtain ⟨q, hq, h'⟩ := Option.bind_eq_some_iff.mp h'
      obtain ⟨qs, hqs, h'⟩ := Option.bind_eq_some_iff.mp h'
      cases h
      cases h'
      obtain ⟨x, hx, hxlen, rfl⟩ := configPart_eq_some.mp hp
      obtain ⟨y, hy, hylen, rfl⟩ := configPart_eq_some.mp hq
      simp only [List.flatten_cons, List.append_assoc] at hflat
      obtain ⟨rfl, hrest⟩ := frame_append_inj hxlen hylen
        (List.append_cancel_left hflat)
      intro key hkey
      rcases List.mem_cons.mp hkey with rfl | hkey
      · exact PyStr.encode_inj hx hy
      · exact ih hps hqs hrest key hkey

theorem configMessage_inj (h : Readable values) (h' : Readable values')
    {message : Bytes} (hm : configMessage values = some message)
    (hm' : configMessage values' = some message) : values = values' := by
  obtain ⟨parts, hparts, hflat⟩ := Option.map_eq_some_iff.mp hm
  obtain ⟨parts', hparts', hflat'⟩ := Option.map_eq_some_iff.mp hm'
  have hsame := configParts_inj hparts hparts' (hflat.trans hflat'.symm)
  funext key
  by_cases hkey : key ∈ clientKeys
  · have heq := hsame key hkey
    cases hv : values key with
    | none =>
        cases hv' : values' key with
        | none => rfl
        | some text =>
            rw [hv, hv'] at heq
            exact absurd (hv'.trans (congrArg some heq.symm)) (h'.unblank key)
    | some text =>
        cases hv' : values' key with
        | none =>
            rw [hv, hv'] at heq
            exact absurd (hv.trans (congrArg some heq)) (h.unblank key)
        | some text' =>
            rw [hv, hv'] at heq
            exact congrArg some heq
  · rw [h.only key hkey, h'.only key hkey]

theorem values_eq_of_digest (h : Readable values) (h' : Readable values')
    (htell : NoCollision (Option.map env.sha256) (configMessage values)
      (configMessage values'))
    (hd : clientConfigDigest env values = some digest)
    (hd' : clientConfigDigest env values' = some digest) :
    values = values' := by
  obtain ⟨message, hmessage, -⟩ := Option.map_eq_some_iff.mp hd
  have hsame := htell (hd.trans hd'.symm)
  exact configMessage_inj h h' hmessage (hsame ▸ hmessage)

/-! ### What updates store -/

theorem ofInt_ne_nil (n : ℤ) : PyStr.ofInt n ≠ [] := by
  cases n with
  | ofNat n =>
      obtain ⟨ds, hne, -, hds, -⟩ := PyStr.ofNat_eq_map n
      show PyStr.ofNat n ≠ []
      rw [hds]
      exact fun h => hne (List.map_eq_nil_iff.mp h)
  | negSucc n => exact List.cons_ne_nil _ _

theorem number_ne_blank {low high : ℤ} {value : Option PyStr}
    (h : Number low high value) : value ≠ some [] := by
  intro hvalue
  obtain ⟨n, hn, -⟩ := h [] hvalue
  exact ofInt_ne_nil n hn.symm

theorem stored_unblank {stored : Values} (h : Sound stored) {key : SettingKey}
    (hkey : key ∈ clientKeys) : stored key ≠ some [] := by
  simp only [clientKeys, List.mem_cons, List.not_mem_nil, or_false] at hkey
  rcases hkey with rfl | rfl | rfl | rfl
  · exact fun hblank => (h.apiKey [] hblank).1 rfl
  · exact number_ne_blank h.concurrency
  · exact number_ne_blank h.maxResponseBytes
  · exact number_ne_blank h.rps

/-! ## §5  The invariant -/

def ClientObject.Coherent (tables : TextTables) (object : ClientObject) : Prop :=
  clientFromPlatformValues tables object.builtFrom = .ok object.client

/-- Cached object, digest and settings belong together. -/
def ClientCache.Coherent (env : Env) (tables : TextTables)
    (cache : ClientCache) : Prop :=
  ∀ object, cache.cached = some object →
    Readable object.builtFrom ∧ object.Coherent tables ∧
      cache.configDigest = clientConfigDigest env object.builtFrom

def Call.Coherent (env : Env) (tables : TextTables) : Call → Prop
  | .idle => True
  | .reading values remaining =>
      Readable values ∧ ∀ key ∈ remaining, key ∈ clientKeys
  | .waiting values digest =>
      Readable values ∧ clientConfigDigest env values = some digest
  | .returned values object =>
      object.builtFrom = values ∧ object.Coherent tables
  | .raised _ => True

structure ClientState.Coherent (env : Env) (tables : TextTables)
    (s : ClientState) : Prop where
  stored : ∃ stored, Stores env s.rows stored ∧ Sound stored
  cache : s.cache.Coherent env tables
  calls : ∀ i, (s.calls i).Coherent env tables

theorem ClientState.Coherent.setCall (h : s.Coherent env tables) {call : Call}
    (hcall : call.Coherent env tables) :
    (s.setCall i call).Coherent env tables where
  stored := h.stored
  cache := h.cache
  calls j := by
    unfold ClientState.setCall
    dsimp only
    by_cases heq : j = i
    · subst heq
      rw [Function.update_self]
      exact hcall
    · rw [Function.update_of_ne heq]
      exact h.calls j

theorem goOn_coherent (h : Readable values) {remaining : List SettingKey}
    (hkeys : ∀ key ∈ remaining, key ∈ clientKeys) :
    (goOn env values remaining).Coherent env tables := by
  cases remaining with
  | cons key rest => exact ⟨h, hkeys⟩
  | nil =>
      unfold goOn
      cases hd : clientConfigDigest env values with
      | none => trivial
      | some digest => exact ⟨h, hd⟩

/-- One `SELECT`, whatever has been committed since the last one. -/
theorem readKey_coherent (hs : s.Coherent env tables) {key : SettingKey}
    {remaining : List SettingKey} (h : Readable values)
    (hkeys : ∀ k ∈ key :: remaining, k ∈ clientKeys) :
    (readKey env s.rows values key remaining).Coherent env tables := by
  obtain ⟨stored, hstored, hsound⟩ := hs.stored
  have hkey : key ∈ clientKeys := hkeys key List.mem_cons_self
  unfold readKey
  rw [hstored key]
  exact goOn_coherent (h.update hkey (stored_unblank hsound hkey))
    fun k hk => hkeys k (List.mem_cons_of_mem key hk)

/-! ### Under the lock -/

theorem ClientCache.construct_eq_ok {client : LeakCheckClient}
    (h : clientFromPlatformValues tables values = .ok client) :
    cache.construct tables values digest =
      (.ok ⟨cache.constructed, values, client⟩,
        ⟨some ⟨cache.constructed, values, client⟩, some digest,
          cache.constructed + 1⟩) := by
  unfold ClientCache.construct
  rw [h]

theorem ClientCache.construct_eq_error {e : ClientError}
    (h : clientFromPlatformValues tables values = .error e) :
    cache.construct tables values digest = (.error e, cache) := by
  unfold ClientCache.construct
  rw [h]

/-- A holder finds the client of its own settings, or constructs one. -/
theorem ClientCache.locked_cases (cache : ClientCache) :
    (∃ object, cache.cached = some object ∧ cache.configDigest = some digest ∧
      cache.locked tables values digest = (.ok object, cache)) ∨
    cache.locked tables values digest =
      cache.construct tables values digest := by
  unfold ClientCache.locked
  cases hcached : cache.cached with
  | none => exact Or.inr rfl
  | some object =>
      by_cases hdigest : cache.configDigest = some digest
      · exact Or.inl ⟨object, rfl, hdigest, if_pos hdigest⟩
      · exact Or.inr (if_neg hdigest)

/-- **What a holder gets.** Found or constructed, the client is that of the
settings the call has read, and it is the one that stays cached; rejected
settings raise and leave the cache as it is. -/
theorem ClientCache.Coherent.locked (h : cache.Coherent env tables)
    (hvalues : Readable values)
    (hdigest : clientConfigDigest env values = some digest)
    (htell : ∀ object, cache.cached = some object →
      NoCollision (Option.map env.sha256) (configMessage object.builtFrom)
        (configMessage values)) :
    (∃ object cache', cache.locked tables values digest =
        (.ok object, cache') ∧ object.builtFrom = values ∧
        object.Coherent tables ∧ cache'.cached = some object ∧
        cache'.configDigest = some digest) ∨
    ∃ e, clientFromPlatformValues tables values = .error e ∧
      cache.locked tables values digest = (.error e, cache) := by
  rcases cache.locked_cases with ⟨object, hcached, hsame, heq⟩ | heq
  · left
    obtain ⟨hread, hbuilt, hown⟩ := h object hcached
    have hvalue : object.builtFrom = values :=
      values_eq_of_digest hread hvalues (htell object hcached)
        (hown.symm.trans hsame) hdigest
    exact ⟨object, cache, heq, hvalue, hbuilt, hcached, hsame⟩
  · cases hclient : clientFromPlatformValues tables values with
    | error e =>
        right
        exact ⟨e, rfl, heq.trans (ClientCache.construct_eq_error hclient)⟩
    | ok client =>
        left
        exact ⟨_, _, heq.trans (ClientCache.construct_eq_ok hclient), rfl,
          hclient, rfl, rfl⟩

theorem clientStep_enter (h : s.calls i = .waiting values digest) :
    clientStep env urls tables s (.enter i) =
      some (({ s with cache :=
          (s.cache.locked tables values digest).2 } : ClientState).setCall i
        (outcome values (s.cache.locked tables values digest).1)) := by
  simp only [clientStep, h]

/-- What a step under the lock was taken from. -/
theorem clientStep_enter_eq_some
    (h : clientStep env urls tables s (.enter i) = some t) :
    ∃ values digest, s.calls i = .waiting values digest ∧
      t = ({ s with cache :=
          (s.cache.locked tables values digest).2 } : ClientState).setCall i
        (outcome values (s.cache.locked tables values digest).1) := by
  cases hcall : s.calls i with
  | waiting values digest =>
      rw [clientStep_enter hcall] at h
      exact ⟨values, digest, rfl, (Option.some.inj h).symm⟩
  | idle => simp [clientStep, hcall] at h
  | reading values remaining => simp [clientStep, hcall] at h
  | returned values object => simp [clientStep, hcall] at h
  | raised error => simp [clientStep, hcall] at h

theorem DigestsTell.tells (h : DigestsTell env s (.enter i))
    (hcall : s.calls i = .waiting values digest) :
    ∀ object, s.cache.cached = some object →
      NoCollision (Option.map env.sha256) (configMessage object.builtFrom)
        (configMessage values) := by
  intro object hcached
  change ComparisonTells env (s.calls i) s.cache.cached at h
  rw [hcall, hcached] at h
  exact h

theorem enter_coherent (hs : s.Coherent env tables)
    (htell : DigestsTell env s (.enter i))
    (h : clientStep env urls tables s (.enter i) = some t) :
    t.Coherent env tables := by
  obtain ⟨values, digest, hcall, rfl⟩ := clientStep_enter_eq_some h
  have hwaiting := hs.calls i
  rw [hcall] at hwaiting
  obtain ⟨hread, hdigest⟩ := hwaiting
  rcases hs.cache.locked hread hdigest (htell.tells hcall) with
    ⟨object, cache', heq, hvalue, hbuilt, hcached, hown⟩ | ⟨e, -, heq⟩
  · have hcache : cache'.Coherent env tables := by
      intro other hother
      obtain rfl : object = other :=
        Option.some.inj (hcached.symm.trans hother)
      rw [← hvalue] at hread hdigest
      exact ⟨hread, hbuilt, hown.trans hdigest.symm⟩
    have hnew : ({ s with cache := cache' } : ClientState).Coherent env
        tables := ⟨hs.stored, hcache, hs.calls⟩
    rw [heq]
    exact hnew.setCall ⟨hvalue, hbuilt⟩
  · rw [heq]
    exact ClientState.Coherent.setCall ⟨hs.stored, hs.cache, hs.calls⟩ trivial

/-- **Step lemma.** -/
theorem clientStep_coherent (hs : s.Coherent env tables)
    (htell : DigestsTell env s a)
    (h : clientStep env urls tables s a = some t) : t.Coherent env tables := by
  cases a with
  | update request =>
      obtain ⟨⟨accepted, rows⟩, hupdate, rfl⟩ := Option.map_eq_some_iff.mp h
      obtain ⟨stored, hstored, hsound⟩ := hs.stored
      have hvalid := (Settings.validate_spec
        (updateSettings_eq_some hupdate).1).1
      exact ⟨⟨_, hstored.updateSettings hupdate, hsound.overwrite hvalid⟩,
        hs.cache, hs.calls⟩
  | start i order =>
      cases hcall : s.calls i with
      | idle =>
          simp only [clientStep, hcall] at h
          split at h
          · rename_i hperm
            cases h
            exact hs.setCall (goOn_coherent readable_empty
              fun key hkey => hperm.mem_iff.mp hkey)
          · cases h
      | reading values remaining => simp [clientStep, hcall] at h
      | waiting values digest => simp [clientStep, hcall] at h
      | returned values object => simp [clientStep, hcall] at h
      | raised error => simp [clientStep, hcall] at h
  | read i =>
      cases hcall : s.calls i with
      | reading values remaining =>
          have hreading := hs.calls i
          rw [hcall] at hreading
          cases remaining with
          | nil => simp [clientStep, hcall] at h
          | cons key remaining =>
              simp only [clientStep, hcall] at h
              cases h
              exact hs.setCall (readKey_coherent hs hreading.1 hreading.2)
      | idle => simp [clientStep, hcall] at h
      | waiting values digest => simp [clientStep, hcall] at h
      | returned values object => simp [clientStep, hcall] at h
      | raised error => simp [clientStep, hcall] at h
  | enter i => exact enter_coherent hs htell h

/-- **Run lemma.** -/
theorem coherent_of_reachable
    (h : (clientSystem env urls tables).ReachableUnder (DigestsTell env) s) :
    s.Coherent env tables := by
  refine h.invariant ?_ fun s a t hs htell hstep =>
    clientStep_coherent hs htell hstep
  rintro s ⟨hrows, hcache, hcalls⟩
  refine ⟨⟨fun _ => none, ?_, Settings.sound_empty⟩, ?_, ?_⟩
  · rw [hrows]
    exact Settings.stores_empty
  · rw [hcache]
    intro object hobject
    cases hobject
  · intro i
    rw [hcalls i]
    trivial

/-! ## §6  What a call returns -/

def ClientAction.enters : ClientAction → Prop
  | .enter _ => True
  | _ => False

theorem clientStep_calls_self {call : Call} :
    (s.setCall i call).calls i = call :=
  Function.update_self ..

/-- **Frame.** The cache changes under the lock only. -/
theorem cache_of_not_enters (ha : ¬ a.enters)
    (h : clientStep env urls tables s a = some t) : t.cache = s.cache := by
  cases a with
  | update request =>
      obtain ⟨x, -, rfl⟩ := Option.map_eq_some_iff.mp h
      rfl
  | start i order =>
      simp only [clientStep] at h
      split at h
      · split at h
        · cases h
          rfl
        · cases h
      · cases h
  | read i =>
      simp only [clientStep] at h
      split at h
      · cases h
        rfl
      · cases h
  | enter i => exact absurd trivial ha

theorem cache_of_leads
    (h : (clientSystem env urls tables).Leads (fun _ a => ¬ a.enters) s t) :
    t.cache = s.cache := by
  induction h with
  | refl => rfl
  | tail _ hg hstep ih => exact (cache_of_not_enters hg hstep).trans ih

theorem digestsTell_of_not_enters (ha : ¬ a.enters) : DigestsTell env s a := by
  cases a with
  | update request => trivial
  | start i order => trivial
  | read i => trivial
  | enter i => exact absurd trivial ha

/-- A holder of a coherent cache. -/
theorem enter_cases (hs : s.Coherent env tables)
    (htell : DigestsTell env s (.enter i))
    (hcall : s.calls i = .waiting values digest)
    (h : clientStep env urls tables s (.enter i) = some t) :
    (∃ object, t.calls i = .returned values object ∧
      t.cache.cached = some object ∧ t.cache.configDigest = some digest) ∨
    ∃ e, clientFromPlatformValues tables values = .error e ∧
      t.calls i = .raised (.client e) ∧ t.cache = s.cache := by
  rw [clientStep_enter hcall] at h
  cases h
  have hwaiting := hs.calls i
  rw [hcall] at hwaiting
  rcases hs.cache.locked hwaiting.1 hwaiting.2 (htell.tells hcall) with
    ⟨object, cache', heq, -, -, hcached, hown⟩ | ⟨e, he, heq⟩
  · left
    rw [heq]
    exact ⟨object, clientStep_calls_self, hcached, hown⟩
  · right
    rw [heq]
    exact ⟨e, he, clientStep_calls_self, rfl⟩

theorem enter_calls_of_ne (hne : j ≠ i)
    (h : clientStep env urls tables s (.enter i) = some t) :
    t.calls j = s.calls j := by
  obtain ⟨values, digest, -, rfl⟩ := clientStep_enter_eq_some h
  exact Function.update_of_ne hne ..

/-- The next holder with the digest of the cached client finds it. -/
theorem enter_of_cached {object : ClientObject}
    (hcached : s.cache.cached = some object)
    (hown : s.cache.configDigest = some digest)
    (hcall : s.calls i = .waiting values digest)
    (h : clientStep env urls tables s (.enter i) = some t) :
    t.calls i = .returned values object := by
  have hlocked : s.cache.locked tables values digest = (.ok object, s.cache) := by
    unfold ClientCache.locked
    rw [hcached]
    exact if_pos hown
  rw [clientStep_enter hcall, hlocked] at h
  cases h
  exact clientStep_calls_self

/-- Two holders of the same settings, with steps of others between them but no
holder. -/
theorem next_holder_shares
    (hreach : (clientSystem env urls tables).ReachableUnder (DigestsTell env) s)
    (htell : DigestsTell env s (.enter i)) {digest' : Bytes}
    {object : ClientObject} {s₁ : ClientState}
    (hi : s.calls i = .waiting values digest)
    (hfirst : clientStep env urls tables s (.enter i) = some s₁)
    (hreturned : s₁.calls i = .returned values object)
    (hbetween : (clientSystem env urls tables).Leads
      (fun _ a => ¬ a.enters) s₁ t)
    (hj : t.calls j = .waiting values digest')
    (hsecond : clientStep env urls tables t (.enter j) = some u) :
    u.calls j = .returned values object := by
  have hs := coherent_of_reachable hreach
  have ht : t.Coherent env tables := by
    refine hbetween.invariant (I := fun s => s.Coherent env tables) ?_
      (enter_coherent hs htell hfirst)
    intro s a t hs ha hstep
    exact clientStep_coherent hs (digestsTell_of_not_enters ha) hstep
  have hdigest : digest' = digest := by
    have hwaiting := hs.calls i
    have hwaiting' := ht.calls j
    rw [hi] at hwaiting
    rw [hj] at hwaiting'
    exact Option.some.inj (hwaiting'.2.symm.trans hwaiting.2)
  subst hdigest
  have hcache := cache_of_leads hbetween
  rcases enter_cases hs htell hi hfirst with
    ⟨found, hfound, hcached, hown⟩ | ⟨e, -, hraised, -⟩
  · rw [hfound] at hreturned
    cases hreturned
    rw [← hcache] at hcached hown
    exact enter_of_cached hcached hown hj hsecond
  · rw [hraised] at hreturned
    cases hreturned

/-- **The shared client.** In every interleaving of calls and updates: a call
returns the client of the settings it has read, the next holder of the lock
with the same settings gets the same object, and rejected settings raise and
leave the cache as it is. -/
theorem configured_client
    (hreach : (clientSystem env urls tables).ReachableUnder (DigestsTell env)
      s) :
    (∀ i values object, s.calls i = .returned values object →
      object.builtFrom = values ∧
        clientFromPlatformValues tables values = .ok object.client) ∧
    (∀ i j values digest digest' object s₁ t u,
      s.calls i = .waiting values digest →
      DigestsTell env s (.enter i) →
      clientStep env urls tables s (.enter i) = some s₁ →
      s₁.calls i = .returned values object →
      (clientSystem env urls tables).Leads (fun _ a => ¬ a.enters) s₁ t →
      t.calls j = .waiting values digest' →
      clientStep env urls tables t (.enter j) = some u →
      u.calls j = .returned values object) ∧
    (∀ i values digest e, s.calls i = .waiting values digest →
      DigestsTell env s (.enter i) →
      clientFromPlatformValues tables values = .error e →
      ∃ t, clientStep env urls tables s (.enter i) = some t ∧
        t.calls i = .raised (.client e) ∧ t.cache = s.cache) := by
  have hs := coherent_of_reachable hreach
  refine ⟨?_, ?_, ?_⟩
  · intro i values object hcall
    have hreturned := hs.calls i
    rw [hcall] at hreturned
    obtain ⟨rfl, hbuilt⟩ := hreturned
    exact ⟨rfl, hbuilt⟩
  · intro i j values digest digest' object s₁ t u hi htell hfirst hreturned
      hbetween hj hsecond
    exact next_holder_shares hreach htell hi hfirst hreturned hbetween hj
      hsecond
  · intro i values digest e hcall htell he
    obtain ⟨t, ht⟩ : ∃ t, clientStep env urls tables s (.enter i) = some t :=
      ⟨_, clientStep_enter hcall⟩
    refine ⟨t, ht, ?_⟩
    rcases enter_cases hs htell hcall ht with
      ⟨object, hreturned, hcached, hown⟩ | ⟨e', he', hraised, hcache⟩
    · -- a client of rejected settings cannot have been constructed
      have ht' := (enter_coherent hs htell ht).calls i
      rw [hreturned] at ht'
      obtain ⟨rfl, hbuilt⟩ := ht'
      exact nomatch he.symm.trans hbuilt
    · rw [he] at he'
      cases he'
      exact ⟨hraised, hcache⟩

/-! ### Three calls and an update -/

/-- What is hashed of a key and no other setting. -/
def keyMessage (key : String) : Bytes :=
  PyStr.asciiLit "leakcheck_api_key" ++ Findings.framedText key ++
    PyStr.asciiLit "leakcheck_concurrency" ++ [0, 0, 0, 0] ++
    PyStr.asciiLit "leakcheck_max_response_bytes" ++ [0, 0, 0, 0] ++
    PyStr.asciiLit "leakcheck_rps" ++ [0, 0, 0, 0]

/-- SHA-256 of the messages of the sample calls. -/
def clientEnv : Env :=
  { Settings.settingEnv with
    sha256 := fun b =>
      (([(keyMessage "", Findings.digestOf
          0x183ce8c1bc977121d56000ee58222af8ef477dd04d2a76cfb8a3073228448601),
        (keyMessage "k1", Findings.digestOf
          0x184978536a8f4ec1a442a9fb51be87195394dea6f17c15ace7ca31d260f6b6f5)
        ].find? fun x => x.1 == b).map Prod.snd).getD [] }

def startUp : ClientState := ⟨[], .empty, fun _ => .idle⟩

/-- Call 2 reads before the key is stored, calls 0 and 1 after it. -/
def sampleActions : List ClientAction :=
  [.start 2 clientKeys, .read 2, .read 2, .read 2, .read 2,
    .update ⟨{ leakcheckApiKey := some (PyStr.lit "k1") },
      ⟨fun _ => (List.range 12).map UInt8.ofNat, 0⟩, 1⟩,
    .start 0 clientKeys, .start 1 clientKeys.reverse,
    .read 0, .read 1, .read 1, .read 0, .read 0, .read 1, .read 1, .read 0]

/-- Both are at the lock, with the same settings. -/
def sameSettings (s : ClientState) (i j : ℕ) : Bool :=
  match s.calls i, s.calls j with
  | .waiting values _, .waiting values' _ =>
      SettingKey.all.all fun key => decide (values key = values' key)
  | _, _ => false

def clientOf (s : ClientState) (i : ℕ) : Option LeakCheckClient :=
  match s.calls i with
  | .returned _ object => some object.client
  | _ => none

theorem sameSettings_spec (h : sameSettings s i j = true) :
    ∃ values digest digest', s.calls i = .waiting values digest ∧
      s.calls j = .waiting values digest' := by
  unfold sameSettings at h
  split at h
  · rename_i values digest values' digest' hi hj
    have hsame : values = values' := by
      funext key
      exact of_decide_eq_true
        (List.all_eq_true.mp h key (Settings.mem_all key))
    subst hsame
    exact ⟨values, digest, digest', hi, hj⟩
  · cases h

theorem clientOf_spec {client : LeakCheckClient}
    (h : clientOf s i = some client) :
    ∃ values object, s.calls i = .returned values object ∧
      object.client = client := by
  unfold clientOf at h
  split at h
  · rename_i values object hcall
    exact ⟨values, object, hcall, Option.some.inj h⟩
  · cases h

/-- What the settings of a call at the lock raise. -/
def rejection (s : ClientState) (i : ℕ) : Option ClientError :=
  match s.calls i with
  | .waiting values _ =>
      match clientFromPlatformValues Outbox.asciiTables values with
      | .error e => some e
      | .ok _ => none
  | _ => none

theorem rejection_spec {e : ClientError} (h : rejection s i = some e) :
    ∃ values digest, s.calls i = .waiting values digest ∧
      clientFromPlatformValues Outbox.asciiTables values = .error e := by
  unfold rejection at h
  split at h
  · rename_i values digest hcall
    split at h
    · rename_i e' he
      cases h
      exact ⟨values, digest, hcall, he⟩
    · cases h
  · cases h

theorem startUp_init : (clientSystem clientEnv Settings.asciiValidators
    Outbox.asciiTables).init startUp := ⟨rfl, rfl, fun _ => rfl⟩

/-- Calls 0 and 1 get one object, with the stored key; call 2 raises with the
settings it has read before. -/
theorem sampleCalls_share : (∃ s s₁ u values object,
    (clientSystem clientEnv Settings.asciiValidators
      Outbox.asciiTables).runUnder (DigestsTell clientEnv) startUp
        sampleActions = some s ∧
    clientStep clientEnv Settings.asciiValidators Outbox.asciiTables s
      (.enter 0) = some s₁ ∧
    s₁.calls 0 = .returned values object ∧
    object.client.apiKey = PyStr.lit "k1" ∧
    clientStep clientEnv Settings.asciiValidators Outbox.asciiTables s₁
      (.enter 1) = some u ∧
    u.calls 1 = .returned values object) ∧
    ∃ s t, (clientSystem clientEnv Settings.asciiValidators
      Outbox.asciiTables).runUnder (DigestsTell clientEnv) startUp
        (sampleActions ++ [.enter 0, .enter 1]) = some s ∧
    clientStep clientEnv Settings.asciiValidators Outbox.asciiTables s
      (.enter 2) = some t ∧
    t.calls 2 = .raised (.client
      (.configuration "LeakCheck API key is not configured")) ∧
    t.cache = s.cache := by
  constructor
  · have hrun : ∃ s, (clientSystem clientEnv Settings.asciiValidators
        Outbox.asciiTables).runUnder (DigestsTell clientEnv) startUp
          sampleActions = some s ∧
        (DigestsTell clientEnv s (.enter 0) ∧ sameSettings s 0 1 = true ∧
          ((clientStep clientEnv Settings.asciiValidators Outbox.asciiTables s
            (.enter 0)).any fun s₁ => decide ((clientOf s₁ 0).map
              LeakCheckClient.apiKey = some (PyStr.lit "k1"))) = true) :=
      System.exists_of_runUnder (by decide +kernel)
    obtain ⟨s, hs, htell, hsame, hfirst⟩ := hrun
    obtain ⟨values, digest, digest', hi, hj⟩ := sameSettings_spec hsame
    obtain ⟨s₁, hs₁, hclient⟩ := (Option.any_eq_true _ _).mp hfirst
    obtain ⟨client, hclient, hkey⟩ :=
      Option.map_eq_some_iff.mp (of_decide_eq_true hclient)
    obtain ⟨values', object, hreturned, rfl⟩ := clientOf_spec hclient
    have hreach := System.reachable_of_runUnder startUp_init hs
    have hvalues : values' = values := by
      rcases enter_cases (coherent_of_reachable hreach) htell hi hs₁ with
        ⟨found, hfound, -, -⟩ | ⟨e, -, hraised, -⟩
      · rw [hreturned] at hfound
        cases hfound
        rfl
      · rw [hreturned] at hraised
        cases hraised
    subst hvalues
    have hj' : s₁.calls 1 = .waiting values' digest' :=
      (enter_calls_of_ne (by decide) hs₁).trans hj
    obtain ⟨-, hshare, -⟩ := configured_client hreach
    refine ⟨s, s₁, _, values', object, hs, hs₁, hreturned, hkey,
      clientStep_enter hj', ?_⟩
    exact hshare 0 1 values' digest digest' object s₁ s₁ _ hi htell hs₁
      hreturned (.refl s₁) hj' (clientStep_enter hj')
  · have hrun : ∃ s, (clientSystem clientEnv Settings.asciiValidators
        Outbox.asciiTables).runUnder (DigestsTell clientEnv) startUp
          (sampleActions ++ [.enter 0, .enter 1]) = some s ∧
        (DigestsTell clientEnv s (.enter 2) ∧ rejection s 2 = some
          (.configuration "LeakCheck API key is not configured")) :=
      System.exists_of_runUnder (by decide +kernel)
    obtain ⟨s, hs, htell, hrejected⟩ := hrun
    obtain ⟨values, digest, hcall, he⟩ := rejection_spec hrejected
    obtain ⟨-, -, hraise⟩ :=
      configured_client (System.reachable_of_runUnder startUp_init hs)
    obtain ⟨t, ht, hraised, hcache⟩ := hraise 2 values digest _ hcall htell he
    exact ⟨s, t, hs, ht, hraised, hcache⟩

end LeakcheckHub.Scans
