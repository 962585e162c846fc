import LeakcheckHub.Foundation.PgText
import LeakcheckHub.Models
import Mathlib.Data.List.Nodup

/-!
# The users table

`users` with its three uniqueness constraints as part of the type: a statement
that would break one is an error and leaves no table. Emails are `CITEXT`, so
they are compared through `citext`.
-/

namespace LeakcheckHub.Accounts

open Foundation

/-- Python's Unicode tables and the case folding of a `CITEXT` comparison. -/
structure TextOps extends UnicodeData where
  citext : PyStr → PyStr

def asciiOps : TextOps := ⟨asciiData, PyStr.asciiLower⟩

variable (ops : TextOps)

/-- `users_pkey`, `uq_users_email` and `uq_users_google_sub`. -/
structure UniqueRows (rows : List User) : Prop where
  ids : (rows.map User.id).Nodup
  emails : ∀ r ∈ rows, ∀ r' ∈ rows,
    ops.citext r.email = ops.citext r'.email → r.id = r'.id
  subs : ∀ r ∈ rows, ∀ r' ∈ rows,
    r.googleSub = r'.googleSub → r.googleSub = none ∨ r.id = r'.id

instance (rows : List User) : Decidable (UniqueRows ops rows) :=
  decidable_of_iff ((rows.map User.id).Nodup ∧
    (∀ r ∈ rows, ∀ r' ∈ rows,
      ops.citext r.email = ops.citext r'.email → r.id = r'.id) ∧
    ∀ r ∈ rows, ∀ r' ∈ rows,
      r.googleSub = r'.googleSub → r.googleSub = none ∨ r.id = r'.id)
    ⟨fun ⟨h₁, h₂, h₃⟩ => ⟨h₁, h₂, h₃⟩, fun h => ⟨h.ids, h.emails, h.subs⟩⟩

structure UserTable where
  rows : List User
  unique : UniqueRows ops rows

/-- The outcome of a statement that leaves these rows. -/
def UserTable.ofRows (rows : List User) : Except DbError (UserTable ops) :=
  if h : UniqueRows ops rows then .ok ⟨rows, h⟩ else .error .uniqueViolation

variable {ops}

theorem UniqueRows.nil : UniqueRows ops [] :=
  ⟨List.nodup_nil, by simp, by simp⟩

/-- A change that keeps ids and emails has to answer for external ids only. -/
theorem UniqueRows.map_of_subs {rows : List User} (h : UniqueRows ops rows)
    {f : User → User} (hid : ∀ r, (f r).id = r.id)
    (hemail : ∀ r, (f r).email = r.email)
    (hsubs : ∀ r ∈ rows, ∀ r' ∈ rows, (f r).googleSub = (f r').googleSub →
      (f r).googleSub = none ∨ r.id = r'.id) :
    UniqueRows ops (rows.map f) := by
  constructor
  · have hids : (rows.map f).map User.id = rows.map User.id := by
      rw [List.map_map]
      exact List.map_congr_left fun r _ => hid r
    rw [hids]
    exact h.ids
  · intro r hr r' hr' hk
    obtain ⟨o, ho, rfl⟩ := List.mem_map.mp hr
    obtain ⟨o', ho', rfl⟩ := List.mem_map.mp hr'
    rw [hemail, hemail] at hk
    rw [hid, hid]
    exact h.emails o ho o' ho' hk
  · intro r hr r' hr' hs
    obtain ⟨o, ho, rfl⟩ := List.mem_map.mp hr
    obtain ⟨o', ho', rfl⟩ := List.mem_map.mp hr'
    rw [hid, hid]
    exact hsubs o ho o' ho' hs

/-- Constraints see ids, emails and external ids only. -/
theorem UniqueRows.map {rows : List User} (h : UniqueRows ops rows)
    {f : User → User} (hid : ∀ r, (f r).id = r.id)
    (hemail : ∀ r, (f r).email = r.email)
    (hsub : ∀ r, (f r).googleSub = r.googleSub) :
    UniqueRows ops (rows.map f) := by
  refine h.map_of_subs hid hemail fun r hr r' hr' hs => ?_
  rw [hsub, hsub] at hs
  rw [hsub]
  exact h.subs r hr r' hr' hs

namespace UserTable

variable {t t' : UserTable ops} {rows : List User} {r r' : User} {k : PyStr}

theorem ofRows_ok (h : UniqueRows ops rows) :
    ofRows ops rows = .ok ⟨rows, h⟩ := dif_pos h

theorem ofRows_eq_ok : ofRows ops rows = .ok t ↔ t.rows = rows := by
  unfold ofRows
  split
  · rename_i h
    rw [Except.ok.injEq]
    constructor
    · rintro rfl
      rfl
    · rintro rfl
      rfl
  · rename_i h
    constructor
    · intro ht
      cases ht
    · rintro rfl
      exact absurd t.unique h

/-- Rows are told apart by their ids. -/
theorem eq_of_id (hr : r ∈ t.rows) (hr' : r' ∈ t.rows) (h : r.id = r'.id) :
    r = r' :=
  List.inj_on_of_nodup_map t.unique.ids hr hr' h

theorem eq_of_email (hr : r ∈ t.rows) (hr' : r' ∈ t.rows)
    (h : ops.citext r.email = ops.citext r'.email) : r = r' :=
  eq_of_id hr hr' (t.unique.emails r hr r' hr' h)

theorem eq_of_sub {sub : PyStr} (hr : r ∈ t.rows) (hr' : r' ∈ t.rows)
    (h : r.googleSub = some sub) (h' : r'.googleSub = some sub) : r = r' := by
  refine eq_of_id hr hr' ?_
  rcases t.unique.subs r hr r' hr' (h.trans h'.symm) with hnone | hid
  · rw [h] at hnone
    cases hnone
  · exact hid

def byId (t : UserTable ops) (i : Uuid) : Option User :=
  t.rows.find? fun r => decide (r.id = i)

theorem byId_eq_some {i : Uuid} :
    t.byId i = some r ↔ r ∈ t.rows ∧ r.id = i := by
  unfold byId
  constructor
  · intro h
    exact ⟨List.mem_of_find?_eq_some h, by simpa using List.find?_some h⟩
  · rintro ⟨hr, rfl⟩
    cases hf : t.rows.find? fun o => decide (o.id = r.id) with
    | none =>
        have := List.find?_eq_none.mp hf r hr
        exact absurd (decide_eq_true rfl) this
    | some o =>
        have ho : o.id = r.id := by simpa using List.find?_some hf
        rw [eq_of_id (List.mem_of_find?_eq_some hf) hr ho]

/-- The row that holds an external id. -/
def bySub (t : UserTable ops) (sub : PyStr) : Option User :=
  t.rows.find? fun r => decide (r.googleSub = some sub)

theorem bySub_spec {sub : PyStr} (h : t.bySub sub = some r) :
    r ∈ t.rows ∧ r.googleSub = some sub :=
  ⟨List.mem_of_find?_eq_some h, by simpa using List.find?_some h⟩

/-- The row whose email has the key `k`. -/
def byEmail (t : UserTable ops) (k : PyStr) : Option User :=
  t.rows.find? fun r => decide (ops.citext r.email = k)

theorem byEmail_spec (h : t.byEmail k = some r) :
    r ∈ t.rows ∧ ops.citext r.email = k := by
  unfold byEmail at h
  exact ⟨List.mem_of_find?_eq_some h, by simpa using List.find?_some h⟩

theorem byEmail_eq_some :
    t.byEmail k = some r ↔ r ∈ t.rows ∧ ops.citext r.email = k := by
  refine ⟨byEmail_spec, ?_⟩
  rintro ⟨hr, hk⟩
  cases hf : t.byEmail k with
  | none =>
      have := List.find?_eq_none.mp hf r hr
      rw [decide_eq_true_eq] at this
      exact absurd hk this
  | some r' =>
      obtain ⟨hr', hk'⟩ := byEmail_spec hf
      rw [eq_of_email hr' hr (hk'.trans hk.symm)]

/-- The external id that the row of an email holds. -/
def subAt (t : UserTable ops) (k : PyStr) : Option PyStr :=
  (t.byEmail k).bind User.googleSub

theorem subAt_eq_some {sub : PyStr} :
    t.subAt k = some sub ↔
      ∃ r ∈ t.rows, ops.citext r.email = k ∧ r.googleSub = some sub := by
  simp only [subAt, Option.bind_eq_some_iff, byEmail_eq_some, and_assoc]

theorem subAt_map {f : User → User} (hrows : t'.rows = t.rows.map f)
    (hemail : ∀ r, (f r).email = r.email)
    (hsub : ∀ r, (f r).googleSub = r.googleSub) : t'.subAt = t.subAt := by
  funext k
  refine Option.ext fun sub => ?_
  rw [subAt_eq_some, subAt_eq_some, hrows]
  constructor
  · rintro ⟨r', hr', hk, hs⟩
    obtain ⟨r, hr, rfl⟩ := List.mem_map.mp hr'
    rw [hemail] at hk
    rw [hsub] at hs
    exact ⟨r, hr, hk, hs⟩
  · rintro ⟨r, hr, hk, hs⟩
    refine ⟨f r, List.mem_map_of_mem hr, ?_, ?_⟩
    · rw [hemail]
      exact hk
    · rw [hsub]
      exact hs

end UserTable

end LeakcheckHub.Accounts
