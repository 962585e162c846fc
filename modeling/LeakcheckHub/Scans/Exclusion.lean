import LeakcheckHub.Scans.Admission
import Mathlib.Data.List.Nodup

/-!
# One scan at a time

Both routes take the lock of their actor before they look for an active scan,
and keep it until theirs is committed. The analyst route finds every active
scan of the actor; `self_check` overlooks those of the analyst route.

§1 the invariant · §2 steps that keep it · §3 the law.
-/

set_option linter.unusedSectionVars false

namespace LeakcheckHub.Scans

open Foundation

variable {Request : Type} [DecidableEq Request] {key : Uuid → ℤ}
  {s s' : State Request} {a : Action Request} {r q : Request} {i : Uuid}
  {actorId : Uuid}

/-! ## §1  The invariant -/

/-- A pending or running scan of an actor. -/
def inProgress (actorId : Uuid) (scan : Scan) : Bool :=
  scan.requestedBy == some actorId && scan.status.active

/-- No `self_check` asks for an active scan while the actor has one that is
not a self-check. -/
def Separate (s : State Request) : Action Request → Prop
  | .active r =>
      match s.request r with
      | .locked .selfCheck actorId =>
          ∀ scan ∈ s.scans, inProgress actorId scan = true →
            scan.trigger = .self
      | _ => True
  | _ => True

instance (s : State Request) (a : Action Request) :
    Decidable (Separate s a) :=
  match a with
  | .active r =>
      match hr : s.request r with
      | .locked .selfCheck actorId =>
          decidable_of_iff (∀ scan ∈ s.scans,
            inProgress actorId scan = true → scan.trigger = .self)
            (by simp only [Separate, hr])
      | .locked .analyst _ | .idle | .arrived .. | .activeRead ..
      | .latestRead .. | .admitted .. | .configured .. | .inserted ..
      | .committed _ | .refused .. => .isTrue (by simp only [Separate, hr])
  | .arrive .. | .lock _ | .latest _ | .settle .. | .configure .. | .insert ..
  | .commit _ | .addTask _ | .respond _ | .fail _ | .start _ | .begin _
  | .scan _ | .conclude .. | .finish _ | .crash _ | .stop | .restart | .tick _ =>
      .isTrue trivial

structure Exclusive (s : State Request) : Prop where
  one : ∀ actorId, ∀ scan ∈ s.scans, ∀ scan' ∈ s.scans,
    inProgress actorId scan = true → inProgress actorId scan' = true →
      scan.id = scan'.id
  clear : ∀ r actorId, (s.request r).cleared = some actorId →
    ∀ scan ∈ s.scans, inProgress actorId scan = false

/-- Who is past the query still has the lock. -/
theorem holder_of_cleared {x : RequestState} (h : x.cleared = some actorId) :
    x.holder = some actorId := by
  cases x with
  | activeRead b found =>
      cases found with
      | false => exact h
      | true => cases h
  | latestRead b found latest =>
      cases found with
      | false => exact h
      | true => cases h
  | _ => first | exact h | cases h

/-- Two requests past the query are not of one actor. -/
theorem Sane.cleared_unique (hs : Sane key s)
    (hr : (s.request r).cleared = some actorId)
    (hq : (s.request q).cleared = some actorId) : r = q := by
  have hlock := hs.held r actorId (holder_of_cleared hr)
  rw [hs.held q actorId (holder_of_cleared hq), Option.some.injEq] at hlock
  exact hlock.symm

/-- What a query that finds nothing says. -/
theorem not_inProgress_of_query {route : Route}
    (hfound : s.scans.any (activeFor route actorId) = false)
    (hroute : route = .selfCheck → ∀ scan ∈ s.scans,
      inProgress actorId scan = true → scan.trigger = .self) :
    ∀ scan ∈ s.scans, inProgress actorId scan = false := by
  intro scan hscan
  by_contra hprogress
  rw [Bool.not_eq_false] at hprogress
  refine List.any_eq_false.mp hfound scan hscan ?_
  have hfirst : (scan.requestedBy == some actorId && scan.status.active) =
      true := hprogress
  unfold activeFor
  rw [hfirst, Bool.true_and]
  cases route with
  | analyst => rfl
  | selfCheck =>
      rw [hroute rfl scan hscan hprogress]
      rfl

/-! ## §2  Steps that keep it -/

/-- Requests that go no further past the query. -/
theorem Exclusive.request (he : Exclusive s) (hscans : s'.scans = s.scans)
    (hcleared : ∀ q actorId, (s'.request q).cleared = some actorId →
      (s.request q).cleared = some actorId ∨
        ∀ scan ∈ s.scans, inProgress actorId scan = false) :
    Exclusive s' := by
  constructor
  · rw [hscans]
    exact he.one
  · intro q actorId hq
    rw [hscans]
    rcases hcleared q actorId hq with hold | hnew
    · exact he.clear q actorId hold
    · exact hnew

theorem Exclusive.setRequest {x : RequestState} (he : Exclusive s)
    (hscans : s'.scans = s.scans) (hrequest : s'.request = s.request)
    (hx : x.cleared = none) : Exclusive (s'.setRequest r x) := by
  refine he.request hscans fun q actorId hq => .inl ?_
  by_cases hqr : q = r
  · rw [hqr, setRequest_self, hx] at hq
    cases hq
  · rw [setRequest_ne hqr, hrequest] at hq
    exact hq

/-- A row that is rewritten is not active unless it was. -/
theorem Exclusive.update {f : Scan → Scan} (he : Exclusive s)
    (hrequest : s'.request = s.request)
    (hscans : s'.scans = updateScan i f s.scans)
    (hid : ∀ scan, (f scan).id = scan.id)
    (hprogress : ∀ scan ∈ s.scans, scan.id = i → ∀ actorId,
      inProgress actorId (f scan) = true → inProgress actorId scan = true) :
    Exclusive s' := by
  have hback : ∀ scan ∈ s'.scans, ∃ old ∈ s.scans, scan.id = old.id ∧
      ∀ actorId, inProgress actorId scan = true →
        inProgress actorId old = true := by
    intro scan hscan
    rw [hscans] at hscan
    obtain ⟨old, hold, rfl⟩ := List.mem_map.mp hscan
    by_cases hi : old.id = i
    · rw [if_pos hi]
      exact ⟨old, hold, hid old, hprogress old hold hi⟩
    · rw [if_neg hi]
      exact ⟨old, hold, rfl, fun _ h => h⟩
  constructor
  · intro actorId scan hscan scan' hscan' h h'
    obtain ⟨old, hold, heq, hp⟩ := hback scan hscan
    obtain ⟨old', hold', heq', hp'⟩ := hback scan' hscan'
    rw [heq, heq']
    exact he.one actorId old hold old' hold' (hp actorId h) (hp' actorId h')
  · intro r actorId hr scan hscan
    rw [hrequest] at hr
    obtain ⟨old, hold, -, hp⟩ := hback scan hscan
    have hnot := he.clear r actorId hr old hold
    by_contra h
    rw [hp actorId (Bool.of_not_eq_false h)] at hnot
    cases hnot

/-- A commit under the lock, past the query. -/
theorem Exclusive.commit {route : Route} {scan : Scan} (hs : Sane key s)
    (he : Exclusive s)
    (hrequest : s.request r = .inserted route actorId scan) :
    Exclusive ({ s.release key r with
      scans := s.scans ++ [scan] }.setRequest r (.committed scan.id)) := by
  have hcleared : (s.request r).cleared = some actorId := by
    rw [hrequest]
    rfl
  obtain ⟨hby, -⟩ := hs.inserted r route actorId scan hrequest
  have hnone := he.clear r actorId hcleared
  -- the new scan is of the actor whose lock `r` has
  have hactor : ∀ b, inProgress b scan = true → b = actorId := by
    intro b hb
    rw [inProgress, Bool.and_eq_true, beq_iff_eq, hby, Option.some.injEq] at hb
    exact hb.1.symm
  constructor
  · intro b x hx y hy hbx hby'
    rcases List.mem_append.mp hx with hx | hx
    · rcases List.mem_append.mp hy with hy | hy
      · exact he.one b x hx y hy hbx hby'
      · rw [List.mem_singleton.mp hy] at hby'
        rw [hactor b hby', hnone x hx] at hbx
        cases hbx
    · rcases List.mem_append.mp hy with hy | hy
      · rw [List.mem_singleton.mp hx] at hbx
        rw [hactor b hbx, hnone y hy] at hby'
        cases hby'
      · rw [List.mem_singleton.mp hx, List.mem_singleton.mp hy]
  · intro q b hq x hx
    by_cases hqr : q = r
    · rw [hqr, setRequest_self] at hq
      cases hq
    · have hold : ({ s.release key r with
          scans := s.scans ++ [scan] }.setRequest r
            (.committed scan.id)).request q = s.request q := by
        rw [setRequest_ne hqr]
        exact congrFun release_request q
      rw [hold] at hq
      rcases List.mem_append.mp hx with hx | hx
      · exact he.clear q b hq x hx
      · rw [List.mem_singleton.mp hx]
        by_contra hb
        have heq := hactor b (Bool.of_not_eq_false hb)
        rw [heq] at hq
        exact hqr (hs.cleared_unique hq hcleared)

/-- **Step lemma.** -/
theorem exclusive_step (hs : Sane key s) (he : Exclusive s)
    (ha : Separate s a) (h : step key s a = some s') : Exclusive s' := by
  cases step_effect h with
  | move r x _ _ _ hcleared _ =>
      refine he.request rfl fun q actorId hq => ?_
      by_cases hqr : q = r
      · rw [hqr, setRequest_self] at hq
        rcases hcleared actorId hq with hold | ⟨route, hr, rfl, hfound⟩
        · exact .inl (hqr ▸ hold)
        · right
          refine not_inProgress_of_query hfound fun hroute => ?_
          rw [hroute] at hr
          simp only [Separate, hr] at ha
          exact ha
      · rw [setRequest_ne hqr] at hq
        exact .inl hq
  | acquire r route actorId _ _ => exact he.setRequest rfl rfl rfl
  | leave r _ => exact he.setRequest release_scans release_request rfl
  | commit r route actorId scan hrequest _ => exact he.commit hs hrequest
  | addTask r i _ => exact he.setRequest rfl rfl rfl
  | lose r i _ => exact he.setRequest rfl rfl rfl
  | start i _ _ => exact he.request rfl fun _ _ hq => .inl hq
  | begin i startedAt htask =>
      refine he.update rfl rfl (startedRow_id startedAt) ?_
      intro scan hscan hid actorId hprogress
      obtain ⟨old, hold, hold_id, hstatus⟩ :=
        hs.task i (by rw [htask]; exact fun h => nomatch h)
      have heq : scan = old :=
        List.inj_on_of_nodup_map hs.ids hscan hold (hid.trans hold_id.symm)
      rw [inProgress, Bool.and_eq_true] at hprogress ⊢
      refine ⟨hprogress.1, ?_⟩
      rw [heq, hstatus, htask]
      rfl
  | vanish i _ _ => exact he.request rfl fun _ _ hq => .inl hq
  | scan i _ => exact he.request rfl fun _ _ hq => .inl hq
  | conclude i _ _ _ => exact he.request rfl fun _ _ hq => .inl hq
  | finish i startedAt outcome _ =>
      refine he.update rfl rfl (concludedRow_id startedAt outcome s.now) ?_
      intro scan _ _ actorId hprogress
      rw [inProgress, concludedRow_ended, Bool.and_false] at hprogress
      cases hprogress
  | crash i _ => exact he.request rfl fun _ _ hq => .inl hq
  | stop => exact he.request rfl fun _ _ hq => nomatch hq
  | clock up now => exact he.request rfl fun _ _ hq => .inl hq

/-- **Run lemma.** -/
theorem exclusive_reachable (h : (system key).ReachableUnder Separate s) :
    Sane key s ∧ Exclusive s := by
  refine h.invariant (I := fun s => Sane key s ∧ Exclusive s)
    (fun s₀ hinit => ⟨sane_initial hinit, ?_⟩) ?_
  · constructor
    · intro actorId scan hscan _ _ hprogress
      rw [inProgress, hinit.ended scan hscan, Bool.and_false] at hprogress
      cases hprogress
    · intro r actorId hr
      rw [hinit.request r] at hr
      cases hr
  · intro s₁ a s₂ hs ha hstep
    exact ⟨sane_step hs.1 hstep, exclusive_step hs.1 hs.2 ha hstep⟩

theorem countP_le_one {α β : Type} {p : α → Bool} {f : α → β} {l : List α}
    (hnodup : (l.map f).Nodup)
    (h : ∀ x ∈ l, ∀ y ∈ l, p x = true → p y = true → f x = f y) :
    l.countP p ≤ 1 := by
  have hsub : ((l.filter p).map f).Nodup :=
    hnodup.sublist (List.filter_sublist.map f)
  rw [List.countP_eq_length_filter]
  rcases hl : l.filter p with _ | ⟨x, _ | ⟨y, rest⟩⟩
  · exact Nat.zero_le 1
  · exact Nat.le_refl 1
  · -- two different elements would have one image
    have hx : x ∈ l.filter p := by
      rw [hl]
      exact List.mem_cons_self
    have hy : y ∈ l.filter p := by
      rw [hl]
      exact List.mem_cons_of_mem _ List.mem_cons_self
    obtain ⟨hxl, hpx⟩ := List.mem_filter.mp hx
    obtain ⟨hyl, hpy⟩ := List.mem_filter.mp hy
    rw [hl, List.map_cons, List.map_cons, List.nodup_cons] at hsub
    refine absurd ?_ hsub.1
    rw [h x hxl y hyl hpx hpy]
    exact List.mem_cons_self

/-! ## §3  The law -/

/-- **One at a time.** In every run in which no self-check overlooks a scan of
the analyst route, an actor has at most one scan pending or running. -/
theorem one_at_a_time (h : (system key).ReachableUnder Separate s)
    (actorId : Uuid) : s.scans.countP (inProgress actorId) ≤ 1 := by
  obtain ⟨hs, he⟩ := exclusive_reachable h
  exact countP_le_one hs.ids (he.one actorId)

/-- A self-check while the actor has no other scan in progress, and a second
one when it is over. -/
def checksInTurn : List (Action Bool) :=
  askFor false .selfCheck 70 ++
    [.start 70, .begin 70, .scan 70, .conclude 70 (.succeeded 0 0 none false),
      .finish 70, .tick 60000000] ++ askFor true .selfCheck 71

theorem checks_in_turn_one_at_a_time :
    ∃ s, (system sampleLock).runUnder Separate blank checksInTurn = some s ∧
      s.scans.map Scan.id = [70, 71] ∧
      s.scans.countP (inProgress 5) ≤ 1 := by
  have hrun : (system sampleLock).runUnder Separate blank checksInTurn =
      some _ := rfl
  exact ⟨_, hrun, rfl, one_at_a_time
    (System.reachable_of_runUnder (blank_initial sampleLock) hrun) 5⟩

/-- `self_check` looks for self-checks only. -/
theorem self_check_beside_analyst_scan :
    ∃ s, (system sampleLock).runUnder (fun _ _ => True) blank
        (askFor false .analyst 70 ++ askFor true .selfCheck 71) = some s ∧
      s.scans.countP (inProgress 5) = 2 :=
  ⟨_, rfl, rfl⟩

end LeakcheckHub.Scans
