import LeakcheckHub.Foundation.Digests
import LeakcheckHub.Outbox.Campaigns
import Mathlib.Data.List.Lex
import Mathlib.Data.List.Sort

/-!
# Deduplication keys

What a key of an outbox says of its row: `_dedupe_key` of
`app/notifications.py` and of `app/alerts.py` hash parts that are put one
behind the other without separators, and every part can be told from the next.

§1 ids · §2 sorted ids · §3 templates · §4 messages · §5 the law.
-/

namespace LeakcheckHub

open Foundation

/-! ## §1  Ids -/

namespace Uuid

theorem bytes_length (u : Uuid) : u.bytes.length = 16 := by
  rw [bytes, List.length_map, List.length_range]

theorem bytes_injective : Function.Injective Uuid.bytes := by
  intro u v h
  have hbytes := List.map_inj_left.mp h
  refine BitVec.eq_of_toNat_eq (eq_of_digits (b := 256) (n := 16) ?_ ?_ ?_)
  · exact u.isLt
  · exact v.isLt
  · intro i hi
    have hdigit := hbytes (15 - i) (List.mem_range.mpr (by omega))
    rw [← UInt8.toNat_inj, UInt8.toNat_ofNat', UInt8.toNat_ofNat',
      show 15 - (15 - i) = i by omega, Nat.mod_mod, Nat.mod_mod] at hdigit
    exact hdigit

theorem str_length (u : Uuid) : u.str.length = 36 := rfl

theorem hexDigit_val {n : ℕ} (hn : n < 16) :
    (hexDigit n).val = if n < 10 then 48 + n else 87 + n := by
  unfold hexDigit
  split
  · rw [Fin.val_ofNat, Nat.mod_eq_of_lt (by omega)]
  · rw [Fin.val_ofNat, Nat.mod_eq_of_lt (by omega)]

theorem hexDigit_inj {m n : ℕ} (hm : m < 16) (hn : n < 16)
    (h : hexDigit m = hexDigit n) : m = n := by
  have hval := congrArg Fin.val h
  rw [hexDigit_val hm, hexDigit_val hn] at hval
  split at hval <;> split at hval <;> omega

/-- What `str` writes in place `i`. -/
def strDigit (u : Uuid) (i : ℕ) : CodePoint :=
  hexDigit (u.toNat / 16 ^ (31 - i) % 16)

theorem strDigit_val (u : Uuid) (i : ℕ) :
    (48 ≤ (u.strDigit i).val ∧ (u.strDigit i).val ≤ 57) ∨
      (97 ≤ (u.strDigit i).val ∧ (u.strDigit i).val ≤ 102) := by
  have hlt : u.toNat / 16 ^ (31 - i) % 16 < 16 := Nat.mod_lt _ (by decide)
  unfold strDigit
  rw [hexDigit_val hlt]
  split <;> omega

theorem mem_str {u : Uuid} {c : CodePoint} (hc : c ∈ u.str) :
    c.val = 45 ∨ ∃ i, c = u.strDigit i := by
  obtain ⟨i, -, hc⟩ := List.mem_flatMap.mp hc
  dsimp only at hc
  split at hc
  · rcases List.mem_cons.mp hc with rfl | hc
    · exact .inl rfl
    · exact .inr ⟨i, List.mem_singleton.mp hc⟩
  · exact .inr ⟨i, List.mem_singleton.mp hc⟩

theorem str_isAscii (u : Uuid) : u.str.isAscii = true := by
  refine List.all_eq_true.mpr fun c hc => decide_eq_true ?_
  rcases mem_str hc with hdash | ⟨i, rfl⟩
  · omega
  · have hval := u.strDigit_val i
    omega

/-- Without its dashes the text is the digits. -/
theorem filter_str (u : Uuid) :
    (u.str.filter fun c => decide (c.val ≠ 45)) =
      (List.range 32).map u.strDigit := by
  have hkeep : ∀ i, decide ((u.strDigit i).val ≠ 45) = true := by
    intro i
    have hval := u.strDigit_val i
    exact decide_eq_true (by omega)
  have hone : ∀ i, [u.strDigit i].filter (fun c => decide (c.val ≠ 45)) =
      [u.strDigit i] := fun i => List.filter_cons_of_pos (hkeep i)
  rw [str, List.filter_flatMap, List.map_eq_flatMap]
  congr 1
  funext i
  dsimp only
  split
  · rw [List.filter_cons_of_neg (by decide)]
    exact hone i
  · exact hone i

theorem str_injective : Function.Injective Uuid.str := by
  intro u v h
  have hdigits := (filter_str u).symm.trans ((congrArg _ h).trans (filter_str v))
  have hmap := List.map_inj_left.mp hdigits
  refine BitVec.eq_of_toNat_eq (eq_of_digits (b := 16) (n := 32) ?_ ?_ ?_)
  · exact u.isLt
  · exact v.isLt
  · intro i hi
    have hdigit := hmap (31 - i) (List.mem_range.mpr (by omega))
    have heq := hexDigit_inj (Nat.mod_lt _ (by decide)) (Nat.mod_lt _ (by decide))
      hdigit
    rw [show 31 - (31 - i) = i by omega] at heq
    exact heq

end Uuid

namespace Outbox

open Findings

/-! ## §2  Sorted ids -/

/-- Python compares texts by code points, as lists are compared. -/
theorem textLt_iff : ∀ {s t : PyStr}, textLt s t = true ↔ s < t
  | _, [] => by simp [textLt]
  | [], _ :: _ => by simp [textLt]
  | x :: xs, y :: ys => by
      simp only [textLt, Bool.or_eq_true, Bool.and_eq_true, decide_eq_true_eq,
        beq_iff_eq, List.cons_lt_cons_iff, textLt_iff]

theorem mem_insertText {s t : PyStr} {ts : List PyStr} :
    t ∈ insertText s ts ↔ t = s ∨ t ∈ ts := by
  induction ts with
  | nil => simp [insertText]
  | cons x xs ih =>
      unfold insertText
      split
      · rename_i hsame
        rw [hsame, List.mem_cons]
        exact ⟨.inr, fun h => h.elim .inl id⟩
      · split
        · rw [List.mem_cons]
        · rw [List.mem_cons, ih, List.mem_cons]
          exact or_left_comm

theorem pairwise_insertText {s : PyStr} {ts : List PyStr}
    (h : ts.Pairwise (· < ·)) : (insertText s ts).Pairwise (· < ·) := by
  induction ts with
  | nil => exact List.pairwise_singleton _ _
  | cons x xs ih =>
      obtain ⟨hhead, htail⟩ := List.pairwise_cons.mp h
      unfold insertText
      split
      · exact h
      · rename_i hne
        split
        · rename_i hlt
          have hbefore := textLt_iff.mp hlt
          refine List.pairwise_cons.mpr ⟨?_, h⟩
          intro y hy
          rcases List.mem_cons.mp hy with rfl | hy
          · exact hbefore
          · exact hbefore.trans (hhead y hy)
        · rename_i hnot
          refine List.pairwise_cons.mpr ⟨?_, ih htail⟩
          intro y hy
          rcases mem_insertText.mp hy with rfl | hy
          · exact lt_of_le_of_ne (not_lt.mp fun hlt => hnot (textLt_iff.mpr hlt))
              (Ne.symm hne)
          · exact hhead y hy

theorem pairwise_sortedIds (ids : List Uuid) :
    (sortedIds ids).Pairwise (· < ·) := by
  unfold sortedIds
  induction ids.map Uuid.str with
  | nil => exact List.Pairwise.nil
  | cons s ss ih => exact pairwise_insertText ih

theorem mem_sortedIds {ids : List Uuid} {s : PyStr} :
    s ∈ sortedIds ids ↔ ∃ id ∈ ids, id.str = s := by
  unfold sortedIds
  rw [← List.mem_map]
  induction ids.map Uuid.str with
  | nil => simp
  | cons t ts ih => rw [List.foldr_cons, mem_insertText, ih, List.mem_cons]

/-- Sorting forgets the order and the repetitions, and nothing else. -/
theorem sortedIds_eq_iff {ids ids' : List Uuid} :
    sortedIds ids = sortedIds ids' ↔ ∀ id, id ∈ ids ↔ id ∈ ids' := by
  have hmem : ∀ (l : List Uuid) (id : Uuid), id.str ∈ sortedIds l ↔ id ∈ l := by
    intro l id
    rw [mem_sortedIds]
    constructor
    · rintro ⟨other, hother, hstr⟩
      exact Uuid.str_injective hstr ▸ hother
    · intro hid
      exact ⟨id, hid, rfl⟩
  constructor
  · intro h id
    rw [← hmem ids, ← hmem ids', h]
  · intro h
    refine (pairwise_sortedIds ids).eq_of_mem_iff (pairwise_sortedIds ids') ?_
    intro s
    rw [mem_sortedIds, mem_sortedIds]
    exact exists_congr fun id => and_congr_left fun _ => h id

/-! ## §3  Templates -/

/-- The templates of the two producers. -/
def IsTemplate (template : PyStr) : Prop :=
  template = newFindingsTemplate ∨ ∃ day, template = digestTemplate day

theorem IsTemplate.isAscii {template : PyStr} (h : IsTemplate template) :
    template.isAscii = true := by
  rcases h with rfl | ⟨day, rfl⟩
  · decide
  · have hday := Date.isoformat_isAscii day
    unfold PyStr.isAscii at hday ⊢
    rw [digestTemplate, List.all_append, hday, Bool.and_true]
    decide

/-! ## §4  Messages -/

/-- What `encode("ascii")` makes of an ASCII text. -/
def asciiBytes (s : PyStr) : Bytes := s.map fun c => UInt8.ofNat c.val

theorem encodeAscii_eq {s : PyStr} (h : s.isAscii = true) :
    encodeAscii s = .ok (asciiBytes s) := if_pos h

theorem asciiBytes_inj {s t : PyStr} (hs : s.isAscii = true)
    (ht : t.isAscii = true) (h : asciiBytes s = asciiBytes t) : s = t := by
  have hlow : ∀ {s : PyStr}, s.isAscii = true → ∀ c ∈ s, c.val < 128 :=
    fun hs c hc => of_decide_eq_true (List.all_eq_true.mp hs c hc)
  refine map_inj_on (P := fun c => c.val < 128) ?_ (hlow hs) (hlow ht) h
  intro c d hc hd hbyte
  rw [← UInt8.toNat_inj, UInt8.toNat_ofNat', UInt8.toNat_ofNat'] at hbyte
  exact Fin.ext (by omega)

/-- What `_dedupe_key` of `app/notifications.py` hashes. -/
def notificationMessage (userId : Uuid) (template : PyStr)
    (findingIds : List Uuid) : Bytes :=
  PyStr.asciiLit "leakcheck/notification/v1" ++ [0] ++ userId.bytes ++
    asciiBytes template ++ ((sortedIds findingIds).map asciiBytes).flatten

/-- What `_dedupe_key` of `app/alerts.py` hashes. -/
def alertMessage (sink : AlertSinkName) (scope : PyStr) : Bytes :=
  PyStr.asciiLit "leakcheck/alert-outbox/v1" ++ [0] ++
    asciiBytes (sinkValue sink) ++ [0] ++ asciiBytes scope

section Messages

variable {env : Env} {userId userId' : Uuid} {template template' scope scope' : PyStr}
  {ids ids' : List Uuid} {sink sink' : AlertSinkName}

theorem mem_sortedIds_isAscii {s : PyStr} (hs : s ∈ sortedIds ids) :
    s.isAscii = true := by
  obtain ⟨id, -, rfl⟩ := mem_sortedIds.mp hs
  exact id.str_isAscii

theorem notificationKey_eq (env : Env) (userId : Uuid) (ids : List Uuid)
    (h : template.isAscii = true) :
    notificationKey env userId template (sortedIds ids) =
      .ok (env.sha256 (notificationMessage userId template ids)) := by
  have hids : (sortedIds ids).mapM encodeAscii =
      .ok ((sortedIds ids).map asciiBytes) :=
    mapM_eq_map fun s hs => encodeAscii_eq (mem_sortedIds_isAscii hs)
  unfold notificationKey
  rw [encodeAscii_eq h, hids]
  rfl

theorem alertKey_eq (env : Env) (sink : AlertSinkName)
    (h : scope.isAscii = true) :
    alertKey env sink scope = .ok (env.sha256 (alertMessage sink scope)) := by
  have hsink : (sinkValue sink).isAscii = true := by
    cases sink <;> decide
  unfold alertKey
  rw [encodeAscii_eq hsink, encodeAscii_eq h]
  rfl

/-- The ids of a message, in chunks of 36 bytes. -/
theorem idChunks_inj
    (h : ((sortedIds ids).map asciiBytes).flatten =
      ((sortedIds ids').map asciiBytes).flatten) :
    sortedIds ids = sortedIds ids' := by
  have hlength : ∀ (l : List Uuid), ∀ chunk ∈ (sortedIds l).map asciiBytes,
      chunk.length = 36 := by
    intro l chunk hchunk
    obtain ⟨s, hs, rfl⟩ := List.mem_map.mp hchunk
    obtain ⟨id, -, rfl⟩ := mem_sortedIds.mp hs
    rw [asciiBytes, List.length_map, id.str_length]
  have hchunks := flatten_inj_of_length (by decide) (hlength ids) (hlength ids') h
  exact map_inj_on (P := fun s => PyStr.isAscii s = true)
    (fun _ _ => asciiBytes_inj) (fun _ => mem_sortedIds_isAscii)
    (fun _ => mem_sortedIds_isAscii) hchunks

/-- One template is not the beginning of another kind's message. -/
theorem template_inj (h : IsTemplate template) (h' : IsTemplate template')
    {rest rest' : Bytes}
    (heq : asciiBytes template ++ rest = asciiBytes template' ++ rest') :
    template = template' ∧ rest = rest' := by
  have hlength : ∀ day : Date, (digestTemplate day).length = 26 := fun day => rfl
  have hsplit : (asciiBytes template).length = (asciiBytes template').length →
      template = template' ∧ rest = rest' := by
    intro hlen
    obtain ⟨htemplate, hrest⟩ := List.append_inj heq hlen
    exact ⟨asciiBytes_inj h.isAscii h'.isAscii htemplate, hrest⟩
  rcases h with rfl | ⟨day, rfl⟩
  · rcases h' with rfl | ⟨day', rfl⟩
    · exact hsplit rfl
    · -- the first letters differ
      exact absurd (List.cons.inj heq).1 (by decide)
  · rcases h' with rfl | ⟨day', rfl⟩
    · exact absurd (List.cons.inj heq).1 (by decide)
    · refine hsplit ?_
      rw [asciiBytes, asciiBytes, List.length_map, List.length_map, hlength,
        hlength]

theorem notificationMessage_inj (h : IsTemplate template)
    (h' : IsTemplate template') :
    notificationMessage userId template ids =
        notificationMessage userId' template' ids' ↔
      userId = userId' ∧ template = template' ∧ ∀ id, id ∈ ids ↔ id ∈ ids' := by
  constructor
  · intro heq
    unfold notificationMessage at heq
    simp only [List.append_assoc] at heq
    have hparts := List.append_cancel_left (List.append_cancel_left heq)
    have hlen : userId.bytes.length = userId'.bytes.length :=
      userId.bytes_length.trans userId'.bytes_length.symm
    obtain ⟨huser, hrest⟩ := List.append_inj hparts hlen
    obtain ⟨htemplate, hids⟩ := template_inj h h' hrest
    exact ⟨Uuid.bytes_injective huser, htemplate,
      sortedIds_eq_iff.mp (idChunks_inj hids)⟩
  · rintro ⟨rfl, rfl, hids⟩
    unfold notificationMessage
    rw [sortedIds_eq_iff.mpr hids]

theorem alertMessage_inj (h : scope.isAscii = true) (h' : scope'.isAscii = true) :
    alertMessage sink scope = alertMessage sink' scope' ↔
      sink = sink' ∧ scope = scope' := by
  constructor
  · intro heq
    unfold alertMessage at heq
    simp only [List.append_assoc] at heq
    have hparts := List.append_cancel_left (List.append_cancel_left heq)
    cases sink <;> cases sink'
    · exact ⟨rfl, asciiBytes_inj h h'
        (List.append_cancel_left (List.append_cancel_left hparts))⟩
    · exact absurd (List.cons.inj hparts).1 (by decide)
    · exact absurd (List.cons.inj hparts).1 (by decide)
    · exact ⟨rfl, asciiBytes_inj h h'
        (List.append_cancel_left (List.append_cancel_left hparts))⟩
  · rintro ⟨rfl, rfl⟩
    rfl

/-! ## §5  The law -/

/-- **Deduplication keys.** Where their messages do not collide, two
notifications for some findings have one key just when they agree on the user,
the template and the set of findings, and two alerts just when they agree on
the sink and the scope. -/
theorem dedupe_keys (env : Env) :
    (∀ (userId userId' : Uuid) (template template' : PyStr)
      (ids ids' : List Uuid), IsTemplate template → IsTemplate template' →
      ids ≠ [] → ids' ≠ [] →
      NoCollision env.sha256 (notificationMessage userId template ids)
        (notificationMessage userId' template' ids') →
      ∃ key key', notificationKey env userId template (sortedIds ids) = .ok key ∧
        notificationKey env userId' template' (sortedIds ids') = .ok key' ∧
        (key = key' ↔ userId = userId' ∧ template = template' ∧
          ∀ id, id ∈ ids ↔ id ∈ ids')) ∧
    ∀ (sink sink' : AlertSinkName) (scope scope' : PyStr),
      scope.isAscii = true → scope'.isAscii = true →
      NoCollision env.sha256 (alertMessage sink scope)
        (alertMessage sink' scope') →
      ∃ key key', alertKey env sink scope = .ok key ∧
        alertKey env sink' scope' = .ok key' ∧
        (key = key' ↔ sink = sink' ∧ scope = scope') := by
  constructor
  · intro userId userId' template template' ids ids' ht ht' _ _ hcollision
    refine ⟨_, _, notificationKey_eq env userId ids ht.isAscii,
      notificationKey_eq env userId' ids' ht'.isAscii, ?_⟩
    rw [hcollision.eq_iff, notificationMessage_inj ht ht']
  · intro sink sink' scope scope' hs hs' hcollision
    refine ⟨_, _, alertKey_eq env sink hs, alertKey_eq env sink' hs', ?_⟩
    rw [hcollision.eq_iff, alertMessage_inj hs hs']

end Messages

/-- The second of January 2026. -/
def sampleDay : Date := ⟨2026, 1, 2, by decide⟩

def sampleScope : PyStr := (7 : Uuid).str ++ PyStr.lit ":new_finding"

/-- SHA-256 of the same findings under both templates, and of the same scope
for both sinks. -/
def keyDigests : List (Bytes × Bytes) :=
  [(notificationMessage 1 newFindingsTemplate [7, 8], digestOf
      0x6cf191ac0401d52f25ee8ac9c30998efe9191c2772fe0cfa4ecbe696183919b3),
    (notificationMessage 1 (digestTemplate sampleDay) [7, 8], digestOf
      0xbaf183e77b86509418b206d351fb16f13a71d61f645c6b8ba09ce1cdbbad5efa),
    (alertMessage .wazuh sampleScope, digestOf
      0xfb6cefd25c05a49e7c88e1457e0818b02ac076d63dd08f9b953a12ed4ac192a2),
    (alertMessage .dfirIris sampleScope, digestOf
      0xcb7f194f18b4e445164e1f26f2103de98ad6a53c9db4fdbee12f411950e5e0b9)]

def keyEnv : Env where
  __ := sampleEnv
  sha256 b := ((keyDigests.find? fun x => x.1 == b).map Prod.snd).getD
    zeroPasswordHash

/-- Order and repetitions of the findings do not make a key, templates and
sinks do. -/
theorem sample_keys :
    (∃ key key', notificationKey keyEnv 1 newFindingsTemplate
        (sortedIds [8, 7, 8]) = .ok key ∧
      notificationKey keyEnv 1 newFindingsTemplate (sortedIds [7, 8]) =
        .ok key' ∧ key = key') ∧
    (∃ key key', notificationKey keyEnv 1 newFindingsTemplate
        (sortedIds [7, 8]) = .ok key ∧
      notificationKey keyEnv 1 (digestTemplate sampleDay) (sortedIds [7, 8]) =
        .ok key' ∧ key ≠ key') ∧
    ∃ key key', alertKey keyEnv .wazuh sampleScope = .ok key ∧
      alertKey keyEnv .dfirIris sampleScope = .ok key' ∧ key ≠ key' := by
  obtain ⟨hnotifications, halerts⟩ := dedupe_keys keyEnv
  have hdigest : IsTemplate (digestTemplate sampleDay) := .inr ⟨sampleDay, rfl⟩
  have hsame : notificationMessage 1 newFindingsTemplate [8, 7, 8] =
      notificationMessage 1 newFindingsTemplate [7, 8] := by decide +kernel
  refine ⟨?_, ?_, ?_⟩
  · obtain ⟨key, key', hkey, hkey', hiff⟩ := hnotifications 1 1 _ _ [8, 7, 8]
      [7, 8] (.inl rfl) (.inl rfl) (by decide) (by decide) (fun _ => hsame)
    refine ⟨key, key', hkey, hkey', hiff.mpr ⟨rfl, rfl, fun id => ?_⟩⟩
    simp only [List.mem_cons, List.not_mem_nil, or_false]
    constructor
    · rintro (h | h | h)
      · exact .inr h
      · exact .inl h
      · exact .inr h
    · rintro (h | h)
      · exact .inr (.inl h)
      · exact .inl h
  · obtain ⟨key, key', hkey, hkey', hiff⟩ := hnotifications 1 1 _ _ [7, 8]
      [7, 8] (.inl rfl) hdigest (by decide) (by decide)
      (fun h => absurd h (by decide +kernel))
    refine ⟨key, key', hkey, hkey', fun heq => ?_⟩
    exact absurd (hiff.mp heq).2.1 (by decide +kernel)
  · obtain ⟨key, key', hkey, hkey', hiff⟩ := halerts .wazuh .dfirIris sampleScope
      sampleScope (by decide +kernel) (by decide +kernel)
      (fun h => absurd h (by decide +kernel))
    refine ⟨key, key', hkey, hkey', fun heq => ?_⟩
    exact absurd (hiff.mp heq).1 (by decide)

end Outbox

end LeakcheckHub
