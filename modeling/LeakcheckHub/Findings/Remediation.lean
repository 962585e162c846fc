import LeakcheckHub.Models

/-!
# Remediation state transitions

`remediate_finding` and `unremediate_finding` of `app/remediation.py`: the two
changes of a locked row and the event each appends. A finding that is in the
requested state already is left alone.
-/

namespace LeakcheckHub.Findings

open Foundation

/-- A call, with the actor, the note and the time it was made at. -/
inductive Change where
  | remediate (actorId : Uuid) (note : Option PyStr) (now : Timestamp)
  | unremediate (actorId : Uuid) (now : Timestamp)
deriving DecidableEq, Repr

namespace Change

def eventType : Change → FindingEventType
  | remediate .. => .remediated
  | unremediate .. => .unremediated

def actorId : Change → Uuid
  | remediate actorId _ _ | unremediate actorId _ => actorId

def now : Change → Timestamp
  | remediate _ _ now | unremediate _ now => now

/-- The call finds something to do. -/
def applies (f : Finding) : Change → Bool
  | remediate .. => f.remediatedAt.isNone
  | unremediate .. => f.remediatedAt.isSome

def apply (f : Finding) : Change → Finding
  | remediate actorId note now =>
      { f with
        remediatedAt := some now
        remediatedBy := some actorId
        remediationNote := note }
  | unremediate _ _ =>
      { f with
        remediatedAt := none
        remediatedBy := none
        remediationNote := none }

/-- `_add_event`. -/
def event (c : Change) (id findingId : Uuid) : FindingEvent :=
  ⟨id, findingId, c.eventType, some c.actorId, c.now, []⟩

end Change

end LeakcheckHub.Findings
