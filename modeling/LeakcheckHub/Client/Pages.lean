import LeakcheckHub.Client.Requests
import LeakcheckHub.Findings.Drafts

/-!
# Vendor pages

`_parse_page` and `_parse_record` of `app/leakcheck.py`: from the body of a
response to typed records.
-/

namespace LeakcheckHub.Client

open Foundation Findings

/-! ## Fields -/

/-- `value.get(key)` of a `dict`. -/
def get (entries : List (PyStr × Json)) (key : String) : Option Json :=
  (entries.find? fun entry => entry.1 == PyStr.lit key).map Prod.snd

def optionalString : Option Json → Option PyStr
  | some (.str s) => some s
  | _ => none

/-- The texts of a list-valued origin that are not blank. -/
def originItems (items : List Json) : List PyStr :=
  items.filterMap fun
    | .str s => if s.strip.isEmpty then none else some s.strip
    | _ => none

def optionalOrigin : Option Json → Option PyStr
  | some (.str s) => some s
  | some (.arr items) =>
      let joined := (PyStr.lit ", ").intercalate (originItems items)
      if joined.isEmpty then none else some joined
  | _ => none

/-- `True` and `False` are integers too, but come first. -/
def optionalBool : Option Json → Option Bool
  | some (.bool b) => some b
  | some (.int n) =>
      if n = 0 then some false else if n = 1 then some true else none
  | _ => none

/-- `{}` for whatever is not an object. -/
def objectOr : Option Json → List (PyStr × Json)
  | some (.obj entries) => entries
  | _ => []

def textItems : Option Json → List PyStr
  | some (.arr items) => items.filterMap fun
      | .str s => some s
      | _ => none
  | _ => []

/-! ## Records -/

def protocolError (message : String) : LeakCheckError :=
  ⟨.protocol, PyStr.lit message⟩

/-- `_parse_record`. -/
def parseRecord : Json → Except LeakCheckError LeakRecord
  | .obj value =>
      let source := objectOr (get value "source")
      .ok {
        email := optionalString (get value "email")
        username := optionalString (get value "username")
        phone := optionalString (get value "phone")
        origin := optionalOrigin (get value "origin")
        password := optionalString (get value "password")
        fields := textItems (get value "fields")
        source := {
          name := optionalString (get source "name")
          breachDate := optionalString (get source "breach_date")
          unverified := optionalBool (get source "unverified")
          passwordless := optionalBool (get source "passwordless")
          compilation := optionalBool (get source "compilation") }
        raw := value }
  | _ => .error (protocolError "LeakCheck result entry is not an object")

/-! ## Pages -/

structure ParsedPage where
  records : List LeakRecord
  quota : Option ℕ
  found : ℕ

/-- The natural number of a field that is one. -/
def count : Option Json → Option ℕ
  | some (.int n) => if 0 ≤ n then some n.toNat else none
  | _ => none

/-- The quota may be absent; `none` is a quota that is neither. -/
def quotaCount : Option Json → Option (Option ℕ)
  | none => some none
  | some .null => some none
  | some value => (count (some value)).map some

def isTrue : Option Json → Bool
  | some (.bool b) => b
  | _ => false

/-- `_parse_page`; `loads` is `json.loads`, with nothing for a body it
rejects. -/
def parsePage (loads : Bytes → Option Json) (body : Bytes) :
    Except LeakCheckError ParsedPage :=
  match loads body with
  | none => .error (protocolError "LeakCheck returned malformed JSON")
  | some (.obj payload) =>
      if isTrue (get payload "success") then
        match get payload "result", count (get payload "found"),
            quotaCount (get payload "quota") with
        | some (.arr results), some found, some quota => do
            let records ← results.mapM parseRecord
            .ok ⟨records, quota, found⟩
        | _, _, _ => .error (protocolError
            "LeakCheck response has invalid top-level fields")
      else .error (protocolError
        "LeakCheck returned an unsuccessful or malformed body")
  | some _ => .error (protocolError
      "LeakCheck returned an unsuccessful or malformed body")

end LeakcheckHub.Client
