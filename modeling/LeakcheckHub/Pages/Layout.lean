import LeakcheckHub.Analyst.FindingViews
import LeakcheckHub.Foundation.Html
import LeakcheckHub.Foundation.JsonText
import LeakcheckHub.Outbox.DedupeKeys
import LeakcheckHub.Outbox.Fanout
import LeakcheckHub.Routers.Recorders
import Mathlib.Data.List.Sort

/-!
# The page shell

`app/layout.py`: the one shell of every signed-in page. A page is markup whose
literals are the source's and whose pieces in between are the values, escaped
where the source escapes them.

§1 values that are their own escape · §2 dates · §3 values as text · §4 the
shell · §5 the shell is closed.
-/

namespace LeakcheckHub.Pages

open Foundation Html

/-! ## §1  Values that are their own escape -/

theorem harmless_of_val {c : CodePoint}
    (h : c.val ∉ [0, 10, 13, 34, 38, 39, 60, 62]) : harmless c = true := by
  unfold harmless
  rw [Bool.not_eq_true', List.contains_eq_mem, decide_eq_false_iff_not]
  intro hmem
  refine h ?_
  have hvals := List.mem_map_of_mem (f := Fin.val) hmem
  exact hvals

theorem str_harmless (id : Uuid) : id.str.all harmless = true := by
  refine List.all_eq_true.mpr fun c hc => harmless_of_val ?_
  rcases Uuid.mem_str hc with hdash | ⟨i, rfl⟩
  · simp [hdash]
  · have hval := id.strDigit_val i
    simp only [List.mem_cons, List.not_mem_nil, or_false]
    omega

/-- An identifier, as `str` and as an f-string write it. -/
def uuid (id : Uuid) : Plain := ⟨id.str, str_harmless id⟩

theorem digits_harmless {ds : List ℕ} (h : ∀ d ∈ ds, d < 10) :
    (ds.map PyStr.digit).all harmless = true := by
  refine List.all_eq_true.mpr fun c hc => harmless_of_val ?_
  obtain ⟨d, hd, rfl⟩ := List.mem_map.mp hc
  have hval := PyStr.digit_val (h d hd)
  have hlt := h d hd
  simp only [List.mem_cons, List.not_mem_nil, or_false]
  omega

theorem ofNat_harmless (n : ℕ) : (PyStr.ofNat n).all harmless = true := by
  obtain ⟨ds, -, hlt, heq, -, -⟩ := PyStr.ofNat_eq_map n
  rw [heq]
  exact digits_harmless hlt

/-- A number, as `str` and as an f-string write it. -/
def number (n : ℕ) : Plain := ⟨PyStr.ofNat n, ofNat_harmless n⟩

/-! ## §2  Dates -/

theorem dateDigits_harmless (width n : ℕ) :
    (Date.digits width n).all harmless = true := by
  have heq : Date.digits width n = ((List.range width).map fun i =>
      n / 10 ^ (width - 1 - i) % 10).map PyStr.digit := by
    rw [List.map_map]
    rfl
  rw [heq]
  refine digits_harmless fun d hd => ?_
  obtain ⟨i, -, rfl⟩ := List.mem_map.mp hd
  exact Nat.mod_lt _ (by decide)

theorem dash_harmless : (PyStr.lit "-").all harmless = true := by decide

theorem isoformat_harmless (day : Date) : day.isoformat.all harmless = true := by
  unfold Date.isoformat
  simp only [List.all_append, dateDigits_harmless, dash_harmless, Bool.and_self]

/-- `value.isoformat()` of a date. -/
def isoDate (day : Date) : Plain := ⟨day.isoformat, isoformat_harmless day⟩

/-- `strftime("%d-%m-%Y")`; the year is not padded. -/
def dayMonthYear (day : Date) : PyStr :=
  Date.digits 2 day.day ++ PyStr.lit "-" ++ Date.digits 2 day.month ++
    PyStr.lit "-" ++ PyStr.ofNat day.year

theorem dayMonthYear_harmless (day : Date) :
    (dayMonthYear day).all harmless = true := by
  unfold dayMonthYear
  simp only [List.all_append, dateDigits_harmless, dash_harmless, ofNat_harmless,
    Bool.and_self]

def shortDate (day : Date) : Plain := ⟨dayMonthYear day, dayMonthYear_harmless day⟩

/-- The day and the minute of a time in UTC; `none` lies outside of the
calendar, where no `datetime` is. -/
def civilMinute (t : Timestamp) : Option (Date × ℕ) := do
  let seconds := t / 1000000
  let ordinal := (seconds / 86400 + 719163).toNat
  let day ← Date.ofOrdinal ((ordinal - 1) * 400 / 146097 + 1) ordinal
  pure (day, (seconds % 86400).toNat / 60)

/-- `strftime("%d-%m-%Y %H:%M")` in UTC. -/
def minuteText (t : Timestamp) : PyStr :=
  match civilMinute t with
  | none => []
  | some (day, minute) =>
      dayMonthYear day ++ PyStr.lit " " ++ Date.digits 2 (minute / 60) ++
        PyStr.lit ":" ++ Date.digits 2 (minute % 60)

/-- `datetime.isoformat()` in UTC. -/
def isoTime (t : Timestamp) : PyStr :=
  match Analyst.isoformat t with
  | .ok text => text
  | .error _ => []

theorem timestampIsoformat_harmless {t : Timestamp} {text : PyStr}
    (h : Date.timestampIsoformat t = some text) : text.all harmless = true := by
  obtain ⟨day, -, htext⟩ := Option.bind_eq_some_iff.mp h
  rw [← Option.some.inj htext]
  have hmark : (PyStr.lit "T").all harmless = true ∧
      (PyStr.lit ":").all harmless = true ∧
      (PyStr.lit "+00:00").all harmless = true := by decide
  simp only [List.all_append, isoformat_harmless, dateDigits_harmless, hmark,
    Bool.and_self]

theorem isoTime_harmless (t : Timestamp) : (isoTime t).all harmless = true := by
  unfold isoTime
  split
  · rename_i text htext
    unfold Analyst.isoformat at htext
    split at htext
    · cases htext
    · rename_i whole hwhole
      have hall := timestampIsoformat_harmless hwhole
      rw [← Except.ok.inj htext]
      split
      · exact hall
      · have hsub : ∀ part : PyStr, part.Sublist whole → part.all harmless = true :=
          fun part hpart => List.all_eq_true.mpr fun c hc =>
            List.all_eq_true.mp hall c (hpart.subset hc)
        have hpoint : (PyStr.lit ".").all harmless = true := by decide
        simp only [List.all_append, hsub _ (List.take_sublist _ _),
          hsub _ (List.drop_sublist _ _), dateDigits_harmless, hpoint, Bool.and_self]
  · rfl

/-- `datetime.isoformat()`, where it is not escaped. -/
def time (t : Timestamp) : Plain := ⟨isoTime t, isoTime_harmless t⟩

/-! ## §3  Values as text -/

/-- `str.title()` of ASCII text; `cased` tells whether a letter stands before. -/
def titleFrom (cased : Bool) : PyStr → PyStr
  | [] => []
  | c :: rest =>
      let upper := if 97 ≤ c.val ∧ c.val ≤ 122 then c - 32 else c
      (if cased then lower c else upper) :: titleFrom (isLetter c) rest

def title (text : PyStr) : PyStr := titleFrom false text

/-- `replace("_", " ")`. -/
def spaced (value : PyStr) : PyStr := value.map fun c => if c = 95 then 32 else c

/-- A character of `json.dumps(…, ensure_ascii=False)`. -/
def jsonChar (c : CodePoint) : PyStr :=
  if c.val < 32 ∨ c = 34 ∨ c = 92 then JsonText.escape c else [c]

def jsonString (s : PyStr) : PyStr := 34 :: (s.flatMap jsonChar ++ [34])

/-- The entries of an object in the order of their keys. -/
def sortedEntries (entries : List (PyStr × PyStr)) : List (PyStr × PyStr) :=
  entries.insertionSort fun a b => !Outbox.textLt b.1 a.1

mutual

/-- `json.dumps(value, ensure_ascii=False, sort_keys=True)`. -/
def jsonDisplay (floatText : BitVec 64 → PyStr) : Json → PyStr
  | .null => PyStr.lit "null"
  | .bool b => PyStr.lit (if b then "true" else "false")
  | .int n => PyStr.ofInt n
  | .float bits => floatText bits
  | .str s => jsonString s
  | .arr items => PyStr.lit "[" ++
      (PyStr.lit ", ").intercalate (itemDisplays floatText items) ++ PyStr.lit "]"
  | .obj entries => PyStr.lit "\x7b" ++
      (PyStr.lit ", ").intercalate
        ((sortedEntries (entryDisplays floatText entries)).map fun entry =>
          jsonString entry.1 ++ PyStr.lit ": " ++ entry.2) ++ PyStr.lit "\x7d"

def itemDisplays (floatText : BitVec 64 → PyStr) : List Json → List PyStr
  | [] => []
  | item :: rest => jsonDisplay floatText item :: itemDisplays floatText rest

def entryDisplays (floatText : BitVec 64 → PyStr) :
    List (PyStr × Json) → List (PyStr × PyStr)
  | [] => []
  | (key, item) :: rest =>
      (key, jsonDisplay floatText item) :: entryDisplays floatText rest

end

/-- `\xXX`, `\uXXXX` and `\UXXXXXXXX`. -/
def reprEscape (c : CodePoint) : PyStr :=
  let hex := fun width : ℕ => (List.range width).map fun i =>
    hexDigit (c.val / 16 ^ (width - 1 - i) % 16)
  if c.val < 0x100 then PyStr.lit "\\x" ++ hex 2
  else if c.val < 0x10000 then PyStr.lit "\\u" ++ hex 4
  else PyStr.lit "\\U" ++ hex 8

section Repr

variable (U : UnicodeData) (floatText : BitVec 64 → PyStr)

def reprChar (quote c : CodePoint) : PyStr :=
  if c = quote ∨ c = 92 then [92, c]
  else if c = 9 then PyStr.lit "\\t"
  else if c = 10 then PyStr.lit "\\n"
  else if c = 13 then PyStr.lit "\\r"
  else if U.isPrintable c then [c]
  else reprEscape c

/-- `repr` of a text; double quotes only where single ones would need more. -/
def reprText (s : PyStr) : PyStr :=
  let quote : CodePoint := if s.contains 39 && !s.contains 34 then 34 else 39
  quote :: (s.flatMap (reprChar U quote) ++ [quote])

mutual

/-- `repr` of what `json.loads` returns. -/
def reprValue : Json → PyStr
  | .null => PyStr.lit "None"
  | .bool b => PyStr.lit (if b then "True" else "False")
  | .int n => PyStr.ofInt n
  | .float bits => floatText bits
  | .str s => reprText U s
  | .arr items =>
      PyStr.lit "[" ++ (PyStr.lit ", ").intercalate (reprItems items) ++ PyStr.lit "]"
  | .obj entries =>
      PyStr.lit "\x7b" ++ (PyStr.lit ", ").intercalate (reprEntries entries) ++
        PyStr.lit "\x7d"

def reprItems : List Json → List PyStr
  | [] => []
  | item :: rest => reprValue item :: reprItems rest

def reprEntries : List (PyStr × Json) → List PyStr
  | [] => []
  | (key, item) :: rest =>
      (reprText U key ++ PyStr.lit ": " ++ reprValue item) :: reprEntries rest

end

/-- `str` of what `json.loads` returns. -/
def strValue : Json → PyStr
  | .str s => s
  | value => reprValue U floatText value

end Repr

/-! ## §4  The shell -/

/-- `_navigation`. -/
def navigation (user : User) : Markup :=
  match user.role with
  | .user => []
  | .analyst =>
      [.lit "<nav aria-label=\"Primary\">", .lit "<a href=\"/analyst\">Scan</a>",
        .lit "<a href=\"/analyst/schedules\">Schedule</a>", .lit "</nav>"]
  | .superAdmin =>
      [.lit "<nav aria-label=\"Primary\">", .lit "<a href=\"/analyst\">Scan</a>",
        .lit "<a href=\"/admin/settings\">Settings</a>",
        .lit "<a href=\"/admin/audit\">Audit</a>",
        .lit "<a href=\"/account/profile\">Profile</a>",
        .lit "<a href=\"/analyst/schedules\">Schedule</a>", .lit "</nav>"]

/-- What a page adds to the shell's style sheets and scripts. -/
structure Assets where
  styles : List PyStr
  scripts : List PyStr

def Assets.none : Assets := ⟨[], []⟩

def stylesheet (path : PyStr) : Markup :=
  [.lit "<link rel=\"stylesheet\" href=\"", .text path, .lit "\">"]

def script (path : PyStr) : Markup :=
  [.lit "<script src=\"", .text path, .lit "\" defer></script>"]

def head (title : PyStr) (assets : Assets) : Markup := cat [
  [ .lit "<!doctype html><html lang=\"en\"><head><meta charset=\"utf-8\">",
    .lit "<meta name=\"viewport\" content=\"width=device-width,initial-scale=1\">",
    .lit "<meta name=\"htmx-config\" content='",
    .lit "\x7b\"includeIndicatorStyles\":false,\"allowEval\":false,",
    .lit "\"allowScriptTags\":false\x7d", .lit "'>",
    .lit "<title>", .text title, .lit " · LeakCheck Hub</title>",
    .lit "<link rel=\"stylesheet\" href=\"/static/analyst.css?v=9\">" ],
  assets.styles.flatMap stylesheet,
  [ .lit "<script src=\"/static/htmx-2.0.10.min.js\" defer></script>",
    .lit "<script src=\"/static/analyst.js?v=7\" defer></script>" ],
  assets.scripts.flatMap script, [.lit "</head><body>"] ]

def home (user : User) : String :=
  if user.role = .user then "/portal" else "/analyst"

def subtitle (user : User) : PyStr :=
  match user.role with
  | .user => PyStr.lit "private account"
  | .analyst => PyStr.lit "analyst"
  | .superAdmin => PyStr.lit "super admin"

def footer (user : User) : String :=
  if user.role = .user then
    "Your signed-in identity defines every result on this page"
  else
    "Controlled exposure intelligence · Cleartext credentials are reveal-only"

def topbar (user : User) : Markup := cat [
  [ .lit "<header class=\"topbar\"><a class=\"brand\" href=\"", .lit (home user),
    .lit "\">",
    .lit "<span class=\"brand-mark\" aria-hidden=\"true\">L</span>",
    .lit "<span>LeakCheck Hub</span></a>" ],
  navigation user,
  [ .lit "<div class=\"user-chip\"><span>", .text user.email,
    .lit "</span><small>", .text (subtitle user), .lit "</small></div>",
    .lit "<button type=\"button\" id=\"sign-out\" class=\"signout\">Sign out</button>",
    .lit "</header><main>" ] ]

def ending (user : User) : Markup :=
  [.lit "</main><footer>", .lit (footer user), .lit "</footer>",
    .lit "</body></html>"]

/-- `page`. -/
def page (title : PyStr) (content : Markup) (user : User) (assets : Assets) :
    Markup :=
  cat [head title assets, topbar user, content, ending user]

/-! ## §5  The shell is closed -/

theorem navigation_closed (user : User) : (navigation user).Closed := by
  unfold navigation
  cases user.role
  all_goals
    simp only [Markup.Closed, shape_nil, shape_lit]
    repeat rw [lit_ofList]
    rfl

theorem stylesheet_closed (path : PyStr) : (stylesheet path).Closed := by
  simp only [Markup.Closed, stylesheet, shape_nil, shape_lit, shape_text]
  repeat rw [lit_ofList]
  rfl

theorem script_closed (path : PyStr) : (script path).Closed := by
  simp only [Markup.Closed, script, shape_nil, shape_lit, shape_text]
  repeat rw [lit_ofList]
  rfl

theorem head_closed (title : PyStr) (assets : Assets) :
    (head title assets).Closed := by
  refine closed_cat_cons ?_ (closed_cat_cons
    (closed_flatMap fun path _ => stylesheet_closed path) (closed_cat_cons ?_
    (closed_cat_cons (closed_flatMap fun path _ => script_closed path)
    (closed_cat_cons ?_ closed_cat_nil))))
  all_goals
    simp only [Markup.Closed, shape_nil, shape_lit, shape_text]
    repeat rw [lit_ofList]
    rfl

theorem topbar_closed (user : User) : (topbar user).Closed := by
  refine closed_cat_cons ?_ (closed_cat_cons (navigation_closed user)
    (closed_cat_cons ?_ closed_cat_nil))
  · unfold home
    split
    all_goals
      simp only [Markup.Closed, shape_nil, shape_lit]
      repeat rw [lit_ofList]
      rfl
  · simp only [Markup.Closed, shape_nil, shape_lit, shape_text]
    repeat rw [lit_ofList]
    rfl

theorem ending_closed (user : User) : (ending user).Closed := by
  unfold ending footer
  split
  all_goals
    simp only [Markup.Closed, shape_nil, shape_lit]
    repeat rw [lit_ofList]
    rfl

/-- A page is closed when its content is. -/
theorem page_closed {content : Markup} (h : content.Closed) (title : PyStr)
    (user : User) (assets : Assets) :
    (page title content user assets).Closed :=
  closed_cat_cons (head_closed title assets) (closed_cat_cons (topbar_closed user)
    (closed_cat_cons h (closed_cat_cons (ending_closed user) closed_cat_nil)))

end LeakcheckHub.Pages
