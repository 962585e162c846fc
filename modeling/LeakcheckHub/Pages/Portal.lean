import LeakcheckHub.Pages.Layout

/-!
# Portal pages

`app/user_ui.py`, over the findings as `serialize_user_finding` gives them.

§1 one finding · §2 the dashboard · §3 the progress of a check · §4 the pages
are closed · §5 the portal's responses.
-/

namespace LeakcheckHub.Pages

open Foundation Html
open Portal (SerializedFinding)

/-! ## §1  One finding -/

section Card

variable (U : UnicodeData) (floatText : BitVec 64 → PyStr)

/-- `value or fallback`. -/
def orElse (value : Option PyStr) (fallback : String) : PyStr :=
  (Analyst.nonEmpty value).getD (PyStr.lit fallback)

/-- The exposed fields, whatever the vendor put there. -/
def exposedFields (fields : List Json) : Markup :=
  let texts := fields.map (strValue U floatText)
  if ((PyStr.lit ", ").intercalate texts).isEmpty then [.lit "Not specified"]
  else [.lit ", "].intercalate (texts.map fun text => [.text text])

/-- `_finding_card`. -/
def findingCard (item : SerializedFinding) : Markup := cat [
  [ .lit "<article class=\"panel user-finding\"><header><div><p class=\"eyebrow\">",
    .text (orElse item.breachDate "Unknown date"), .lit "</p><h2>", .text item.source,
    .lit "</h2></div><div>",
    .lit (if item.remediated then "<span class=\"badge success\">Fixed</span>"
      else "<span class=\"badge warning\">Action needed</span>"),
    .lit (if item.reLeaked then "<span class=\"badge danger\">Re-leaked</span>"
      else ""),
    .lit "</div></header><dl><div><dt>Exposed fields</dt><dd>" ],
  exposedFields U floatText item.fields,
  [ .lit "</dd></div><div><dt>Service origin</dt><dd>",
    .text (orElse item.origin "Not provided"),
    .lit "</dd></div><div><dt>Password hint</dt><dd>",
    .text (orElse item.passwordMask "No password in this record"),
    .lit "</dd></div></dl><p class=\"guidance\">", .text item.guidance, .lit "</p>" ],
  if item.remediated then []
  else
    [ .lit "<div class=\"remediation-control\">",
      .lit "<button type=\"button\" hx-post=\"/portal/findings/", .text item.id,
      .lit "/remediate\" ",
      .lit "hx-target=\"closest .remediation-control\" hx-swap=\"outerHTML\">",
      .lit "I have fixed this</button></div>" ],
  [.lit "</article>"] ]

/-! ## §2  The dashboard -/

def noFindings : Markup :=
  [ .lit "<section class=\"panel empty-state\"><h2>No known exposures</h2>",
    .lit "<p>Your portal has no stored findings for this email address.</p></section>" ]

/-- `dashboard_page`. -/
def dashboardPage (user : User) (findings : List SerializedFinding)
    (canCheck : Bool) : Markup :=
  page (PyStr.lit "My exposure dashboard")
    (cat [
     [ .lit "<section class=\"hero user-portal-hero\"><p class=\"eyebrow\">",
       .lit "Signed in as</p><h1>", .text user.email,
       .lit "</h1><p>Results are limited to this email address. ",
       .lit "Passwords are always masked here.</p>",
       .lit "<form action=\"/portal/check\" method=\"post\" hx-post=\"/portal/check\" ",
       .lit "hx-target=\"#self-check-message\" hx-swap=\"innerHTML\">",
       .lit (if canCheck then "<button type=\"submit\">Scan now</button>"
         else "<button type=\"button\" disabled>Scan available after cooldown</button>"),
       .lit "<output id=\"self-check-message\" class=\"form-error\" ",
       .lit "aria-live=\"polite\"></output>",
       .lit "</form></section><section class=\"user-findings\">" ],
     joined findings (findingCard U floatText) noFindings,
     [.lit "</section>"] ])
    user Assets.none

end Card

/-! ## §3  The progress of a check -/

/-- `progress_fragment`. -/
def progressFragment (scan : Scan) : Markup :=
  match scan.status with
  | .succeeded =>
      [ .lit "<p class=\"scan-state success-text\">Complete. Loading your results…</p>" ]
  | .failed =>
      [ .lit "<div class=\"scan-state\"><span class=\"badge danger\">Failed</span>",
        .lit "<h2>The check could not be completed</h2>",
        .lit "<p>No credential or vendor error detail was retained.</p>",
        .lit "<a class=\"button secondary\" href=\"/portal\">Back to dashboard</a></div>" ]
  | status =>
      [ .lit "<div class=\"scan-state\" hx-get=\"/portal/scans/", .plain (uuid scan.id),
        .lit "/status\" ",
        .lit "hx-trigger=\"load delay:1s\" hx-swap=\"outerHTML\">",
        .lit "<span class=\"pulse\" aria-hidden=\"true\"></span><h2>",
        .text (PyStr.lit (if status = .running then "Running" else "Queued")),
        .lit " private check</h2>",
        .lit "<p>This page will update when the bounded scan finishes.</p></div>" ]

/-- `progress_page`. -/
def progressPage (user : User) (fragment : Markup) : Markup :=
  page (PyStr.lit "Self-check progress")
    (cat [
     [ .lit "<section class=\"hero compact\"><p class=\"eyebrow\">Private self-check</p>",
       .lit "<h1>Checking your work email</h1><p>The submitted identifier came from ",
       .lit "your signed-in account and is not accepted from page parameters.</p>",
       .lit "</section>", .lit "<section class=\"panel\" aria-live=\"polite\">" ],
     fragment, [.lit "</section>"] ])
    user Assets.none

/-- `remediation_complete`. -/
def remediationComplete (findingId : PyStr) : Markup :=
  [ .lit "<div class=\"remediation-control\">",
    .lit "<span class=\"badge success\">Marked fixed</span>",
    .lit "<span class=\"sr-only\">Finding ", .text findingId, .lit "</span></div>" ]

/-! ## §4  The pages are closed -/

section Closed

variable {U : UnicodeData} {floatText : BitVec 64 → PyStr}

theorem exposedFields_closed (fields : List Json) :
    (exposedFields U floatText fields).Closed := by
  unfold exposedFields
  dsimp only
  split
  · simp only [Markup.Closed, shape_nil, shape_lit]
    rfl
  · refine closed_intercalate ?_ fun part hpart => ?_
    · simp only [Markup.Closed, shape_nil, shape_lit]
      rfl
    · obtain ⟨text, -, rfl⟩ := List.mem_map.mp hpart
      rfl

theorem findingCard_closed (item : SerializedFinding) :
    (findingCard U floatText item).Closed := by
  refine closed_cat_cons ?start (closed_cat_cons (exposedFields_closed _)
    (closed_cat_cons ?details (closed_cat_cons ?action
      (closed_cat_cons ?ending closed_cat_nil))))
  case start =>
    cases item.remediated
    all_goals
      cases item.reLeaked
      all_goals
        simp only [Markup.Closed, Bool.false_eq_true, if_true, if_false, shape_nil,
          shape_lit, shape_text]
        repeat rw [lit_ofList]
        rfl
  case action =>
    split
    · exact closed_nil
    · simp only [Markup.Closed, shape_nil, shape_lit, shape_text]
      repeat rw [lit_ofList]
      rfl
  all_goals
    simp only [Markup.Closed, shape_nil, shape_lit, shape_text]
    repeat rw [lit_ofList]
    rfl

theorem dashboardPage_closed (user : User) (findings : List SerializedFinding)
    (canCheck : Bool) : (dashboardPage U floatText user findings canCheck).Closed := by
  refine page_closed (closed_cat_cons ?start (closed_cat_cons
    (closed_joined (fun item _ => findingCard_closed item) ?none)
    (closed_cat_cons ?ending closed_cat_nil))) _ _ _
  case start =>
    cases canCheck
    all_goals
      simp only [Markup.Closed, Bool.false_eq_true, if_true, if_false, shape_nil,
        shape_lit, shape_text]
      repeat rw [lit_ofList]
      rfl
  all_goals
    simp only [Markup.Closed, noFindings, shape_nil, shape_lit]
    repeat rw [lit_ofList]
    rfl

theorem progressFragment_closed (scan : Scan) : (progressFragment scan).Closed := by
  unfold progressFragment
  split
  all_goals
    simp only [Markup.Closed, shape_nil, shape_lit, shape_text, shape_plain]
    repeat rw [lit_ofList]
    rfl

theorem progressPage_closed (user : User) {fragment : Markup} (h : fragment.Closed) :
    (progressPage user fragment).Closed := by
  refine page_closed (closed_cat_cons ?_ (closed_cat_cons h
    (closed_cat_cons ?_ closed_cat_nil))) _ _ _
  all_goals
    simp only [Markup.Closed, shape_nil, shape_lit]
    repeat rw [lit_ofList]
    rfl

theorem remediationComplete_closed (findingId : PyStr) :
    (remediationComplete findingId).Closed := by
  simp only [Markup.Closed, remediationComplete, shape_nil, shape_lit, shape_text]
  repeat rw [lit_ofList]
  rfl

end Closed

/-! ## §5  The portal's responses -/

/-- The text of a response's body. -/
def render (U : UnicodeData) (floatText : BitVec 64 → PyStr) : Portal.Body → PyStr
  | .text html => html
  | .dashboardPage user findings canCheck =>
      Markup.html (dashboardPage U floatText user findings canCheck)
  | .progressPage user fragment =>
      Markup.html (progressPage user [.markup fragment])

theorem lit_append (s t : String) :
    PyStr.lit (s ++ t) = PyStr.lit s ++ PyStr.lit t := by
  simp only [PyStr.lit, String.toList_append, List.map_append]

theorem html_nil : Markup.html [] = [] := rfl

theorem html_lit (source : String) (m : Markup) :
    Markup.html (.lit source :: m) = PyStr.lit source ++ Markup.html m := rfl

theorem html_text {value : PyStr} (h : value.all harmless = true) (m : Markup) :
    Markup.html (.text value :: m) = value ++ Markup.html m := by
  rw [Markup.html, List.flatMap_cons, Piece.html, escape_harmless h]
  rfl

theorem html_plain (value : Plain) (m : Markup) :
    Markup.html (.plain value :: m) = value.text ++ Markup.html m := rfl

/-- The fragment is the text that the portal's routes answer with. -/
theorem progressFragment_html (scan : Scan) :
    Markup.html (progressFragment scan) = Portal.progressFragment scan := by
  have hlabels : (PyStr.lit "Running").all harmless = true ∧
      (PyStr.lit "Queued").all harmless = true := by decide
  unfold progressFragment Portal.progressFragment
  cases scan.status with
  | succeeded => simp only [html_lit, html_nil, List.append_nil]
  | failed => simp only [html_lit, html_nil, lit_append, List.append_assoc,
      List.append_nil]
  | pending =>
      simp only [reduceCtorEq, if_false, html_lit, html_plain, html_nil,
        html_text hlabels.2, lit_append, List.append_assoc, List.append_nil, uuid]
  | running =>
      simp only [if_true, html_lit, html_plain, html_nil, html_text hlabels.1,
        lit_append, List.append_assoc, List.append_nil, uuid]

theorem remediationComplete_html (findingId : Uuid) :
    Markup.html (remediationComplete findingId.str) =
      Portal.remediationComplete findingId.str := by
  simp only [remediationComplete, Portal.remediationComplete, html_lit, html_nil,
    html_text (str_harmless findingId), lit_append, List.append_assoc,
    List.append_nil]

end LeakcheckHub.Pages
