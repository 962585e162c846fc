import LeakcheckHub.Foundation.PyText

/-!
# HTML with escaped text in it

`html.escape`, the part of a browser's tokenizer that server-rendered pages
use, and markup written as literal pieces with texts between them. What a
page's tokens are is a walk over its literal pieces; the texts add characters
of data to them and nothing else.

§1 escaping · §2 the tokenizer · §3 markup and its reading · §4 escaped text
reads as data · §5 the walk · §6 texts do not change the structure.
-/

namespace LeakcheckHub.Foundation.Html

/-! ## §1  Escaping -/

/-- One character of `html.escape(text, quote=True)`. -/
def escapeChar (c : CodePoint) : PyStr :=
  if c = 38 then PyStr.lit "&amp;"
  else if c = 60 then PyStr.lit "&lt;"
  else if c = 62 then PyStr.lit "&gt;"
  else if c = 34 then PyStr.lit "&quot;"
  else if c = 39 then PyStr.lit "&#x27;"
  else [c]

/-- `html.escape(text, quote=True)`. -/
def escape (text : PyStr) : PyStr := text.flatMap escapeChar

/-! ## §2  The tokenizer

The states of the HTML tokenizer that such pages reach. A transition outside
them is `none`: markup that relies on error recovery is not read at all. -/

inductive Event
  | doctype
  | startTag (name : PyStr)
  | attribute (name : PyStr)
  | valueChar (c : CodePoint)
  | tagEnd
  | endTag (name : PyStr)
  | char (c : CodePoint)
  deriving DecidableEq, Repr

/-- Where a character is data: between tags, in an element like `title` that
only its own end tag ends, or in a quoted value. There `names` are the
attributes of the tag so far, the one being read first. -/
inductive Place
  | content
  | escapable (tag : PyStr)
  | value (single : Bool) (tag : PyStr) (names : List PyStr)
  deriving DecidableEq, Repr

inductive Mode
  | data (place : Place)
  | reference (place : Place) (name : PyStr)
  | script
  | expect (rest : PyStr) (event : Event)
  | tagOpen
  | endTagOpen
  | tagName (name : PyStr)
  | endTagName (name : PyStr)
  | beforeName (tag : PyStr) (names : List PyStr)
  | attributeName (tag : PyStr) (names : List PyStr) (name : PyStr)
  | afterName (tag : PyStr) (names : List PyStr)
  | beforeValue (tag : PyStr) (names : List PyStr)
  | afterValue (tag : PyStr) (names : List PyStr)
  deriving DecidableEq, Repr

def isLetter (c : CodePoint) : Bool :=
  (65 ≤ c.val && c.val ≤ 90) || (97 ≤ c.val && c.val ≤ 122)

def lower (c : CodePoint) : CodePoint :=
  if 65 ≤ c.val ∧ c.val ≤ 90 then c + 32 else c

/-- Tab, line feed, form feed and space. -/
def isBlank (c : CodePoint) : Bool := c == 9 || c == 10 || c == 12 || c == 32

/-- Characters that an attribute's name has none of here. -/
def endsName (c : CodePoint) : Bool :=
  isBlank c || c == 0 || c == 34 || c == 39 || c == 47 || c == 60 || c == 61 ||
    c == 62

def quoteChar (single : Bool) : CodePoint := if single then 39 else 34

/-- The token of a character that is data. -/
def Place.emit : Place → CodePoint → Event
  | .content, c => .char c
  | .escapable _, c => .char (if c = 0 then 0xFFFD else c)
  | .value .., c => .valueChar (if c = 0 then 0xFFFD else c)

/-- What a character reference stands for. -/
def referenced (name : PyStr) : Option CodePoint :=
  if name = PyStr.lit "amp" then some 38
  else if name = PyStr.lit "lt" then some 60
  else if name = PyStr.lit "gt" then some 62
  else if name = PyStr.lit "quot" then some 34
  else if name = PyStr.lit "#x27" then some 39
  else none

/-- Other elements whose content is not read as markup. -/
def rawElements : List PyStr :=
  ["style", "xmp", "iframe", "noembed", "noframes", "noscript",
    "plaintext"].map PyStr.lit

/-- Where reading goes on after a start tag. -/
def afterStart (tag : PyStr) : Option Mode :=
  if tag = PyStr.lit "title" ∨ tag = PyStr.lit "textarea" then
    some (.data (.escapable tag))
  else if tag = PyStr.lit "script" then some .script
  else if rawElements.contains tag then none
  else some (.data .content)

def finishTag (tag : PyStr) : Option (Mode × List Event) :=
  (afterStart tag).map (·, [.tagEnd])

/-- An attribute's name is complete; a second one of the same name is an
error. -/
def finishName (names : List PyStr) (name : PyStr) : Option (List PyStr) :=
  if names.contains name then none else some (name :: names)

/-- One transition. -/
def Mode.next : Mode → CodePoint → Option (Mode × List Event)
  | .data place, c =>
      if c = 38 then some (.reference place [], [])
      else
        match place with
        | .content =>
            if c = 60 then some (.tagOpen, []) else some (.data place, [place.emit c])
        | .escapable tag =>
            if c = 60 then some (.expect (47 :: (tag ++ [62])) (.endTag tag), [])
            else some (.data place, [place.emit c])
        | .value single tag names =>
            if c = quoteChar single then some (.afterValue tag names, [])
            else some (.data place, [place.emit c])
  | .reference place name, c =>
      if c = 59 then
        (referenced name).map fun c' => (.data place, [place.emit c'])
      else if name.length < 4 then some (.reference place (name ++ [c]), [])
      else none
  | .script, c =>
      if c = 60 then
        some (.expect (PyStr.lit "/script>") (.endTag (PyStr.lit "script")), [])
      else none
  | .expect [] _, _ => none
  | .expect [c'] event, c =>
      if lower c = c' then some (.data .content, [event]) else none
  | .expect (c' :: rest) event, c =>
      if lower c = c' then some (.expect rest event, []) else none
  | .tagOpen, c =>
      if c = 33 then some (.expect (PyStr.lit "doctype html>") .doctype, [])
      else if c = 47 then some (.endTagOpen, [])
      else if isLetter c then some (.tagName [lower c], [])
      else none
  | .endTagOpen, c =>
      if isLetter c then some (.endTagName [lower c], []) else none
  | .tagName name, c =>
      if isBlank c then some (.beforeName name [], [.startTag name])
      else if c = 62 then
        (finishTag name).map fun (mode, events) => (mode, .startTag name :: events)
      else if c = 0 ∨ c = 47 then none
      else some (.tagName (name ++ [lower c]), [])
  | .endTagName name, c =>
      if c = 62 then some (.data .content, [.endTag name])
      else if c = 0 ∨ c = 47 ∨ isBlank c then none
      else some (.endTagName (name ++ [lower c]), [])
  | .beforeName tag names, c =>
      if isBlank c then some (.beforeName tag names, [])
      else if c = 62 then finishTag tag
      else if endsName c then none
      else some (.attributeName tag names [lower c], [])
  | .attributeName tag names name, c =>
      if isBlank c then
        (finishName names name).map fun names => (.afterName tag names, [.attribute name])
      else if c = 61 then
        (finishName names name).map fun names => (.beforeValue tag names, [.attribute name])
      else if c = 62 then do
        let _ ← finishName names name
        let (mode, events) ← finishTag tag
        some (mode, .attribute name :: events)
      else if endsName c then none
      else some (.attributeName tag names (name ++ [lower c]), [])
  | .afterName tag names, c =>
      if isBlank c then some (.afterName tag names, [])
      else if c = 61 then some (.beforeValue tag names, [])
      else if c = 62 then finishTag tag
      else if endsName c then none
      else some (.attributeName tag names [lower c], [])
  | .beforeValue tag names, c =>
      if isBlank c then some (.beforeValue tag names, [])
      else if c = 34 then some (.data (.value false tag names), [])
      else if c = 39 then some (.data (.value true tag names), [])
      else none
  | .afterValue tag names, c =>
      if isBlank c then some (.beforeName tag names, [])
      else if c = 62 then finishTag tag
      else none

/-! ## §3  Markup and its reading -/

/-- The tokenizer between two characters; `afterReturn` is what newline
normalisation remembers. -/
structure Reader where
  mode : Mode
  afterReturn : Bool
  deriving DecidableEq

def Reader.start : Reader := ⟨.data .content, false⟩

/-- A newline in a page is a line feed, a return or both. -/
def newline (c : CodePoint) : CodePoint := if c = 13 then 10 else c

def Reader.feed (r : Reader) (c : CodePoint) : Option (Reader × List Event) :=
  if c = 10 ∧ r.afterReturn then some (⟨r.mode, false⟩, [])
  else (r.mode.next (newline c)).map fun (mode, events) => (⟨mode, c == 13⟩, events)

/-- Attributes whose value a browser runs or styles with. -/
def active (name : PyStr) : Bool :=
  (PyStr.lit "on").isPrefixOf name || name == PyStr.lit "style" ||
    name == PyStr.lit "srcdoc"

/-- A value may stand between tags, in an element like `title`, and in an
attribute that is not active. -/
def Place.takesText : Place → Bool
  | .content | .escapable _ => true
  | .value _ _ names => !(names.head?.any active)

/-- A character taken as data, whatever it is. -/
def Reader.put (r : Reader) (c : CodePoint) : Option (Reader × List Event) :=
  match r.mode with
  | .data place =>
      if place.takesText then
        if c = 10 ∧ r.afterReturn then some (⟨.data place, false⟩, [])
        else some (⟨.data place, c == 13⟩, [place.emit (newline c)])
      else none
  | _ => none

/-- A run of `feed` or `put` over a text. -/
def readWith (f : Reader → CodePoint → Option (Reader × List Event)) :
    Reader → PyStr → Option (Reader × List Event)
  | r, [] => some (r, [])
  | r, c :: rest => do
      let (r', events) ← f r c
      let (r'', events') ← readWith f r' rest
      some (r'', events ++ events')

/-- The tokens of a page. -/
def tokenize (page : PyStr) : Option (List Event) :=
  match readWith Reader.feed Reader.start page with
  | some (⟨.data .content, _⟩, events) => some events
  | _ => none

/-- Neither markup nor a line break nor NUL. -/
def harmless (c : CodePoint) : Bool :=
  !([0, 10, 13, 34, 38, 39, 60, 62] : List CodePoint).contains c

/-- Text that is its own escape. -/
structure Plain where
  text : PyStr
  harmless : text.all Html.harmless = true

inductive Piece
  /-- A literal of the template. -/
  | markup (source : PyStr)
  /-- A value, through `html.escape`. -/
  | text (value : PyStr)
  /-- A value without markup characters, as it is. -/
  | plain (value : Plain)

abbrev Markup : Type := List Piece

def Piece.lit (source : String) : Piece := .markup (PyStr.lit source)

/-- What the items render to, or what stands for none. -/
def joined {α : Type} (items : List α) (render : α → Markup) (empty : Markup) :
    Markup :=
  if items.isEmpty then empty else items.flatMap render

def Piece.html : Piece → PyStr
  | .markup source => source
  | .text value => escape value
  | .plain value => value.text

/-- `"".join(parts)`. -/
def cat (parts : List Markup) : Markup := parts.flatten

def Markup.html (m : Markup) : PyStr := m.flatMap Piece.html

/-- A template's literals read as markup, its values as data. -/
def Piece.read (r : Reader) : Piece → Option (Reader × List Event)
  | .markup source => readWith Reader.feed r source
  | .text value => readWith Reader.put r value
  | .plain value => readWith Reader.put r value.text

def Markup.read : Reader → Markup → Option (Reader × List Event)
  | r, [] => some (r, [])
  | r, piece :: rest => do
      let (r', events) ← piece.read r
      let (r'', events') ← Markup.read r' rest
      some (r'', events ++ events')

/-- The template with every value left out. -/
def Piece.blank : Piece → Piece
  | .markup source => .markup source
  | .text _ | .plain _ => .text []

def Markup.blank (m : Markup) : Markup := m.map Piece.blank

/-- Tags and attributes: all that is not a character of data. -/
def Event.structural : Event → Bool
  | .valueChar _ | .char _ => false
  | _ => true

def skeleton (events : List Event) : List Event := events.filter Event.structural

/-- What a page's values can do to it. The page reads as its template with the
values as data; against the page without its values it has the same tags and
attributes, and only characters of data more. -/
def Markup.Sealed (m : Markup) : Prop :=
  ∃ r events blank, m.read Reader.start = some (r, events) ∧
    tokenize m.html = some events ∧ tokenize m.blank.html = some blank ∧
    blank.Sublist events ∧ skeleton blank = skeleton events

/-! ## §4  Escaped text reads as data -/

section Reading

variable {f : Reader → CodePoint → Option (Reader × List Event)}
  {r r' r'' : Reader} {mode mode' : Mode} {place : Place} {c : CodePoint}
  {out : Reader × List Event} {events events' : List Event} {piece : Piece}
  {m : Markup}

theorem readWith_append {a b : PyStr} (ha : readWith f r a = some (r', events))
    (hb : readWith f r' b = some (r'', events')) :
    readWith f r (a ++ b) = some (r'', events ++ events') := by
  induction a generalizing r events with
  | nil =>
      cases ha
      exact hb
  | cons c rest ih =>
      simp only [readWith, Option.bind_eq_bind, Option.bind_eq_some_iff] at ha
      obtain ⟨⟨r₁, events₁⟩, hc, ⟨r₂, events₂⟩, hrest, ha⟩ := ha
      cases ha
      simp [readWith, hc, ih hrest, List.append_assoc]

/-- A character that is not markup is data wherever data can stand. -/
theorem next_data (hamp : c ≠ 38) (hless : c ≠ 60) (hquot : c ≠ 34)
    (happ : c ≠ 39) :
    (Mode.data place).next c = some (.data place, [place.emit c]) := by
  cases place with
  | content => simp [Mode.next, hamp, hless]
  | escapable tag => simp [Mode.next, hamp, hless]
  | value single tag names =>
      have hquote : c ≠ quoteChar single := by
        cases single
        · exact hquot
        · exact happ
      simp [Mode.next, hamp, hquote]

/-- What `put` does, where it does anything. -/
theorem put_cases (h : r.put c = some out) : ∃ place afterReturn,
    r = ⟨.data place, afterReturn⟩ ∧ place.takesText = true ∧
      (c = 10 ∧ afterReturn = true ∧ out = (⟨.data place, false⟩, []) ∨
        ¬(c = 10 ∧ afterReturn = true) ∧
          out = (⟨.data place, c == 13⟩, [place.emit (newline c)])) := by
  obtain ⟨mode, afterReturn⟩ := r
  cases mode with
  | data place =>
      simp only [Reader.put] at h
      split at h
      · rename_i htakes
        refine ⟨place, afterReturn, rfl, htakes, ?_⟩
        split at h
        · rename_i hskip
          exact .inl ⟨hskip.1, hskip.2, (Option.some.inj h).symm⟩
        · rename_i hkeep
          exact .inr ⟨hkeep, (Option.some.inj h).symm⟩
      · cases h
  | _ => cases h

/-- An escaped character reads as the character taken as data. -/
theorem feed_escapeChar (h : r.put c = some out) :
    readWith Reader.feed r (escapeChar c) = some out := by
  obtain ⟨place, afterReturn, rfl, -, hout⟩ := put_cases h
  by_cases hamp : c = 38
  · subst hamp
    rcases hout with ⟨hc, -⟩ | ⟨-, rfl⟩
    · exact absurd hc (by decide)
    · rfl
  by_cases hless : c = 60
  · subst hless
    rcases hout with ⟨hc, -⟩ | ⟨-, rfl⟩
    · exact absurd hc (by decide)
    · rfl
  by_cases hgreater : c = 62
  · subst hgreater
    rcases hout with ⟨hc, -⟩ | ⟨-, rfl⟩
    · exact absurd hc (by decide)
    · rfl
  by_cases hquot : c = 34
  · subst hquot
    rcases hout with ⟨hc, -⟩ | ⟨-, rfl⟩
    · exact absurd hc (by decide)
    · rfl
  by_cases happ : c = 39
  · subst happ
    rcases hout with ⟨hc, -⟩ | ⟨-, rfl⟩
    · exact absurd hc (by decide)
    · rfl
  -- Every other character stands for itself, a return as a line feed.
  have hself : escapeChar c = [c] := by
    simp [escapeChar, hamp, hless, hgreater, hquot, happ]
  rw [hself]
  rcases hout with ⟨rfl, rfl, rfl⟩ | ⟨hkeep, rfl⟩
  · rfl
  · have hnext : (Mode.data place).next (newline c) =
        some (.data place, [place.emit (newline c)]) := by
      unfold newline
      split
      · exact next_data (by decide) (by decide) (by decide) (by decide)
      · exact next_data hamp hless hquot happ
    simp [readWith, Reader.feed, hkeep, hnext]

theorem feed_escape {value : PyStr} (h : readWith Reader.put r value = some out) :
    readWith Reader.feed r (escape value) = some out := by
  induction value generalizing r out with
  | nil => exact h
  | cons c rest ih =>
      simp only [readWith, Option.bind_eq_bind, Option.bind_eq_some_iff] at h
      obtain ⟨⟨r₁, events₁⟩, hc, ⟨r₂, events₂⟩, hrest, hout⟩ := h
      cases hout
      exact readWith_append (feed_escapeChar hc) (ih hrest)

theorem escape_harmless {value : PyStr} (h : value.all harmless = true) :
    escape value = value := by
  induction value with
  | nil => rfl
  | cons c rest ih =>
      simp only [List.all_cons, Bool.and_eq_true] at h
      have hself : escapeChar c = [c] := by
        simp only [harmless, Bool.not_eq_true', List.contains_eq_mem,
          List.mem_cons, List.not_mem_nil, or_false, decide_eq_false_iff_not,
          not_or] at h
        simp [escapeChar, h.1]
      have hrest : rest.flatMap escapeChar = rest := ih h.2
      rw [escape, List.flatMap_cons, hself, hrest]
      rfl

theorem html_read (h : piece.read r = some out) :
    readWith Reader.feed r piece.html = some out := by
  cases piece with
  | markup source => exact h
  | text value => exact feed_escape h
  | plain value =>
      have hescape : readWith Reader.feed r (escape value.text) = some out :=
        feed_escape h
      rwa [escape_harmless value.harmless] at hescape

/-- A page reads as its template, with the values as data. -/
theorem read_html (h : m.read r = some out) :
    readWith Reader.feed r m.html = some out := by
  induction m generalizing r out with
  | nil => exact h
  | cons piece rest ih =>
      simp only [Markup.read, Option.bind_eq_bind, Option.bind_eq_some_iff] at h
      obtain ⟨⟨r₁, events₁⟩, hpiece, ⟨r₂, events₂⟩, hrest, hout⟩ := h
      cases hout
      exact readWith_append (html_read hpiece) (ih hrest)

end Reading

/-! ## §5  The walk

The tokenizer's states along a template, its values skipped. -/

def Piece.shape : Piece → Option PyStr
  | .markup source => some source
  | .text _ | .plain _ => none

def Markup.shape (m : Markup) : List (Option PyStr) := m.map Piece.shape

/-- Past a literal, which has no line breaks. -/
def Mode.follow : Mode → PyStr → Option Mode
  | mode, [] => some mode
  | mode, c :: rest =>
      if c.val = 10 ∨ c.val = 13 then none
      else
        match mode.next c with
        | some (mode', _) => mode'.follow rest
        | none => none

def Mode.cross : Mode → Option PyStr → Option Mode
  | mode, some source => mode.follow source
  | .data place, none => if place.takesText then some (.data place) else none
  | _, none => none

def Mode.walk : Mode → List (Option PyStr) → Option Mode
  | mode, [] => some mode
  | mode, shape :: rest =>
      match mode.cross shape with
      | some mode' => mode'.walk rest
      | none => none

/-- A literal as the list of its characters, which the walk can be run on. -/
theorem lit_ofList (l : List Char) :
    PyStr.lit (String.ofList l) = l.map PyStr.ofChar := by
  rw [PyStr.lit, String.toList_ofList]

/-- Markup that starts and ends between tags. -/
def Markup.Closed (m : Markup) : Prop :=
  Mode.walk (.data .content) m.shape = some (.data .content)

section Walk

variable {mode mode' mode'' : Mode} {a b m : Markup}
  {shapes shapes' : List (Option PyStr)}

/-! The shape of a list of pieces, one piece at a time. -/

theorem shape_nil : Markup.shape [] = [] := rfl

theorem shape_lit (source : String) :
    Markup.shape (.lit source :: m) = some (PyStr.lit source) :: Markup.shape m :=
  rfl

theorem shape_markup (source : PyStr) :
    Markup.shape (.markup source :: m) = some source :: Markup.shape m := rfl

theorem shape_text (value : PyStr) :
    Markup.shape (.text value :: m) = none :: Markup.shape m := rfl

theorem shape_plain (value : Plain) :
    Markup.shape (.plain value :: m) = none :: Markup.shape m := rfl

theorem walk_append (h : Mode.walk mode shapes = some mode') :
    Mode.walk mode (shapes ++ shapes') = Mode.walk mode' shapes' := by
  induction shapes generalizing mode with
  | nil =>
      cases h
      rfl
  | cons shape rest ih =>
      simp only [Mode.walk, List.cons_append] at h ⊢
      split at h
      · exact ih h
      · cases h

theorem walk_markup (ha : Mode.walk mode a.shape = some mode')
    (hb : Mode.walk mode' b.shape = some mode'') :
    Mode.walk mode (Markup.shape (a ++ b)) = some mode'' := by
  rw [Markup.shape, List.map_append]
  exact (walk_append ha).trans hb

theorem closed_nil : Markup.Closed [] := rfl

theorem closed_append (ha : Markup.Closed a) (hb : Markup.Closed b) :
    Markup.Closed (a ++ b) := walk_markup ha hb

theorem closed_flatMap {α : Type} {f : α → Markup} {items : List α}
    (h : ∀ item ∈ items, Markup.Closed (f item)) :
    Markup.Closed (items.flatMap f) := by
  induction items with
  | nil => exact closed_nil
  | cons item rest ih =>
      rw [List.flatMap_cons]
      exact closed_append (h item List.mem_cons_self)
        (ih fun item' hitem => h item' (List.mem_cons_of_mem _ hitem))

theorem closed_cat_nil : (cat []).Closed := rfl

theorem closed_cat_cons {parts : List Markup} (ha : Markup.Closed a)
    (h : (cat parts).Closed) : (cat (a :: parts)).Closed := closed_append ha h

theorem closed_intercalate {sep : Markup} (hsep : sep.Closed) {parts : List Markup}
    (h : ∀ part ∈ parts, Markup.Closed part) :
    Markup.Closed (sep.intercalate parts) := by
  induction parts with
  | nil => exact closed_nil
  | cons part rest ih =>
      have hrest := ih fun other hother => h other (List.mem_cons_of_mem _ hother)
      cases rest with
      | nil =>
          rw [List.intercalate_singleton]
          exact h part List.mem_cons_self
      | cons next rest =>
          rw [List.intercalate_cons_cons]
          exact closed_append (closed_append (h part List.mem_cons_self) hsep) hrest

theorem closed_joined {α : Type} {items : List α} {render : α → Markup}
    {empty : Markup} (h : ∀ item ∈ items, (render item).Closed)
    (hempty : empty.Closed) :
    (joined items render empty).Closed := by
  unfold joined
  split
  · exact hempty
  · exact closed_flatMap h

end Walk

/-! ## §6  Texts do not change the structure -/

section Sealing

variable {mode mode' : Mode} {place : Place} {cr : Bool} {m : Markup}

theorem skeleton_append (a b : List Event) :
    skeleton (a ++ b) = skeleton a ++ skeleton b := List.filter_append ..

theorem emit_structural (place : Place) (c : CodePoint) :
    (place.emit c).structural = false := by
  cases place <;> rfl

/-- A literal reads the same whatever stands before it. -/
theorem read_literal {source : PyStr} (h : mode.follow source = some mode') :
    ∃ events, ∀ cr, ∃ cr',
      readWith Reader.feed ⟨mode, cr⟩ source = some (⟨mode', cr'⟩, events) := by
  induction source generalizing mode with
  | nil =>
      cases h
      exact ⟨[], fun cr => ⟨cr, rfl⟩⟩
  | cons c rest ih =>
      simp only [Mode.follow] at h
      split at h
      · cases h
      rename_i hbreak
      split at h
      · rename_i mode₁ events₁ hnext
        obtain ⟨events₂, hrest⟩ := ih h
        refine ⟨events₁ ++ events₂, fun cr => ?_⟩
        obtain ⟨cr', hrest⟩ := hrest false
        have hline : c ≠ 10 := fun heq => hbreak (.inl (heq ▸ rfl))
        have hreturn : c ≠ 13 := fun heq => hbreak (.inr (heq ▸ rfl))
        have hfeed : Reader.feed ⟨mode, cr⟩ c = some (⟨mode₁, false⟩, events₁) := by
          simp [Reader.feed, newline, hline, hreturn, hnext]
        exact ⟨cr', by simp [readWith, hfeed, hrest]⟩
      · cases h

/-- A value in a place that takes text adds characters of data. -/
theorem read_value (htakes : place.takesText = true) (value : PyStr) (cr : Bool) :
    ∃ cr' events, readWith Reader.put ⟨.data place, cr⟩ value =
      some (⟨.data place, cr'⟩, events) ∧ skeleton events = [] := by
  induction value generalizing cr with
  | nil => exact ⟨cr, [], rfl, rfl⟩
  | cons c rest ih =>
      by_cases hskip : c = 10 ∧ cr = true
      · obtain ⟨cr', events, hrest, hdata⟩ := ih false
        refine ⟨cr', events, ?_, hdata⟩
        simp [readWith, Reader.put, htakes, hskip, hrest]
      · obtain ⟨cr', events, hrest, hdata⟩ := ih (c == 13)
        refine ⟨cr', place.emit (newline c) :: events, ?_, ?_⟩
        · simp only [readWith, Reader.put, htakes, if_true, if_neg hskip,
            Option.bind_eq_bind, Option.bind_some, hrest]
          rfl
        · rw [← hdata]
          simp [skeleton, emit_structural]

theorem read_blank_piece {piece : Piece} (h : mode.cross piece.shape = some mode')
    (cr₁ cr₂ : Bool) : ∃ cr₁' cr₂' events blank,
      piece.read ⟨mode, cr₁⟩ = some (⟨mode', cr₁'⟩, events) ∧
      piece.blank.read ⟨mode, cr₂⟩ = some (⟨mode', cr₂'⟩, blank) ∧
      blank.Sublist events ∧ skeleton blank = skeleton events := by
  have hvalue : ∀ value : PyStr, mode.cross none = some mode' →
      ∃ cr₁' cr₂' events blank,
        readWith Reader.put ⟨mode, cr₁⟩ value = some (⟨mode', cr₁'⟩, events) ∧
        readWith Reader.put ⟨mode, cr₂⟩ [] = some (⟨mode', cr₂'⟩, blank) ∧
        blank.Sublist events ∧ skeleton blank = skeleton events := by
    intro value h
    cases mode with
    | data place =>
        simp only [Mode.cross] at h
        split at h
        · rename_i htakes
          cases h
          obtain ⟨cr', events, hread, hdata⟩ := read_value htakes value cr₁
          exact ⟨cr', cr₂, events, [], hread, rfl, List.nil_sublist _, hdata.symm⟩
        · cases h
    | _ => cases h
  cases piece with
  | markup source =>
      obtain ⟨events, hread⟩ := read_literal h
      obtain ⟨cr₁', h₁⟩ := hread cr₁
      obtain ⟨cr₂', h₂⟩ := hread cr₂
      exact ⟨cr₁', cr₂', events, events, h₁, h₂, List.Sublist.refl _, rfl⟩
  | text value => exact hvalue value h
  | plain value => exact hvalue value.text h

theorem read_blank (h : Mode.walk mode m.shape = some mode') (cr₁ cr₂ : Bool) :
    ∃ cr₁' cr₂' events blank,
      m.read ⟨mode, cr₁⟩ = some (⟨mode', cr₁'⟩, events) ∧
      m.blank.read ⟨mode, cr₂⟩ = some (⟨mode', cr₂'⟩, blank) ∧
      blank.Sublist events ∧ skeleton blank = skeleton events := by
  induction m generalizing mode cr₁ cr₂ with
  | nil =>
      cases h
      exact ⟨cr₁, cr₂, [], [], rfl, rfl, List.Sublist.refl _, rfl⟩
  | cons piece rest ih =>
      simp only [Markup.shape, List.map_cons, Mode.walk] at h
      split at h
      · rename_i mode₁ hcross
        obtain ⟨c₁, c₂, events, blank, hread, hblank, hsub, hskel⟩ :=
          read_blank_piece hcross cr₁ cr₂
        obtain ⟨c₁', c₂', events', blank', hread', hblank', hsub', hskel'⟩ :=
          ih h c₁ c₂
        refine ⟨c₁', c₂', events ++ events', blank ++ blank', ?_, ?_,
          hsub.append hsub', ?_⟩
        · simp [Markup.read, hread, hread']
        · rw [Markup.blank, List.map_cons]
          simp only [Markup.read, hblank, Option.bind_eq_bind, Option.bind_some]
          rw [Markup.blank] at hblank'
          rw [hblank']
          rfl
        · rw [skeleton_append, skeleton_append, hskel, hskel']
      · cases h

/-- Markup that the walk takes from between tags to between tags is sealed,
whatever its values are. -/
theorem sealed_of_closed (h : Markup.Closed m) : m.Sealed := by
  obtain ⟨cr₁, cr₂, events, blank, hread, hblank, hsub, hskel⟩ :=
    read_blank h false false
  refine ⟨_, events, blank, hread, ?_, ?_, hsub, hskel⟩
  · simp [tokenize, Reader.start, read_html hread]
  · simp [tokenize, Reader.start, read_html hblank]

end Sealing

end LeakcheckHub.Foundation.Html
