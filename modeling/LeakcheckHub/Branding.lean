import LeakcheckHub.Foundation.PgText
import LeakcheckHub.Foundation.System
import LeakcheckHub.Normalization.Subjects

/-!
# Organisation branding

`app/branding.py`: the name and the logo of the sign-in page, and how a logo
is told from its first bytes.

§1 detection · §2 the branding row · §3 what is accepted · §4 what is stored.
-/

namespace LeakcheckHub.Branding

open Foundation
open Normalization (hexdigest)

/-! ## §1  Detection -/

inductive ContentType where
  | png
  | jpeg
  | gif
  | webp
deriving DecidableEq, Repr

def ContentType.value : ContentType → PyStr
  | png => PyStr.lit "image/png"
  | jpeg => PyStr.lit "image/jpeg"
  | gif => PyStr.lit "image/gif"
  | webp => PyStr.lit "image/webp"

/-- `MAX_LOGO_BYTES`. -/
def maxLogoBytes : ℕ := 1024 * 1024

structure Signature where
  magic : Bytes
  offset : ℕ
  contentType : ContentType

def pngMagic : Bytes := [0x89, 80, 78, 71, 13, 10, 26, 10]

def jpegMagic : Bytes := [0xFF, 0xD8, 0xFF]

def gif87Magic : Bytes := PyStr.asciiLit "GIF87a"

def gif89Magic : Bytes := PyStr.asciiLit "GIF89a"

def webpMagic : Bytes := PyStr.asciiLit "WEBP"

/-- `_SIGNATURES`. -/
def signatures : List Signature :=
  [⟨pngMagic, 0, .png⟩, ⟨jpegMagic, 0, .jpeg⟩, ⟨gif87Magic, 0, .gif⟩,
    ⟨gif89Magic, 0, .gif⟩, ⟨webpMagic, 8, .webp⟩]

/-- `data[offset : offset + len(prefix)] == prefix`. -/
def Signature.found (signature : Signature) (data : Bytes) : Bool :=
  (data.drop signature.offset).take signature.magic.length == signature.magic

/-- `detect_content_type`; an error is the text of a `LogoRejected`. -/
def detectContentType (data : Bytes) : Except String ContentType :=
  if data.isEmpty then .error "the logo is empty"
  else if maxLogoBytes < data.length then
    .error ("the logo exceeds " ++ toString (maxLogoBytes / 1024) ++ " KB")
  else match signatures.find? fun signature => signature.found data with
    | some signature => .ok signature.contentType
    | none =>
        .error "only PNG, JPEG, GIF, and WebP images are accepted (SVG is not)"

/-! ## §2  The branding row -/

structure BrandingRow where
  organizationName : Option PyStr
  logo : Option Bytes
  logoContentType : Option PyStr
  logoSha256 : Option PyStr
  updatedAt : Timestamp

inductive BrandingError where
  | rejected (message : String)
  | database (error : DbError)
deriving DecidableEq, Repr

/-- `_row`: the row with id 1, or a new one. -/
def rowOrNew (now : Timestamp) (stored : Option BrandingRow) : BrandingRow :=
  stored.getD ⟨none, none, none, none, now⟩

def setName (now : Timestamp) (name : Option PyStr)
    (stored : Option BrandingRow) : Except BrandingError BrandingRow :=
  match (name.getD []).strip with
  | [] => .ok { rowOrNew now stored with organizationName := none }
  | cleaned => match cleaned.storeVarchar 120 with
    | none => .error (.database .badText)
    | some text => .ok { rowOrNew now stored with organizationName := some text }

/-- `set_logo`; the flush meets `ck_branding_logo_size`. -/
def setLogo (sha256 : Bytes → Bytes) (now : Timestamp) (data : Bytes)
    (stored : Option BrandingRow) :
    Except BrandingError (ContentType × BrandingRow) := do
  let contentType ← (detectContentType data).mapError .rejected
  if 1048576 < data.length then .error (.database .integrityViolation)
  else .ok (contentType,
    { rowOrNew now stored with
      logo := some data
      logoContentType := some contentType.value
      logoSha256 := some (hexdigest (sha256 data)) })

def clearLogo (now : Timestamp) (stored : Option BrandingRow) : BrandingRow :=
  { rowOrNew now stored with
    logo := none, logoContentType := none, logoSha256 := none }

/-- `load_logo`: what anonymous visitors are served. -/
def loadLogo (stored : Option BrandingRow) : Option (Bytes × PyStr × PyStr) := do
  let row ← stored
  let logo ← row.logo
  some (logo,
    (row.logoContentType.filter fun s => !s.isEmpty).getD
      (PyStr.lit "application/octet-stream"),
    row.logoSha256.getD [])

inductive BrandingAction where
  | setName (now : Timestamp) (name : Option PyStr)
  | setLogo (now : Timestamp) (data : Bytes)
  | clearLogo (now : Timestamp)

/-- The branding table; a call that raises is rolled back. -/
def brandingSystem (sha256 : Bytes → Bytes) :
    System (Option BrandingRow) BrandingAction where
  init stored := stored = none
  step stored
    | .setName now name => (setName now name stored).toOption.map some
    | .setLogo now data =>
        (setLogo sha256 now data stored).toOption.map fun x => some x.2
    | .clearLogo now => some (some (clearLogo now stored))

/-! ## §3  What is accepted -/

/-- The signature of each format, at the start of the data. -/
def CompleteSignature : ContentType → Bytes → Prop
  | .png, data => pngMagic <+: data
  | .jpeg, data => jpegMagic <+: data
  | .gif, data => gif87Magic <+: data ∨ gif89Magic <+: data
  | .webp, data => PyStr.asciiLit "RIFF" <+: data ∧ webpMagic <+: data.drop 8

/-- `WEBP` in its place, in data of no RIFF file and of no other format. -/
structure BareWebp (data : Bytes) : Prop where
  size : data.length ≤ maxLogoBytes
  other : ∀ t, t ≠ .webp → ¬ CompleteSignature t data
  webp : webpMagic <+: data.drop 8
  riff : ¬ PyStr.asciiLit "RIFF" <+: data

variable {data : Bytes} {t : ContentType}

theorem found_eq {magic : Bytes} {offset : ℕ} :
    (Signature.mk magic offset t).found data =
      decide (magic <+: data.drop offset) := by
  unfold Signature.found
  rw [Bool.eq_iff_iff, beq_iff_eq, decide_eq_true_eq, List.prefix_iff_eq_take,
    eq_comm]

/-- **First match.** The formats in the order of the table. -/
theorem find_signature (data : Bytes) :
    (signatures.find? fun s => s.found data).map Signature.contentType =
      if pngMagic <+: data then some .png
      else if jpegMagic <+: data then some .jpeg
      else if gif87Magic <+: data then some .gif
      else if gif89Magic <+: data then some .gif
      else if webpMagic <+: data.drop 8 then some .webp
      else none := by
  simp only [signatures, List.find?_cons, found_eq, List.drop_zero]
  split_ifs with h₁ h₂ h₃ h₄ h₅ <;> simp [*]

theorem detectContentType_eq_ok :
    detectContentType data = .ok t ↔
      data ≠ [] ∧ data.length ≤ maxLogoBytes ∧
        (signatures.find? fun s => s.found data).map Signature.contentType =
          some t := by
  unfold detectContentType
  by_cases hempty : data = []
  · subst hempty
    exact iff_of_false (fun h => nomatch h) fun h => h.1 rfl
  · rw [if_neg (by simpa using hempty)]
    by_cases hsize : maxLogoBytes < data.length
    · rw [if_pos hsize]
      exact iff_of_false (fun h => nomatch h) fun h => absurd h.2.1 (by omega)
    · rw [if_neg hsize]
      cases signatures.find? fun s => s.found data with
      | none => simp
      | some signature => simp [hempty, Nat.le_of_not_lt hsize]

theorem complete_of_detect (h : ¬ BareWebp data)
    (ht : detectContentType data = .ok t) : CompleteSignature t data := by
  obtain ⟨-, hsize, hfind⟩ := detectContentType_eq_ok.mp ht
  rw [find_signature] at hfind
  split_ifs at hfind with hpng hjpeg hgif87 hgif89 hwebp
  · cases hfind
    exact hpng
  · cases hfind
    exact hjpeg
  · cases hfind
    exact Or.inl hgif87
  · cases hfind
    exact Or.inr hgif89
  · cases hfind
    refine ⟨?_, hwebp⟩
    by_contra hriff
    refine h ⟨hsize, ?_, hwebp, hriff⟩
    intro t ht hcomplete
    cases t with
    | png => exact hpng hcomplete
    | jpeg => exact hjpeg hcomplete
    | gif => exact hcomplete.elim hgif87 hgif89
    | webp => exact ht rfl

theorem detect_of_bareWebp (h : BareWebp data) :
    detectContentType data = .ok .webp := by
  have hne : data ≠ [] := by
    rintro rfl
    exact absurd h.webp (by decide)
  have hpng : ¬ pngMagic <+: data := h.other .png (by decide)
  have hjpeg : ¬ jpegMagic <+: data := h.other .jpeg (by decide)
  have hgif : ¬ (gif87Magic <+: data ∨ gif89Magic <+: data) :=
    h.other .gif (by decide)
  refine detectContentType_eq_ok.mpr ⟨hne, h.size, ?_⟩
  rw [find_signature, if_neg hpng, if_neg hjpeg,
    if_neg fun h87 => hgif (Or.inl h87), if_neg fun h89 => hgif (Or.inr h89),
    if_pos h.webp]

/-- No format starts with `<`. -/
theorem CompleteSignature.head (h : CompleteSignature t data) :
    data.head? ≠ some 60 := by
  cases t with
  | png =>
      obtain ⟨rest, rfl⟩ := h
      simp [pngMagic]
  | jpeg =>
      obtain ⟨rest, rfl⟩ := h
      simp [jpegMagic]
  | gif =>
      rcases h with ⟨rest, rfl⟩ | ⟨rest, rfl⟩
      · show some (71 : UInt8) ≠ some 60
        decide
      · show some (71 : UInt8) ≠ some 60
        decide
  | webp =>
      obtain ⟨⟨rest, rfl⟩, -⟩ := h
      show some (82 : UInt8) ≠ some 60
      decide

/-! ## §4  What is stored -/

variable {sha256 : Bytes → Bytes} {now : Timestamp}
  {stored : Option BrandingRow} {row : BrandingRow}

/-- The constraint of the column refuses nothing that is detected. -/
theorem setLogo_eq_ok :
    setLogo sha256 now data stored = .ok (t, row) ↔
      detectContentType data = .ok t ∧
        row = { rowOrNew now stored with
          logo := some data
          logoContentType := some t.value
          logoSha256 := some (hexdigest (sha256 data)) } := by
  unfold setLogo
  rw [bind_eq_ok]
  constructor
  · rintro ⟨t', ht', h⟩
    rw [mapError_eq_ok] at ht'
    split at h
    · cases h
    · cases h
      exact ⟨ht', rfl⟩
  · rintro ⟨ht, rfl⟩
    have hsize : data.length ≤ 1048576 := (detectContentType_eq_ok.mp ht).2.1
    exact ⟨t, mapError_eq_ok.mpr ht, if_neg (by omega)⟩

/-- A stored logo is one of the formats, under its own type. -/
def LogoComplete (row : BrandingRow) : Prop :=
  ∀ logo, row.logo = some logo → logo.head? ≠ some 60 ∧
    ∃ t : ContentType, row.logoContentType = some t.value ∧
      CompleteSignature t logo

/-- The promise of the module for one upload. -/
structure KeepsPromise (data : Bytes) : Prop where
  detected : ∀ t, detectContentType data = .ok t → CompleteSignature t data
  stored : ∀ sha256 now stored t row,
    setLogo sha256 now data stored = .ok (t, row) → LogoComplete row

theorem logoComplete_of_setLogo (h : ¬ BareWebp data)
    (hset : setLogo sha256 now data stored = .ok (t, row)) :
    LogoComplete row := by
  obtain ⟨ht, rfl⟩ := setLogo_eq_ok.mp hset
  rintro _ ⟨⟩
  have hcomplete := complete_of_detect h ht
  exact ⟨hcomplete.head, t, rfl, hcomplete⟩

/-- **The promise.** It is kept for every upload but those that have `WEBP` at
offset 8 and neither `RIFF` at the start nor another signature. -/
theorem keepsPromise_iff (data : Bytes) :
    KeepsPromise data ↔ ¬ BareWebp data := by
  constructor
  · intro hkeeps hbare
    have hcomplete := hkeeps.detected .webp (detect_of_bareWebp hbare)
    exact hbare.riff hcomplete.1
  · intro h
    exact {
      detected := fun t ht => complete_of_detect h ht
      stored := fun _ _ _ _ _ hset => logoComplete_of_setLogo h hset }

/-- An SVG document with a script. -/
def svgLogo : Bytes :=
  PyStr.asciiLit
    "<svg a=\"WEBP\" xmlns=\"http://www.w3.org/2000/svg\"><script>alert(1)</script></svg>"

/-- It is served on the sign-in page. -/
theorem svgLogo_stored (sha256 : Bytes → Bytes) (now : Timestamp) :
    ∃ row, setLogo sha256 now svgLogo none = .ok (.webp, row) ∧
      loadLogo (some row) = some (svgLogo, PyStr.lit "image/webp",
        hexdigest (sha256 svgLogo)) := by
  have hdetect : detectContentType svgLogo = .ok .webp := by decide +kernel
  exact ⟨_, setLogo_eq_ok.mpr ⟨hdetect, rfl⟩, rfl⟩

theorem svgLogo_breaks_promise :
    detectContentType svgLogo = .ok .webp ∧ svgLogo.head? = some 60 ∧
      ¬ KeepsPromise svgLogo := by
  have hdetect : detectContentType svgLogo = .ok .webp := by decide +kernel
  refine ⟨hdetect, rfl, ?_⟩
  intro hkeeps
  exact (hkeeps.detected .webp hdetect).head rfl

/-! ### Runs -/

/-- The uploads of the run have a complete signature where they have `WEBP`. -/
def NoBareWebp : Option BrandingRow → BrandingAction → Prop
  | _, .setLogo _ data => ¬ BareWebp data
  | _, _ => True

theorem rowOrNew_complete (h : ∀ row, stored = some row → LogoComplete row)
    (now : Timestamp) : LogoComplete (rowOrNew now stored) := by
  cases hstored : stored with
  | none =>
      intro logo hlogo
      cases hlogo
  | some row => exact h row hstored

theorem setName_eq_ok {name : Option PyStr}
    (h : setName now name stored = .ok row) :
    ∃ text, row = { rowOrNew now stored with organizationName := text } := by
  unfold setName at h
  split at h
  · exact ⟨none, (Except.ok.inj h).symm⟩
  · split at h
    · cases h
    · exact ⟨_, (Except.ok.inj h).symm⟩

/-- **Step lemma.** -/
theorem brandingStep_complete {a : BrandingAction} {after : Option BrandingRow}
    (h : ∀ row, stored = some row → LogoComplete row) (hg : NoBareWebp stored a)
    (hstep : (brandingSystem sha256).step stored a = some after) :
    ∀ row, after = some row → LogoComplete row := by
  rintro row rfl
  cases a with
  | setName now name =>
      obtain ⟨row', hset, heq⟩ := Option.map_eq_some_iff.mp hstep
      cases heq
      cases hname : setName now name stored with
      | error e =>
          rw [hname] at hset
          cases hset
      | ok named =>
          rw [hname] at hset
          cases hset
          obtain ⟨text, rfl⟩ := setName_eq_ok hname
          exact rowOrNew_complete h now
  | setLogo now data =>
      obtain ⟨⟨t, row'⟩, hset, heq⟩ := Option.map_eq_some_iff.mp hstep
      cases heq
      cases hlogo : setLogo sha256 now data stored with
      | error e =>
          rw [hlogo] at hset
          cases hset
      | ok stored' =>
          rw [hlogo] at hset
          cases hset
          exact logoComplete_of_setLogo hg hlogo
  | clearLogo now =>
      cases hstep
      intro logo hlogo
      cases hlogo

theorem ContentType.value_ne_nil (t : ContentType) : t.value ≠ [] := by
  cases t <;> decide

/-- **Run lemma.** What is served in such a run, if anything, is a complete
image under its own type. -/
theorem served_complete
    (h : (brandingSystem sha256).ReachableUnder NoBareWebp stored) :
    ∀ logo contentType digest,
      loadLogo stored = some (logo, contentType, digest) →
      logo.head? ≠ some 60 ∧ ∃ t : ContentType,
        contentType = t.value ∧ CompleteSignature t logo := by
  have hrow : ∀ row, stored = some row → LogoComplete row := by
    refine h.invariant
      (I := fun stored => ∀ row, stored = some row → LogoComplete row) ?_
      fun s a t hs hg hstep => brandingStep_complete hs hg hstep
    rintro _ rfl row hrow
    cases hrow
  intro logo contentType digest hload
  obtain ⟨row, hstored, hload⟩ := Option.bind_eq_some_iff.mp hload
  obtain ⟨logo', hlogo, heq⟩ := Option.bind_eq_some_iff.mp hload
  cases heq
  obtain ⟨hhead, t, ht, hcomplete⟩ := hrow row hstored logo hlogo
  refine ⟨hhead, t, ?_, hcomplete⟩
  have hvalue : (some t.value).filter (fun s : PyStr => !s.isEmpty) =
      some t.value := by
    simp [Option.filter, t.value_ne_nil]
  rw [ht, hvalue, Option.getD_some]

end LeakcheckHub.Branding
