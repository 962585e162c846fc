import LeakcheckHub.Foundation.PyText

/-!
# CSV text

`csv.writer` with the line terminator `\r\n`, and `csv.reader` over that text,
both in the default dialect: a comma between the fields, quotes around a field
only where it needs them, a quote doubled within. Whatever is written is read
back.

§1 writing · §2 reading · §3 one field · §4 rows.
-/

namespace LeakcheckHub.Foundation.Csv

/-! ## §1  Writing -/

/-- The delimiter, the quote and the line terminator's characters. -/
def special (c : CodePoint) : Bool := c == 44 || c == 34 || c == 13 || c == 10

def quoteChar (c : CodePoint) : PyStr := if c = 34 then [34, 34] else [c]

def quoted (value : PyStr) : PyStr := 34 :: (value.flatMap quoteChar ++ [34])

/-- A field under `QUOTE_MINIMAL`. -/
def writeField (value : PyStr) : PyStr :=
  if value.any special then quoted value else value

/-- The fields behind the first. -/
def writeRest (row : List PyStr) : PyStr :=
  row.flatMap fun value => 44 :: writeField value

/-- `writerow`; a lone empty field is quoted, so that the line is not blank. -/
def writeRow : List PyStr → PyStr
  | [] => [13, 10]
  | [[]] => quoted [] ++ [13, 10]
  | value :: rest => writeField value ++ writeRest rest ++ [13, 10]

/-- `writerow` of one row after the other. -/
def writeRows (rows : List (List PyStr)) : PyStr := rows.flatMap writeRow

/-! ## §2  Reading -/

inductive State
  | startRecord
  | startField
  | inField
  | inQuoted
  | quoteInQuoted
  | afterReturn
  deriving DecidableEq, Repr

/-- The field being read, the fields of its record and the records before. -/
structure Parser where
  state : State
  field : PyStr
  fields : List PyStr
  records : List (List PyStr)
  deriving DecidableEq

def Parser.start : Parser := ⟨.startRecord, [], [], []⟩

def Parser.saveField (p : Parser) : Parser :=
  ⟨.startField, [], p.fields ++ [p.field], p.records⟩

def Parser.endRecord (p : Parser) (state : State) : Parser :=
  ⟨state, [], [], p.records ++ [p.fields]⟩

/-- A return waits for the line feed of the same line end. -/
def lineEnd (c : CodePoint) : Option State :=
  if c = 13 then some .afterReturn else if c = 10 then some .startRecord else none

/-- A character of a field that has not been quoted. -/
def Parser.unquoted (p : Parser) (c : CodePoint) : Parser :=
  match lineEnd c with
  | some state => p.saveField.endRecord state
  | none =>
      if c = 44 then p.saveField
      else ⟨.inField, p.field ++ [c], p.fields, p.records⟩

/-- The first character of a field. -/
def Parser.first (p : Parser) (c : CodePoint) : Parser :=
  if c = 34 then ⟨.inQuoted, p.field, p.fields, p.records⟩ else p.unquoted c

/-- The first character of a record. -/
def Parser.opening (p : Parser) (c : CodePoint) : Parser :=
  match lineEnd c with
  | some state => p.endRecord state
  | none => p.first c

def Parser.feed (p : Parser) (c : CodePoint) : Parser :=
  match p.state with
  | .startRecord => p.opening c
  | .startField => p.first c
  | .inField => p.unquoted c
  | .inQuoted =>
      if c = 34 then ⟨.quoteInQuoted, p.field, p.fields, p.records⟩
      else ⟨.inQuoted, p.field ++ [c], p.fields, p.records⟩
  | .quoteInQuoted =>
      if c = 34 then ⟨.inQuoted, p.field ++ [c], p.fields, p.records⟩
      else p.unquoted c
  | .afterReturn =>
      if c = 10 then ⟨.startRecord, p.field, p.fields, p.records⟩ else p.opening c

/-- The records; a last line need not have an end. -/
def Parser.finish (p : Parser) : List (List PyStr) :=
  match p.state with
  | .startRecord | .afterReturn => p.records
  | _ => p.records ++ [p.fields ++ [p.field]]

def run (p : Parser) (text : PyStr) : Parser := text.foldl Parser.feed p

/-- The rows of `csv.reader`. -/
def read (text : PyStr) : List (List PyStr) := (run Parser.start text).finish

/-! ## §3  One field -/

section Reading

variable {p : Parser} {value : PyStr} {fields : List PyStr}
  {records : List (List PyStr)} {state : State} {c : CodePoint}

theorem run_append (p : Parser) (a b : PyStr) : run p (a ++ b) = run (run p a) b :=
  List.foldl_append

theorem run_cons (p : Parser) (c : CodePoint) (text : PyStr) :
    run p (c :: text) = run (p.feed c) text := rfl

theorem lineEnd_eq_none (h : special c = false) : lineEnd c = none := by
  simp only [special, Bool.or_eq_false_iff, beq_eq_false_iff_ne] at h
  rw [lineEnd, if_neg h.1.2, if_neg h.2]

/-- Nothing more can come that belongs to the field. -/
structure Pending (p : Parser) (fields : List PyStr) (value : PyStr)
    (records : List (List PyStr)) : Prop where
  fields : p.fields = fields
  field : p.field = value
  records : p.records = records
  ends : ∀ c, special c = true → c ≠ 34 → p.feed c = p.unquoted c

theorem unquoted_special (hp : Pending p fields value records) {c : CodePoint}
    (hc : c = 44 ∨ c = 13 ∨ c = 10) : p.feed c = p.unquoted c := by
  rcases hc with rfl | rfl | rfl
  · exact hp.ends 44 rfl (by decide)
  · exact hp.ends 13 rfl (by decide)
  · exact hp.ends 10 rfl (by decide)

/-- Text without special characters is its own field. -/
theorem run_plain (h : value.any special = false) (field : PyStr) :
    run ⟨.inField, field, fields, records⟩ value =
      ⟨.inField, field ++ value, fields, records⟩ := by
  induction value generalizing field with
  | nil => rw [List.append_nil]; rfl
  | cons c rest ih =>
      rw [List.any_cons, Bool.or_eq_false_iff] at h
      have hcomma : c ≠ 44 := by
        rintro rfl
        exact Bool.false_ne_true h.1.symm
      have hfeed : Parser.feed ⟨.inField, field, fields, records⟩ c =
          ⟨.inField, field ++ [c], fields, records⟩ := by
        simp [Parser.feed, Parser.unquoted, lineEnd_eq_none h.1, hcomma]
      rw [run_cons, hfeed, ih h.2, List.append_assoc]
      rfl

/-- Quoted text is read to its closing quote. -/
theorem run_quoted (value field : PyStr) :
    run ⟨.inQuoted, field, fields, records⟩ (value.flatMap quoteChar) =
      ⟨.inQuoted, field ++ value, fields, records⟩ := by
  induction value generalizing field with
  | nil => rw [List.append_nil]; rfl
  | cons c rest ih =>
      have hstep : run ⟨.inQuoted, field, fields, records⟩ (quoteChar c) =
          ⟨.inQuoted, field ++ [c], fields, records⟩ := by
        unfold quoteChar
        split
        · rename_i hc
          subst hc
          rfl
        · rename_i hc
          simp [run, Parser.feed, hc]
      rw [List.flatMap_cons, run_append, hstep, ih, List.append_assoc]
      rfl

theorem pending_quoted (hfirst : state = .startField ∨ state = .startRecord) :
    Pending (run ⟨state, [], fields, records⟩ (quoted value)) fields value
      records := by
  have hopen : Parser.feed ⟨state, [], fields, records⟩ 34 =
      ⟨.inQuoted, [], fields, records⟩ := by
    rcases hfirst with rfl | rfl <;> rfl
  rw [quoted, run_cons, hopen, run_append, run_quoted, List.nil_append]
  refine ⟨rfl, rfl, rfl, fun c _ hc => ?_⟩
  simp [run, Parser.feed, hc]

/-- A written field, wherever a field can start. Only an empty one that starts
a record leaves the parser where it was. -/
theorem pending_writeField (hfirst : state = .startField ∨
      state = .startRecord ∧ value ≠ []) :
    Pending (run ⟨state, [], fields, records⟩ (writeField value)) fields value
      records := by
  unfold writeField
  split
  · exact pending_quoted (hfirst.imp_right And.left)
  rename_i hplain
  have hplain := Bool.eq_false_iff.mpr hplain
  cases value with
  | nil =>
      rcases hfirst with rfl | ⟨-, hne⟩
      · refine ⟨rfl, rfl, rfl, fun c _ hc => ?_⟩
        simp [run, Parser.feed, Parser.first, hc]
      · exact absurd rfl hne
  | cons c rest =>
      rw [List.any_cons, Bool.or_eq_false_iff] at hplain
      have hne := hplain.1
      simp only [special, Bool.or_eq_false_iff, beq_eq_false_iff_ne] at hne
      have hfeed : Parser.feed ⟨state, [], fields, records⟩ c =
          ⟨.inField, [c], fields, records⟩ := by
        have hline := lineEnd_eq_none hplain.1
        rcases hfirst with rfl | ⟨rfl, -⟩
        · simp [Parser.feed, Parser.first, Parser.unquoted, hline, hne.1]
        · simp [Parser.feed, Parser.opening, Parser.first, Parser.unquoted, hline,
            hne.1]
      rw [run_cons, hfeed, run_plain hplain.2]
      exact ⟨rfl, rfl, rfl, fun _ _ _ => rfl⟩

/-! ## §4  Rows -/

/-- The fields behind one that has been read, and the end of the line. -/
theorem run_writeRest (row : List PyStr) (hp : Pending p fields value records) :
    run p (writeRest row ++ [13, 10]) =
      ⟨.startRecord, [], [], records ++ [fields ++ value :: row]⟩ := by
  induction row generalizing p fields value with
  | nil =>
      rw [writeRest, List.flatMap_nil, List.nil_append, run_cons,
        unquoted_special hp (.inr (.inl rfl))]
      simp [run, Parser.unquoted, lineEnd, Parser.saveField, Parser.endRecord,
        Parser.feed, hp.fields, hp.field, hp.records]
  | cons next rest ih =>
      have hcomma : p.feed 44 = ⟨.startField, [], fields ++ [value], records⟩ := by
        rw [unquoted_special hp (.inl rfl)]
        simp [Parser.unquoted, lineEnd, Parser.saveField, hp.fields, hp.field,
          hp.records]
      have hfield : Pending (run ⟨.startField, [], fields ++ [value], records⟩
          (writeField next)) (fields ++ [value]) next records :=
        pending_writeField (.inl rfl)
      have hrest := ih hfield
      rw [writeRest, List.flatMap_cons, List.cons_append, List.cons_append, run_cons,
        hcomma, List.append_assoc, run_append]
      rw [writeRest] at hrest
      rw [hrest, List.append_assoc]
      rfl

/-- A written row is read as one record. -/
theorem run_writeRow (row : List PyStr) (records : List (List PyStr)) :
    run ⟨.startRecord, [], [], records⟩ (writeRow row) =
      ⟨.startRecord, [], [], records ++ [row]⟩ := by
  unfold writeRow
  split
  · rfl
  · rw [run_append]
    exact run_writeRest [] (pending_quoted (.inr rfl))
  · rename_i value rest hne
    rw [List.append_assoc, run_append]
    by_cases hvalue : value = []
    · -- The comma behind an empty first field starts the record.
      subst hvalue
      cases rest with
      | nil => exact absurd rfl (hne rfl)
      | cons next rest =>
          have hcomma : run ⟨.startRecord, [], [], records⟩ (44 :: writeField next) =
              run ⟨.startField, [], [[]], records⟩ (writeField next) := rfl
          have hfield : Pending (run ⟨.startField, [], [[]], records⟩
              (writeField next)) [[]] next records :=
            pending_writeField (.inl rfl)
          have hrest := run_writeRest rest hfield
          rw [writeRest] at hrest ⊢
          rw [List.flatMap_cons, List.append_assoc, run_append]
          refine Eq.trans ?_ hrest
          rw [← hcomma]
          rfl
    · exact run_writeRest rest (pending_writeField (.inr ⟨rfl, hvalue⟩))

theorem run_writeRows (rows records : List (List PyStr)) :
    run ⟨.startRecord, [], [], records⟩ (writeRows rows) =
      ⟨.startRecord, [], [], records ++ rows⟩ := by
  induction rows generalizing records with
  | nil => rw [List.append_nil]; rfl
  | cons row rest ih =>
      rw [writeRows, List.flatMap_cons, run_append, run_writeRow]
      exact (ih _).trans (by rw [List.append_assoc]; rfl)

/-- Whatever rows are written, they are read back. -/
theorem read_writeRows (rows : List (List PyStr)) : read (writeRows rows) = rows := by
  have hrun := run_writeRows rows []
  rw [read, Parser.start, hrun]
  rfl

end Reading

end LeakcheckHub.Foundation.Csv
