import SchemaBridge.Command
import SchemaBridge.Proofs.Hive.Column
import SchemaBridge.Proofs.Json.Printing
import SchemaBridge.Proofs.Source.Import
import SchemaBridge.Proofs.Wire.RoundTrip

/-!
# The output of the command

`outcome p printed`: what a computation that prints comes to, and what has been printed then. Computations
before the output print nothing (`Silent`), and output does not fail, so that a run that fails has printed
nothing (`stopsSilently_perform`). Where everything up to the import of a schema text succeeds (`Asks`), a run
comes to what `report` does (`Asks.runOver_eq`).

Main statement: `formats_agree`, the formats are about the same record and the same columns.
-/

namespace SchemaBridge

/-! ## Values that are printed -/

namespace Wire

theorem integral_strings (texts : List String) : (Json.strings texts).Integral := by
  rw [Json.strings, Json.integral_array_iff, List.forall_mem_map]
  exact fun _ _ => trivial

theorem integral_encodeFields {fields : List Field} (ih : ∀ f ∈ fields, (encodeType f.type).Integral) :
    Json.IntegralItems (encodeFields fields) := by
  induction fields with
  | nil => trivial
  | cons f fields ihf =>
    obtain ⟨head, tail⟩ := List.forall_mem_cons.1 ih
    rw [encodeFields]
    exact ⟨⟨trivial, head, trivial, trivial⟩, ihf tail⟩

/-- Numbers in what a data type is written as are integers. -/
theorem integral_encodeType (t : DataType) : (encodeType t).Integral := by
  induction t using DataType.induction with
  | primitive t ht =>
    cases t with
    | record | array | map => cases ht
    | enumeration symbols => exact ⟨trivial, integral_strings symbols, trivial⟩
    | decimal | char | varchar => simp [encodeType, Json.Integral, Json.IntegralMembers, Json.uint32, Json.nat]
    | _ => exact ⟨trivial, trivial⟩
  | record fields ih =>
    rw [encodeType]
    exact ⟨trivial, integral_encodeFields ih, trivial⟩
  | array element ih =>
    rw [encodeType]
    exact ⟨trivial, ih, trivial⟩
  | map key value ihk ihv =>
    rw [encodeType]
    exact ⟨trivial, ihk, ihv, trivial⟩

theorem integral_encodeColumns (columns : List Hive.Column) : (encodeColumns columns).Integral := by
  rw [encodeColumns, Json.integral_array_iff, List.forall_mem_map]
  rintro ⟨name, type, comment, nullable⟩ -
  cases comment <;> simp [encodeColumn, Json.integral_object_iff, Json.Integral]

/-- Columns that have been written are read back. -/
theorem decodeColumns_encodeColumns (columns : List Hive.Column) :
    decodeList decodeColumn (encodeColumns columns) = .ok columns := by
  rw [decodeList_eq_ok_iff]
  refine ⟨_, rfl, ?_⟩
  rw [List.forall₂_map_left_iff, List.forall₂_same]
  exact fun c _ => decodeColumn_encodeColumn c

end Wire

namespace Command

/-! ## Outcomes -/

/-- What a computation that prints comes to over files that do not change, and what is printed then, if
something has been printed before it. -/
def outcome {α : Type} (p : Printing Id α) (printed : String) : Except Failure α × String :=
  p.run.run printed

section
variable {α β : Type} {p : Printing Id α} {f : α → Printing Id β}

theorem outcome_say (text printed : String) : outcome (say text) printed = (.ok (), printed ++ text) := rfl

theorem outcome_bind (p : Printing Id α) (f : α → Printing Id β) (printed : String) :
    outcome (p >>= f) printed = match outcome p printed with
      | (.ok a, printed') => outcome (f a) printed'
      | (.error e, printed') => (.error e, printed') := by
  unfold outcome
  rw [ExceptT.run_bind, StateT.run_bind]
  obtain ⟨_ | a, printed'⟩ := p.run.run printed <;> rfl

/-- It prints nothing. -/
def Silent (p : Printing Id α) : Prop := ∀ printed, (outcome p printed).2 = printed

/-- If it fails it has printed nothing. -/
def StopsSilently (p : Printing Id α) : Prop :=
  ∀ printed e printed', outcome p printed = (.error e, printed') → printed' = printed

theorem Silent.stopsSilently (h : Silent p) : StopsSilently p := by
  intro printed e printed' he
  rw [← h printed, he]

theorem stopsSilently_say (text : String) : StopsSilently (say text) := by
  intro printed e printed' he
  rw [outcome_say] at he
  cases he

/-- Output after a computation that prints nothing. -/
theorem Silent.bind (hp : Silent p) (hf : ∀ a, StopsSilently (f a)) : StopsSilently (p >>= f) := by
  intro printed e printed' he
  have hs := hp printed
  rw [outcome_bind] at he
  generalize outcome p printed = r at he hs
  obtain ⟨_ | a, s⟩ := r
  · cases he
    exact hs
  · rw [hf a s e printed' he]
    exact hs

end

theorem silent_throw {α : Type} (e : Failure) : Silent (throw e : Printing Id α) := fun _ => rfl

theorem silent_liftExcept {α : Type} (r : Except Failure α) : Silent (liftM r) := fun _ => rfl

theorem silent_liftFiles {α : Type} (r : Id α) : Silent (liftM r) := fun _ => rfl

/-! ## Printing a record -/

/-- Columns in text are all printed, each on a line. -/
theorem outcome_lines (columns : List Hive.Column) (printed : String) :
    outcome (columns.forM fun column => say (columnLine column)) printed =
      (.ok (), printed ++ String.join (columns.map columnLine)) := by
  induction columns generalizing printed with
  | nil =>
    rw [List.map_nil, String.join_nil, String.append_empty]
    rfl
  | cons column columns ih =>
    have hcons : ((column :: columns).forM fun column => say (m := Id) (columnLine column)) =
        (say (columnLine column) >>= fun _ => columns.forM fun column => say (columnLine column)) := rfl
    rw [hcons, outcome_bind, outcome_say]
    simp only [ih, List.map_cons, String.join_cons, String.append_assoc]

theorem stopsSilently_printRecord (policies : HivePolicies) (format : Format) (r : Record) :
    StopsSilently (printRecord policies format r) := by
  cases format with
  | model => exact stopsSilently_say _
  | json => exact (silent_liftExcept _).bind fun columns => stopsSilently_say _
  | text =>
    refine (silent_liftExcept _).bind fun columns printed e printed' he => ?_
    rw [outcome_lines] at he
    cases he

theorem stopsSilently_report (settings : Settings) (format : Format) (path text : String) :
    StopsSilently (report settings format path text) := by
  unfold report
  split
  · exact (silent_throw _).stopsSilently
  · exact stopsSilently_printRecord _ _ _

section
variable (files : String → Option String)

theorem stopsSilently_answer (request : Request) (settings : Settings) :
    StopsSilently (answer (m := Id) files request settings) := by
  unfold answer
  split
  · exact stopsSilently_say _
  · split
    · exact (silent_throw _).stopsSilently
    · refine (silent_liftFiles _).bind fun text? => ?_
      cases text? with
      | none => exact (silent_throw _).stopsSilently
      | some text => exact stopsSilently_report _ _ _ _

/-- **Whatever the arguments and the files are, nothing is printed before a failure.** -/
theorem stopsSilently_perform (args : List String) : StopsSilently (perform (m := Id) files args) := by
  unfold perform
  split
  · exact (silent_throw _).stopsSilently
  · split
    · exact stopsSilently_say _
    · refine (silent_liftFiles _).bind fun settings? => ?_
      cases settings? with
      | error failure => exact (silent_throw _).stopsSilently
      | ok settings => exact stopsSilently_answer _ _ _

end

/-! ## Runs -/

/-- The command over files that do not change. -/
def runOver (files : String → Option String) (args : List String) : Except Stop String :=
  run (m := Id) files args

/-- An outcome as the result of a run. -/
def result : Except Failure Unit × String → Except Stop String
  | (.ok (), printed) => .ok printed
  | (.error failure, printed) => .error ⟨printed, failure⟩

section
variable {files : String → Option String} {args : List String}

theorem runOver_eq : runOver files args = result (outcome (perform (m := Id) files args) "") := by
  unfold runOver run outcome
  obtain ⟨_ | _, printed⟩ := (perform (m := Id) files args).run.run "" <;> rfl

/-- The arguments ask for the file `path` in a format, its text can be read, and so can the settings. -/
def Asks (files : String → Option String) (args : List String) (settings : Settings) (format : Format)
    (path text : String) : Prop :=
  ∃ config, parse args = .ok { schema := some path, config := config, format := format } ∧
    (loadSettings (m := Id) files config : Except Failure Settings) = .ok settings ∧ files path = some text

theorem Asks.runOver_eq {settings : Settings} {format : Format} {path text : String}
    (h : Asks files args settings format path text) :
    runOver files args = result (outcome (report settings format path text) "") := by
  obtain ⟨config, hp, hl, hf⟩ := h
  have hperform : perform (m := Id) files args = report settings format path text := by
    have hl' : loadSettings (m := Id) files config = pure (.ok settings) := hl
    have hf' : files path = (pure (some text) : Id (Option String)) := hf
    unfold perform
    rw [hp]
    simp [answer, hl', hf']
  rw [Command.runOver_eq, hperform]

/-- A run that fails has printed nothing, and its exit code says that it failed. -/
theorem stops_of_runOver {stop : Stop} (h : runOver files args = .error stop) :
    stop.printed = "" ∧ stop.code ≠ 0 := by
  rw [runOver_eq] at h
  have hs := stopsSilently_perform files args ""
  generalize outcome (perform (m := Id) files args) "" = r at h hs
  obtain ⟨failure | _, printed⟩ := r
  · cases h
    refine ⟨hs _ _ rfl, ?_⟩
    cases failure <;> simp [Stop.code, Failure.code]
  · cases h

end

/-! ## The formats -/

/-- The run succeeds, and its output is a JSON value that decodes to this value. -/
def PrintsJson {α : Type} (run : Except Stop String) (decode : Json → Except Wire.Mismatch α) (a : α) :
    Prop :=
  ∃ out j, run = .ok out ∧ Json.read? out = some j ∧ decode j = .ok a

/-- The line about the column of a field. -/
def fieldLine (f : Field) (c : Hive.Column) : String :=
  c.name ++ " " ++ c.type ++ (if f.nullable then "" else " NOT NULL") ++ "\n"

section
variable {policies : HivePolicies} {r : Record} {columns : List Hive.Column}

theorem prints_model (hr : r.toType.WellFormed) :
    PrintsJson (result (outcome (printRecord policies .model r) "")) (Wire.decodeType false) r.toType := by
  have hout : result (outcome (printRecord policies .model r) "") =
      .ok ((Wire.encodeType r.toType).pretty ++ "\n") := by
    rw [printRecord, sayJson, outcome_say, String.empty_append]
    rfl
  exact ⟨_, _, hout, Json.read?_pretty (Wire.integral_encodeType _), Wire.decodeType_encodeType hr⟩

theorem prints_json (h : Hive.columns policies r.fields = .ok columns) :
    PrintsJson (result (outcome (printRecord policies .json r) "")) (Wire.decodeList Wire.decodeColumn)
      columns := by
  have hout : result (outcome (printRecord policies .json r) "") =
      .ok ((Wire.encodeColumns columns).pretty ++ "\n") := by
    rw [printRecord, h]
    show Except.ok ("" ++ _) = _
    rw [String.empty_append]
  exact ⟨_, _, hout, Json.read?_pretty (Wire.integral_encodeColumns _), Wire.decodeColumns_encodeColumns _⟩

/-- A column has the nullability of its field. -/
theorem map_columnLine {fields : List Field}
    (h : fields.Forall₂ (Hive.Column.ofField policies · = .ok ·) columns) :
    columns.map columnLine = List.zipWith fieldLine fields columns := by
  induction h with
  | nil => rfl
  | cons hc _ ih =>
    obtain ⟨text, -, rfl⟩ := Hive.Column.ofField_eq_ok_iff.1 hc
    rw [List.map_cons, List.zipWith_cons_cons, ih]
    rfl

theorem result_text (h : Hive.columns policies r.fields = .ok columns) :
    result (outcome (printRecord policies .text r) "") =
      .ok (String.join (List.zipWith fieldLine r.fields columns)) := by
  rw [printRecord, h, ← map_columnLine (Hive.columns_eq_ok_iff.1 h).2]
  show result (outcome (columns.forM fun column => say (columnLine column)) "") = _
  rw [outcome_lines, String.empty_append]
  rfl

theorem result_of_error {e : SchemaError} (h : Hive.columns policies r.fields = .error e) :
    result (outcome (printRecord policies .json r) "") = .error ⟨"", .schema e⟩ ∧
      result (outcome (printRecord policies .text r) "") = .error ⟨"", .schema e⟩ := by
  rw [printRecord, printRecord, h]
  exact ⟨rfl, rfl⟩

end

/-- **The formats are about one record, and failures print nothing.** A run that fails has printed nothing. If
the schema text is refused, every format fails. Otherwise the type of its record is printed as JSON, and either
its columns are printed as JSON and as text, or both formats fail with the error about the columns. -/
theorem formats_agree (files : String → Option String) :
    (∀ args stop, runOver files args = .error stop → stop.printed = "" ∧ stop.code ≠ 0) ∧
    ∀ settings path text (ask : Format → List String),
      (∀ format, Asks files (ask format) settings format path text) →
      (∀ e, Parquet.recordOfMessage settings.source text = .error e →
        ∀ format, runOver files (ask format) = .error ⟨"", .importing path⟩) ∧
      ∀ r, Parquet.recordOfMessage settings.source text = .ok r →
        PrintsJson (runOver files (ask .model)) (Wire.decodeType false) r.toType ∧
        (∀ e, Hive.columns settings.hive r.fields = .error e →
          runOver files (ask .json) = .error ⟨"", .schema e⟩ ∧
          runOver files (ask .text) = .error ⟨"", .schema e⟩) ∧
        ∀ columns, Hive.columns settings.hive r.fields = .ok columns →
          PrintsJson (runOver files (ask .json)) (Wire.decodeList Wire.decodeColumn) columns ∧
          columns.length = r.fields.length ∧
          runOver files (ask .text) = .ok (String.join (List.zipWith fieldLine r.fields columns)) := by
  refine ⟨fun args stop => stops_of_runOver, fun settings path text ask hask => ⟨?_, ?_⟩⟩
  · intro e he format
    rw [(hask format).runOver_eq, report, he]
    rfl
  · intro r hr
    have hreport : ∀ format, runOver files (ask format) =
        result (outcome (printRecord settings.hive format r) "") := by
      intro format
      rw [(hask format).runOver_eq, report, hr]
    have hwf : r.toType.WellFormed := by
      obtain ⟨root, -, hroot⟩ := bind_eq_ok_iff.1 hr
      exact Source.wellFormed_recordOf hroot
    simp only [hreport]
    exact ⟨prints_model hwf, fun e => result_of_error, fun columns h =>
      ⟨prints_json h, (Hive.columns_eq_ok_iff.1 h).2.length_eq.symm, result_text h⟩⟩

def visitsText : String := "message visits \x7b required int32 n; optional binary page (UTF8); \x7d"

def visits : Record :=
  ⟨[⟨"n", .int32, false⟩, ⟨"page", .string, true⟩], by constructor <;> decide⟩

def visitColumns : List Hive.Column := [⟨"n", "int", none, false⟩, ⟨"page", "string", none, true⟩]

/-- A schema whose columns are refused. -/
def timesText : String := "message times \x7b required int32 n; required int32 at (TIME_MILLIS); \x7d"

def times : Record :=
  ⟨[⟨"n", .int32, false⟩, ⟨"at", .timeMillis, false⟩], by constructor <;> decide⟩

def timesError : SchemaError :=
  .unsupportedTarget "time_millis" "hive" "no exact counterpart and widening is disabled" "at"

def sampleFiles : String → Option String
  | "visits" => some visitsText
  | "times" => some timesText
  | "empty" => some ""
  | _ => none

def sampleArgs (path : String) : Format → List String
  | .text => [path]
  | .json => ["--format=json", path]
  | .model => [path, "-fmodel"]

theorem asks_sampleArgs (path : String) {text : String} (hp : path ∈ ["visits", "times", "empty"])
    (ht : sampleFiles path = some text) (format : Format) :
    Asks sampleFiles (sampleArgs path format) {} format path text := by
  refine ⟨none, ?_, rfl, ht⟩
  simp only [List.mem_cons, List.not_mem_nil, or_false] at hp
  rcases hp with rfl | rfl | rfl <;> cases format <;> decide +kernel

theorem formats_agree_on_samples :
    (∀ format, Asks sampleFiles (sampleArgs "visits" format) {} format "visits" visitsText ∧
      Asks sampleFiles (sampleArgs "times" format) {} format "times" timesText ∧
      Asks sampleFiles (sampleArgs "empty" format) {} format "empty" "") ∧
    PrintsJson (runOver sampleFiles (sampleArgs "visits" .model)) (Wire.decodeType false) visits.toType ∧
    PrintsJson (runOver sampleFiles (sampleArgs "visits" .json)) (Wire.decodeList Wire.decodeColumn)
      visitColumns ∧
    runOver sampleFiles (sampleArgs "visits" .text) = .ok "n int NOT NULL\npage string\n" ∧
    PrintsJson (runOver sampleFiles (sampleArgs "times" .model)) (Wire.decodeType false) times.toType ∧
    runOver sampleFiles (sampleArgs "times" .json) = .error ⟨"", .schema timesError⟩ ∧
    runOver sampleFiles (sampleArgs "times" .text) = .error ⟨"", .schema timesError⟩ ∧
    Stop.code ⟨"", .schema timesError⟩ ≠ 0 ∧
    ∀ format, runOver sampleFiles (sampleArgs "empty" format) = .error ⟨"", .importing "empty"⟩ := by
  obtain ⟨hstop, hall⟩ := formats_agree sampleFiles
  have hvisits := asks_sampleArgs "visits" (by decide) rfl
  have htimes := asks_sampleArgs "times" (by decide) rfl
  have hempty := asks_sampleArgs "empty" (by decide) rfl
  have hrecord : Parquet.recordOfMessage {} visitsText = .ok visits := by decide +kernel
  have hcolumns : Hive.columns {} visits.fields = .ok visitColumns := by decide +kernel
  have htimesRecord : Parquet.recordOfMessage {} timesText = .ok times := by decide +kernel
  have hrefused : Hive.columns {} times.fields = .error timesError := by decide +kernel
  have hnone : Parquet.recordOfMessage {} "" =
      .error (.sourceSchema "Parquet error: Message type does not start with 'message'") := by
    decide +kernel
  obtain ⟨hmodel, -, hlisted⟩ := (hall _ _ _ _ hvisits).2 visits hrecord
  obtain ⟨hjson, -, htext⟩ := hlisted visitColumns hcolumns
  obtain ⟨hmodel', hfail, -⟩ := (hall _ _ _ _ htimes).2 times htimesRecord
  obtain ⟨hjson', htext'⟩ := hfail timesError hrefused
  have hlines : String.join (List.zipWith fieldLine visits.fields visitColumns) =
      "n int NOT NULL\npage string\n" := by decide +kernel
  rw [hlines] at htext
  exact ⟨fun format => ⟨hvisits format, htimes format, hempty format⟩, hmodel, hjson, htext, hmodel', hjson',
    htext', (hstop _ _ htext').2, (hall _ _ _ _ hempty).1 _ hnone⟩

end Command

end SchemaBridge
