import AddOnLoan.Proofs.CommandLine.Effects
import AddOnLoan.Proofs.CommandLine.FileNames
import AddOnLoan.Proofs.Outcome

namespace AddOnLoan

variable {path : Text} {values : OptionValues} {s : Schedule} {entry : CurrencyEntry}
  {command : Command} {effects : List Effect} {what text : String} {r left : Remains}
  {faults : Faults} {fault : Fault}

theorem CommandError.exitCode_ne_zero (e : CommandError) : e.exitCode ≠ 0 := by
  unfold exitCode
  split <;> decide

def Text.IsLine (t : Text) : Prop := ∃ line : Text, t = line ++ "\n" ∧ line.holds '\n' = false

theorem Text.IsLine.not_mem {t : Text} (h : t.IsLine) : .char '\n' ∉ t.points.dropLast := by
  obtain ⟨line, rfl, hline⟩ := h
  rw [Bool.eq_false_iff, Ne, Text.holds_iff] at hline
  rwa [Text.points_append, show ("\n" : Text).points = [.char '\n'] from rfl, List.dropLast_concat]

/-- A file holds a text, and a message tells of it. The message is a line unless the name of the
file has a line end in it. -/
structure Remains.Confirms (r : Remains) (what : String) (path : Text) (text : String) :
    Prop where
  stdout : r.stdout = Command.confirmation what path
  line : path.holds '\n' = false → r.stdout.IsLine
  files : r.files = [(path, text)]

namespace Command

def view (s : Schedule) (entry : CurrencyEntry) : Command → Text
  | schedule => s.summary entry.symbol ++ s.table
  | summary => s.summary entry.symbol

inductive Export (values : OptionValues) (s : Schedule) (entry : CurrencyEntry) (path : Text) :
    Command → String → String → Prop
  | json {value : Json} (hending : lower (pathEnding path) = ".json".toList)
    (hvalue : s.inShape entry ((values.text? "--shape").getD Shape.rich.name) = .ok value) :
    Export values s entry path .schedule "Schedule" value.indented
  | csv (hending : lower (pathEnding path) = ".csv".toList) :
    Export values s entry path .schedule "Schedule" s.csv
  | totals {view : RichView} (hending : lower (pathEnding path) = ".json".toList)
    (hview : RichView.assemble s entry = .ok view) :
    Export values s entry path .summary "Summary" view.summaryJson.indented

theorem Export.holds_lineEnd (h : Export values s entry path command what text) :
    (what : Text).holds '\n' = false := by
  cases h <;> rfl

theorem isLine_confirmation (hwhat : (what : Text).holds '\n' = false)
    (hpath : path.holds '\n' = false) : (confirmation what path).IsLine := by
  refine ⟨_, rfl, Text.holds_withoutControls ?_⟩
  rw [Text.holds_append, Text.holds_append, hwhat, hpath]
  rfl

theorem join_singleton (text : String) : String.join [text] = text := by
  rw [String.join_cons, String.join_nil, String.append_empty]

theorem exportSchedule_eq_ok
    (h : exportSchedule s entry ((values.text? "--shape").getD Shape.rich.name) path =
      .ok effects) :
    ∃ what parts, Export values s entry path .schedule what (String.join parts) ∧
      effects = exported what (plainPath path) parts := by
  unfold exportSchedule at h
  dsimp only at h
  split_ifs at h with hjson hcsv
  · obtain ⟨value, hvalue, h⟩ := bind_eq_ok_iff.1 h
    cases h
    have hexport : Export values s entry path .schedule "Schedule" value.indented :=
      .json hjson (mapError_eq_ok_iff.1 hvalue)
    exact ⟨_, [value.indented], by rwa [join_singleton], rfl⟩
  · cases h
    exact ⟨_, _, .csv hcsv, rfl⟩

theorem exportSummary_eq_ok (values : OptionValues) (h : exportSummary s entry path = .ok effects) :
    ∃ what parts, Export values s entry path .summary what (String.join parts) ∧
      effects = exported what (plainPath path) parts := by
  unfold exportSummary at h
  split_ifs at h with hjson
  obtain ⟨view, hview, h⟩ := bind_eq_ok_iff.1 h
  cases h
  have hexport : Export values s entry path .summary "Summary" view.summaryJson.indented :=
    .totals hjson (mapError_eq_ok_iff.1 hview)
  exact ⟨_, [view.summaryJson.indented], by rwa [join_singleton], rfl⟩

theorem ofLines_view (s : Schedule) (entry : CurrencyEntry) :
    Text.ofLines (s.summaryLines entry.symbol ++ s.tableLines) = view s entry .schedule := by
  rw [← Text.points_inj]
  simp only [view, Schedule.summary, Schedule.table, Text.points_append, Text.points_ofLines,
    List.flatMap_append]

theorem effects_eq_ok (h : command.effects values s entry = .ok effects) :
    (givenText (values.text? "--output") = none ∧
      ∃ lines, effects = printed lines ∧ .ofLines lines = view s entry command) ∨
      ∃ path what parts, givenText (values.text? "--output") = some path ∧
        Export values s entry path command what (String.join parts) ∧
        effects = exported what (plainPath path) parts := by
  unfold Command.effects at h
  cases houtput : givenText (values.text? "--output") with
  | none =>
    rw [houtput] at h
    cases command <;> cases h
    · exact .inl ⟨rfl, _, rfl, ofLines_view s entry⟩
    · exact .inl ⟨rfl, _, rfl, rfl⟩
  | some path =>
    rw [houtput] at h
    cases command with
    | schedule =>
      obtain ⟨what, parts, hexport, heffects⟩ := exportSchedule_eq_ok h
      exact .inr ⟨path, what, parts, rfl, hexport, heffects⟩
    | summary =>
      obtain ⟨what, parts, hexport, heffects⟩ := exportSummary_eq_ok values h
      exact .inr ⟨path, what, parts, rfl, hexport, heffects⟩

/-- What a command leaves behind when it has done its work: the full view and no file, or one whole
file. -/
inductive Leaves (command : Command) (values : OptionValues) (s : Schedule)
    (entry : CurrencyEntry) (r : Remains) : Prop
  | shown (houtput : givenText (values.text? "--output") = none)
    (hstdout : r.stdout = view s entry command) (hfiles : r.files = [])
  | exported {path : Text} {what text : String}
    (houtput : givenText (values.text? "--output") = some path)
    (hexport : Export values s entry path command what text)
    (hconfirms : r.Confirms what (plainPath path) text)
    (hplain : path.holds '/' = false → plainPath path = path)

/-- What a command leaves behind when its work breaks off: a beginning of the view, or nothing if
the file cannot be opened, or the file with a beginning of its text, or the whole file with a
beginning of what is said of it. -/
inductive BreaksOff (command : Command) (values : OptionValues) (s : Schedule)
    (entry : CurrencyEntry) (r : Remains) : Prop
  | showing (houtput : givenText (values.text? "--output") = none)
    (hstdout : r.stdout.points <+: (view s entry command).points) (hfiles : r.files = [])
  | opening {path : Text} {what text : String}
    (houtput : givenText (values.text? "--output") = some path)
    (hexport : Export values s entry path command what text)
    (hstdout : r.stdout = "") (hfiles : r.files = [])
  | writing {path : Text} {what text written : String}
    (houtput : givenText (values.text? "--output") = some path)
    (hexport : Export values s entry path command what text)
    (hstdout : r.stdout = "") (hfiles : r.files = [(plainPath path, written)])
    (hwritten : written.toList <+: text.toList)
  | confirming {path : Text} {what text : String}
    (houtput : givenText (values.text? "--output") = some path)
    (hexport : Export values s entry path command what text)
    (hstdout : r.stdout.points <+: (confirmation what (plainPath path)).points)
    (hfiles : r.files = [(plainPath path, text)])

theorem plainPath_of_given (houtput : givenText (values.text? "--output") = some path)
    (hslash : path.holds '/' = false) : plainPath path = path :=
  plainPath_eq hslash (Bool.eq_false_iff.2 (by simpa using (Option.filter_eq_some_iff.1 houtput).2))

theorem leaves_of_effects (h : command.effects values s entry = .ok effects) (hfiles : r.files = [])
    (hstdout : r.stdout = "") : command.Leaves values s entry (r.afterAll effects) := by
  rcases effects_eq_ok h with
    ⟨houtput, lines, rfl, hview⟩ | ⟨path, what, parts, houtput, hexport, rfl⟩
  · rw [Remains.afterAll_printed, hstdout, Text.empty_append, hview]
    exact .shown houtput rfl hfiles
  · rw [Remains.afterAll_exported hfiles hstdout]
    exact .exported houtput hexport
      ⟨rfl, fun hline => isLine_confirmation hexport.holds_lineEnd hline, rfl⟩
      (plainPath_of_given houtput)

theorem breaksOff_of_effects (h : command.effects values s entry = .ok effects)
    (hfiles : r.files = []) (hstdout : r.stdout = "")
    (hbreaks : Remains.Breaks faults r effects fault left) :
    command.BreaksOff values s entry left := by
  rcases effects_eq_ok h with
    ⟨houtput, lines, rfl, hview⟩ | ⟨path, what, parts, houtput, hexport, rfl⟩
  · have hprefix := hbreaks.stdout_prefix
    rw [Remains.afterAll_printed, hstdout, Text.empty_append, hview] at hprefix
    exact .showing houtput hprefix ((hbreaks.files_of_spoken (printed_spoken lines)).trans hfiles)
  · rcases hbreaks.of_exported hfiles hstdout with
      rfl | ⟨written, hwritten, rfl⟩ | ⟨said, hsaid, rfl⟩
    · exact .opening houtput hexport hstdout hfiles
    · exact .writing houtput hexport hstdout rfl hwritten
    · exact .confirming houtput hexport hsaid rfl

end Command

theorem Arguments.readingOrder_of_pairwise {a : Arguments} {specs : List OptionSpec}
    {given : List String} (hgiven : a.options.map (·.1.long) = given)
    (h : (specs.filter (given.contains ·.long)).Pairwise
      fun s t => given.idxOf s.long ≤ given.idxOf t.long) :
    a.readingOrder specs =
      specs.filter (given.contains ·.long) ++ specs.filter (!given.contains ·.long) := by
  unfold readingOrder
  rw [hgiven]
  dsimp only
  rw [List.mergeSort_of_pairwise (h.imp fun hle => decide_eq_true hle)]

namespace CommandLine

variable {parser : Parser} {arguments : List Text} {call : Call}

/-- A run is stopped before it does anything outside of itself: while its arguments are read, while
the schedule is made, or because there is no format for the name of its file. -/
inductive Stops (parser : Parser) (arguments : List Text) : CommandError → Prop
  | reading {e : CommandError} (h : parser arguments = .error e) : Stops parser arguments e
  | making {call : Call} {e : CommandError} (hcall : parser arguments = .ok call)
    (h : (Command.termOptions call.values).compute = .error e) : Stops parser arguments e
  | format {call : Call} {s : Schedule} {entry : CurrencyEntry} {e : CommandError}
    (hcall : parser arguments = .ok call)
    (hcompute : (Command.termOptions call.values).compute = .ok (s, entry))
    (h : call.command.effects call.values s entry = .error e) : Stops parser arguments e

/-- A run is asked for a schedule, which is made, and these are the effects that it is to have. -/
structure Asks (parser : Parser) (arguments : List Text) (call : Call) (s : Schedule)
    (entry : CurrencyEntry) (effects : List Effect) : Prop where
  read : parser arguments = .ok call
  made : (Command.termOptions call.values).compute = .ok (s, entry)
  format : call.command.effects call.values s entry = .ok effects

theorem call_run_cases (faults : Faults) (call : Call) :
    (∃ e stderr, (Command.termOptions call.values).compute = .error e ∧
      call.run faults {} = (.error (.reported e), { stderr := stderr })) ∨
    ∃ s entry stderr, (Command.termOptions call.values).compute = .ok (s, entry) ∧
      call.run faults {} = (do
        Action.performAll faults (← call.command.effects call.values s entry) : Action Unit)
          { stderr := stderr } := by
  cases hterms : (Command.termOptions call.values).terms with
  | error e =>
    refine .inl ⟨e, "", ?_, ?_⟩
    · rw [TermOptions.compute, hterms]
      rfl
    · rw [Call.run, hterms]
      exact Action.lift_error_bind ..
  | ok found =>
    obtain ⟨terms, entry⟩ := found
    rw [TermOptions.compute, Call.run, hterms, Action.lift_ok_bind, ok_bind]
    dsimp only
    rw [Action.log_bind]
    cases Command.asRefused (({} : Engine).generate terms).outcome with
    | error e => exact .inl ⟨e, _, rfl, Action.lift_error_bind ..⟩
    | ok s => exact .inr ⟨s, entry, _, rfl, Action.lift_ok_bind ..⟩

theorem run_cases (parser : Parser) (faults : Faults) (arguments : List Text) :
    (∃ e stderr, Stops parser arguments e ∧
      run parser faults arguments = ⟨{ stderr := stderr }, some (.reported e)⟩) ∨
    ∃ call s entry effects stderr, Asks parser arguments call s entry effects ∧
      run parser faults arguments =
        .of (Action.performAll faults effects { stderr := stderr }) := by
  unfold run
  cases hcall : parser arguments with
  | error e => exact .inl ⟨e, "", .reading hcall, rfl⟩
  | ok call =>
    rw [Action.lift_ok_bind]
    rcases call_run_cases faults call with
      ⟨e, stderr, hcompute, hrun⟩ | ⟨s, entry, stderr, hcompute, hrun⟩
    · rw [hrun]
      exact .inl ⟨e, stderr, .making hcall hcompute, rfl⟩
    · rw [hrun]
      cases hformat : call.command.effects call.values s entry with
      | error e =>
        rw [Action.lift_error_bind]
        exact .inl ⟨e, stderr, .format hcall hcompute hformat, rfl⟩
      | ok effects =>
        rw [Action.lift_ok_bind]
        exact .inr ⟨call, s, entry, effects, stderr, ⟨hcall, hcompute, hformat⟩, rfl⟩

/-- A run that succeeds leaves what its command promises. One that is stopped before it does
anything leaves nothing, and one that breaks off, since an effect has failed, leaves what was done
up to there. -/
theorem run_leaves (parser : Parser) (faults : Faults) (arguments : List Text) :
    ((run parser faults arguments).exitCode = 0 → ∃ call s entry effects,
      Asks parser arguments call s entry effects ∧
        call.command.Leaves call.values s entry (run parser faults arguments).remains) ∧
    ((run parser faults arguments).exitCode ≠ 0 →
      (∃ e, (run parser faults arguments).stop = some (.reported e) ∧ Stops parser arguments e ∧
        (run parser faults arguments).remains.stdout = "" ∧
        (run parser faults arguments).remains.files = []) ∨
      ∃ fault call s entry effects, (run parser faults arguments).stop = some (.fault fault) ∧
        Asks parser arguments call s entry effects ∧
        (∃ before, ∃ effect ∈ effects, ∃ kept, faults before effect = some (fault, kept)) ∧
        call.command.BreaksOff call.values s entry (run parser faults arguments).remains) := by
  rcases run_cases parser faults arguments with
    ⟨e, stderr, hstops, hrun⟩ | ⟨call, s, entry, effects, stderr, hasks, hrun⟩
  · rw [hrun]
    exact ⟨fun hzero => absurd hzero e.exitCode_ne_zero,
      fun _ => .inl ⟨e, rfl, hstops, rfl, rfl⟩⟩
  · rw [hrun]
    rcases Action.performAll_cases faults effects { stderr := stderr } with
      hdone | ⟨fault, left, hbreaks⟩
    · rw [hdone]
      exact ⟨fun _ => ⟨call, s, entry, effects, hasks,
        Command.leaves_of_effects hasks.format rfl rfl⟩, fun hne => absurd rfl hne⟩
    · rw [Action.performAll_of_breaks hbreaks]
      exact ⟨fun hzero => absurd hzero Nat.one_ne_zero, fun _ => .inr ⟨fault, call, s, entry,
        effects, rfl, hasks, hbreaks.exists_fault,
        Command.breaksOff_of_effects hasks.format rfl rfl hbreaks⟩⟩

theorem Asks.not_stops {s : Schedule} {entry : CurrencyEntry} {effects : List Effect}
    (hasks : Asks parser arguments call s entry effects) (e : CommandError) :
    ¬Stops parser arguments e := by
  rintro (hread | ⟨hread, hmade⟩ | ⟨hread, hmade, hformat⟩)
  · cases hasks.read.symm.trans hread
  · cases hasks.read.symm.trans hread
    cases hasks.made.symm.trans hmade
  · cases hasks.read.symm.trans hread
    cases hasks.made.symm.trans hmade
    cases hasks.format.symm.trans hformat

theorem run_of_asks (hasks : Asks parser arguments call s entry effects) (faults : Faults) :
    ∃ stderr, run parser faults arguments =
      .of (Action.performAll faults effects { stderr := stderr }) := by
  rcases run_cases parser faults arguments with
    ⟨e, -, hstops, -⟩ | ⟨call', s', entry', effects', stderr, hasks', hrun⟩
  · exact absurd hstops (hasks.not_stops e)
  · cases hasks.read.symm.trans hasks'.read
    cases hasks.made.symm.trans hasks'.made
    cases hasks.format.symm.trans hasks'.format
    exact ⟨stderr, hrun⟩

def exportOptions (path : Text) : List Text :=
  ["-p", "12000", "-r", "12", "-n", "3", "-d", "2024-01-01", "--output", path]

def exportArguments (path : Text) : Arguments where
  options := (Command.termSpecs.filter (·.required) ++ [Command.outputSpec]).zip
    ["12000", "12", "3", "2024-01-01", path]

def exportValues (path : Text) : OptionValues :=
  [("--principal", .text "12000"), ("--rate", .text "12"), ("--repayments", .wholeNumber 3),
    ("--disbursement-date", .text "2024-01-01"), ("--output", .text path)]

theorem read_exportOptions (path : Text) :
    read ("schedule" :: exportOptions path) = .ok ⟨false, .schedule, exportValues path⟩ := by
  have hnames : Arguments.read [verboseSpec] false ("schedule" :: exportOptions path) =
      .ok { plain := "schedule" :: exportOptions path } := by
    cbv
  have hcommand : CommandLine.command { plain := "schedule" :: exportOptions path } =
      .ok (.schedule, exportOptions path) := by
    cbv
  have hread : Arguments.read Command.schedule.specs true (exportOptions path) =
      .ok (exportArguments path) := by
    cbv
  -- the options stand in the order in which their values are read anyway
  have hgiven : (exportArguments path).options.map (·.1.long) = ["--principal", "--rate",
      "--repayments", "--disbursement-date", "--output"] := rfl
  have hvalues : (exportArguments path).values Command.schedule.specs =
      .ok (exportValues path) := by
    rw [Arguments.values, Arguments.readingOrder_of_pairwise hgiven (by decide)]
    rfl
  rw [read, hnames, ok_bind, hcommand, ok_bind]
  dsimp only
  rw [hread, ok_bind, hvalues]
  rfl

set_option maxRecDepth 10000 in
theorem compute_exportValues (path : Text) :
    ∃ s entry, (Command.termOptions (exportValues path)).compute = .ok (s, entry) := by
  have hoptions : Command.termOptions (exportValues path) =
      Command.termOptions (exportValues "o.CSV") := rfl
  have h : (match (Command.termOptions (exportValues "o.CSV")).compute with
      | .ok _ => true
      | .error _ => false) = true := by
    decide +kernel
  rw [hoptions]
  split at h
  · next found hfound => exact ⟨found.1, found.2, hfound⟩
  · cases h

theorem asks_exportOptions (hending : lower (pathEnding path) = ".csv".toList)
    (hempty : path.isEmpty = false) (hslash : path.holds '/' = false) :
    ∃ call s entry, Asks read ("schedule" :: exportOptions path) call s entry
      (Command.exported "Schedule" path s.csvLines) := by
  obtain ⟨s, entry, hmade⟩ := compute_exportValues path
  have hgiven : givenText ((exportValues path).text? "--output") = some path :=
    Option.filter_eq_some_iff.2 ⟨rfl, by simp [hempty]⟩
  refine ⟨_, s, entry, read_exportOptions path, hmade, ?_⟩
  simp only [Command.effects, hgiven, Command.exportSchedule, hending, plainPath_eq hslash hempty]
  rfl

theorem emptyDirectory_eq_none {directory : Directory} {lines : List String}
    (hpath : Directory.ofPath path = .ok directory) :
    ∀ before, ∀ effect ∈ Command.exported "Schedule" path lines,
      emptyDirectory before effect = none := by
  intro before effect hmem
  rcases List.mem_cons.1 hmem with rfl | hmem
  · simp only [emptyDirectory, hpath]
  · rcases List.mem_append.1 hmem with hmem | hmem
    · obtain ⟨line, -, rfl⟩ := List.mem_map.1 hmem
      rfl
    · cases List.mem_singleton.1 hmem
      rfl

theorem exported_exportOptions {directory : Directory}
    (hending : lower (pathEnding path) = ".csv".toList) (hempty : path.isEmpty = false)
    (hslash : path.holds '/' = false) (hpath : Directory.ofPath path = .ok directory) :
    ∃ stderr files, run read emptyDirectory ("schedule" :: exportOptions path) =
      ⟨⟨Command.confirmation "Schedule" path, stderr, files⟩, none⟩ := by
  obtain ⟨call, s, entry, hasks⟩ := asks_exportOptions hending hempty hslash
  obtain ⟨stderr, hrun⟩ := run_of_asks hasks emptyDirectory
  rw [hrun, Action.performAll_of_done (emptyDirectory_eq_none hpath),
    Remains.afterAll_exported rfl rfl]
  exact ⟨stderr, _, rfl⟩

theorem exists_directory (h : (Directory.ofPath path).isOk = true) :
    ∃ directory, Directory.ofPath path = .ok directory := by
  cases hpath : Directory.ofPath path with
  | ok directory => exact ⟨directory, rfl⟩
  | error e =>
    rw [hpath] at h
    cases h

theorem run_leaves_exportOptions :
    ((run read emptyDirectory ("schedule" :: exportOptions "o.CSV")).exitCode = 0 ∧
      ∃ call s entry effects, Asks read ("schedule" :: exportOptions "o.CSV") call s entry effects ∧
        call.command.Leaves call.values s entry
          (run read emptyDirectory ("schedule" :: exportOptions "o.CSV")).remains) ∧
    (run read emptyDirectory ["schedule", "--output"]).exitCode ≠ 0 ∧
      (run read emptyDirectory ["schedule", "--output"]).remains.files = [] := by
  have hfails : read ["schedule", "--output"] = .error (.argumentRequired "--output") := by cbv
  have hstopped : (run read emptyDirectory ["schedule", "--output"]).exitCode ≠ 0 := by
    rw [run, hfails]
    decide
  obtain ⟨directory, hpath⟩ := @exists_directory "o.CSV" (by decide +kernel)
  obtain ⟨stderr, files, hrun⟩ :=
    exported_exportOptions (by decide +kernel) rfl (by decide) hpath
  have hzero : (run read emptyDirectory ("schedule" :: exportOptions "o.CSV")).exitCode = 0 := by
    rw [hrun]
    rfl
  refine ⟨⟨hzero, (run_leaves ..).1 hzero⟩, hstopped, ?_⟩
  rcases (run_leaves ..).2 hstopped with
    ⟨-, -, -, -, hfiles⟩ | ⟨_, _, _, _, _, -, hasks, -, -⟩
  · exact hfiles
  · cases hasks.read.symm.trans hfails

def asciiOutput : Faults := fun _ effect =>
  match effect with
  | .say text => (text.points.find? (127 < ·.number)).map fun point => (.unprintable point, 0)
  | .openFile _ | .write .. => none

/-- A file is left behind by a run that cannot tell of it, and what tells of a file takes two lines
if there is a line end in its name. -/
theorem run_exportOptions_untold :
    ((run read asciiOutput ("schedule" :: exportOptions "ö.csv")).exitCode ≠ 0 ∧
      (run read asciiOutput ("schedule" :: exportOptions "ö.csv")).remains.files ≠ []) ∧
    (run read emptyDirectory ("schedule" :: exportOptions "o\n.csv")).exitCode = 0 ∧
      ¬(run read emptyDirectory ("schedule" :: exportOptions "o\n.csv")).remains.stdout.IsLine := by
  constructor
  · obtain ⟨call, s, entry, hasks⟩ := @asks_exportOptions "ö.csv" (by decide +kernel) rfl
      (by decide)
    obtain ⟨stderr, hrun⟩ := run_of_asks hasks asciiOutput
    have hwrites : ∀ before, ∀ effect ∈ Effect.openFile "ö.csv" :: s.csvLines.map (.write "ö.csv"),
        asciiOutput before effect = none := by
      intro before effect hmem
      rcases List.mem_cons.1 hmem with rfl | hmem
      · rfl
      · obtain ⟨line, -, rfl⟩ := List.mem_map.1 hmem
        rfl
    have hsay (before : Remains) :
        asciiOutput before (.say (Command.confirmation "Schedule" "ö.csv")) =
          some (.unprintable (.char 'ö'), 0) := by
      have htold : Command.confirmation "Schedule" "ö.csv" = "Schedule exported to ö.csv\n" := by
        decide +kernel
      rw [htold]
      rfl
    have hbreaks := Remains.Breaks.of_last (r := { stderr := stderr }) hwrites (hsay _)
    rw [hrun, Command.exported, Action.performAll_of_breaks hbreaks]
    refine ⟨Nat.one_ne_zero, ?_⟩
    rw [Remains.afterAll_written rfl]
    exact List.cons_ne_nil _ _
  · obtain ⟨directory, hpath⟩ := @exists_directory "o\n.csv" (by decide +kernel)
    obtain ⟨stderr, files, hrun⟩ :=
      exported_exportOptions (by decide +kernel) rfl (by decide) hpath
    have htold : Command.confirmation "Schedule" "o\n.csv" = "Schedule exported to o\n.csv\n" := by
      decide +kernel
    have hbroken : .char '\n' ∈ ("Schedule exported to o\n.csv\n" : Text).points.dropLast := by
      decide
    rw [hrun, htold]
    exact ⟨rfl, fun hline => hline.not_mem hbroken⟩

end CommandLine
end AddOnLoan
