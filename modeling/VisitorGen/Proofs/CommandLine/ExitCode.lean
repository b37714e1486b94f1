import VisitorGen.CommandLine.Run
import VisitorGen.Proofs.Outlet.KeptFiles
import VisitorGen.Proofs.Outlet.Stream
import VisitorGen.Proofs.Table.Load

set_option autoImplicit false

/-! # Exit codes

The exit code of a command line says what has happened to the file tree and to the standard output
(`CommandLine.exit_code_and_effects`). With code 2 nothing has: the tables are loaded as a whole
before the first of them is generated. Codes 0 and 1 are those of a run of all tables, in which the
destination is asked for the unit of every family that is accepted, whatever becomes of the
others. The units that the report names as written are then to be found at the destination
(`CommandLine.Effects.IsRunOf.exists_written`), and with code 0 these are the units of all tables. -/

namespace VisitorGen.CommandLine

/-! ## What a command line asks for -/

/-- The options of a command line; without a command they are the default ones. -/
def Invocation.output (i : Invocation) : Output :=
  (i.command.map (·.output)).getD .default

/-- The target of a command line. -/
def Invocation.target (i : Invocation) : Target :=
  (i.command.map (·.target)).getD defaultTarget

/-- The tables of a command line, if they can be loaded: the built-in ones, or those of the files
    that its patterns name. -/
def Invocation.tables (i : Invocation) (tree : FileTree) : List Table :=
  if i.output.grammar.isEmpty then builtinTables i.target.language
  else tablesIn tree (grammarPaths tree i.output.grammar)

/-- A command line either shows its options or generates its tables. -/
theorem Invocation.run_eq (i : Invocation) (logFilter : Option String) :
    ∃ filter warnings, ∀ tree, i.run logFilter tree =
      if i.output.showOnly then ⟨0, ByteArray.empty, .text (warnings ++ i.dump), tree⟩
      else generateAll tree i.target i.output filter warnings := by
  refine ⟨(Log.Filter.of (logLimit i.verbosity) logFilter).1,
    String.join (Log.Filter.of (logLimit i.verbosity) logFilter).2, fun tree => ?_⟩
  obtain ⟨command, verbosity⟩ := i
  cases command with
  | none =>
    have hshow : (Invocation.output ⟨none, verbosity⟩).showOnly = false := rfl
    rw [if_neg (by simp [hshow])]
    rfl
  | some c => rfl

/-! ## Loading -/

theorem tablesFor_of_fault {tree : FileTree} {output : Output} (target : Target)
    (h : LoadFault tree output.grammar) : ∃ e, tablesFor tree target output = .error e := by
  obtain ⟨e, he⟩ := Table.loadAll_error_iff.mpr h
  refine ⟨e, ?_⟩
  rw [tablesFor]
  split
  · next hempty =>
    rw [List.isEmpty_iff.mp hempty] at he
    exact absurd he (by simp [Table.loadAll, expandPatterns, readGrammars])
  · exact he

theorem Invocation.tablesFor_of_no_fault {i : Invocation} {tree : FileTree}
    (h : ¬ LoadFault tree i.output.grammar) :
    tablesFor tree i.target i.output = .ok (i.tables tree) := by
  rw [tablesFor, Invocation.tables]
  split
  · rfl
  · cases hload : Table.loadAll tree i.output.grammar with
    | error e => exact absurd (Table.loadAll_error_iff.mp ⟨e, hload⟩) h
    | ok tables => rw [(Table.loadAll_eq_ok_iff.mp hload).2.2.1]

/-! ## Generating -/

/-- The effects are those of a run of the tables, with the report. The destination was asked for the
    unit of every accepted table, in order, and for nothing else. -/
def Effects.IsRunOf (e : Effects) (tree : FileTree) (target : Target) (tables : List Table)
    (report : Report) : Destination → Prop
  | .stdout =>
    target.run (Outlet.stream none).recording (ByteArray.empty, []) tables =
      (report, e.stdout, target.units tables) ∧ e.tree = tree
  | .directory dir =>
    target.run (Outlet.directory dir).recording (tree, []) tables =
      (report, e.tree, target.units tables) ∧ e.stdout = ByteArray.empty

theorem generateAll_of_error {tree : FileTree} {target : Target} {output : Output} {e : LoadError}
    (h : tablesFor tree target output = .error e) (filter : Log.Filter) (warnings : String) :
    (generateAll tree target output filter warnings).code = 2 ∧
      (generateAll tree target output filter warnings).stdout = ByteArray.empty ∧
        (generateAll tree target output filter warnings).tree = tree := by
  simp [generateAll, h]

/-- What is seen of a report: the exit code, and the summary at the end of the error channel. -/
def Effects.Reports (e : Effects) (report : Report) : Prop :=
  e.code = (if report.allWritten then 0 else 1) ∧ ∃ log, e.stderr = .text (log ++ summary report)

/-- Tables that were loaded are run as a whole, and the report is shown. -/
theorem generateAll_reports {tree : FileTree} {target : Target} {output : Output}
    {tables : List Table} (h : tablesFor tree target output = .ok tables) (filter : Log.Filter)
    (warnings : String) : ∃ report : Report,
      (generateAll tree target output filter warnings).IsRunOf tree target tables report
        output.destination ∧
      (generateAll tree target output filter warnings).Reports report := by
  simp only [generateAll, h]
  cases hdestination : output.destination with
  | stdout =>
    refine ⟨_, ⟨?_, rfl⟩, rfl, _, rfl⟩
    rw [Target.run_recording]
    rfl
  | directory dir =>
    refine ⟨_, ⟨?_, rfl⟩, rfl, _, rfl⟩
    rw [Target.run_recording]
    rfl

/-- The code of such a run is that of the report. -/
theorem generateAll_of_tables {tree : FileTree} {target : Target} {output : Output}
    {tables : List Table} (h : tablesFor tree target output = .ok tables) (filter : Log.Filter)
    (warnings : String) : ∃ report : Report,
      (generateAll tree target output filter warnings).IsRunOf tree target tables report
        output.destination ∧
      (generateAll tree target output filter warnings).code =
        if report.allWritten then 0 else 1 := by
  obtain ⟨report, hrun, hcode, -⟩ := generateAll_reports h filter warnings
  exact ⟨report, hrun, hcode⟩

theorem Effects.IsRunOf.tree_eq {e : Effects} {tree : FileTree} {target : Target}
    {tables : List Table} {report : Report}
    (h : e.IsRunOf tree target tables report .stdout) : e.tree = tree :=
  h.2

theorem Effects.IsRunOf.run_eq_stdout {e : Effects} {tree : FileTree} {target : Target}
    {tables : List Table} {report : Report} (h : e.IsRunOf tree target tables report .stdout) :
    target.run (.stream none) .empty tables = (report, e.stdout) := by
  obtain ⟨hrun, -⟩ := h
  rw [Target.run_recording, Prod.mk.injEq, Prod.mk.injEq] at hrun
  exact Prod.ext hrun.1 hrun.2.1

theorem Effects.IsRunOf.run_eq_directory {e : Effects} {tree : FileTree} {target : Target}
    {tables : List Table} {report : Report} {dir : String}
    (h : e.IsRunOf tree target tables report (.directory dir)) :
    target.run (.directory dir) tree tables = (report, e.tree) := by
  obtain ⟨hrun, -⟩ := h
  rw [Target.run_recording, Prod.mk.injEq, Prod.mk.injEq] at hrun
  exact Prod.ext hrun.1 hrun.2.1

/-- The report of a run succeeds exactly if each table has its file in it. -/
theorem Effects.IsRunOf.allWritten_iff {e : Effects} {tree : FileTree} {target : Target}
    {tables : List Table} {report : Report} {destination : Destination}
    (h : e.IsRunOf tree target tables report destination) :
    report.allWritten = true ↔ List.Forall₂ target.IsFileOf tables report.written := by
  cases destination with
  | stdout =>
    have hreport : (target.run (Outlet.stream none).recording (ByteArray.empty, []) tables).1 =
      report := congrArg Prod.fst h.1
    rw [← hreport]
    exact target.allWritten_iff _ _ tables
  | directory dir =>
    have hreport : (target.run (Outlet.directory dir).recording (tree, []) tables).1 = report :=
      congrArg Prod.fst h.1
    rw [← hreport]
    exact target.allWritten_iff _ _ tables

/-- Code 0 stands for a file of every table, and code 1 for a failure. -/
theorem Effects.IsRunOf.code_iff {e : Effects} {tree : FileTree} {target : Target}
    {tables : List Table} {report : Report} {destination : Destination}
    (h : e.IsRunOf tree target tables report destination)
    (hcode : e.code = if report.allWritten then 0 else 1) :
    (e.code = 0 ↔ List.Forall₂ target.IsFileOf tables report.written) ∧
      (e.code = 1 ↔ report.failures ≠ []) := by
  have hfailed : report.allWritten = false ↔ report.failures ≠ [] := List.isEmpty_eq_false_iff
  rw [hcode, ← h.allWritten_iff, ← hfailed]
  cases report.allWritten <;> simp

/-! ## What is left at the destination -/

/-- The destination holds the units. In a directory, the file of each holds its source, unless a
    later one goes by the same name. On the standard output they stand one after another, each under
    a banner that names its file. -/
def Effects.Holds (e : Effects) (units : List SourceUnit) : Destination → Prop
  | .stdout =>
    e.stdout = (String.join (units.map fun u =>
      "// ---- " ++ u.fileName ++ " ----\n" ++ u.source)).toUTF8
  | .directory dir => ∀ front u back, units = front ++ u :: back →
    u.fileName ∉ back.map (·.fileName) → u.IsStored e.tree dir

/-- The files that a report names are those of accepted units, which the destination holds. -/
theorem Effects.IsRunOf.exists_written {e : Effects} {tree : FileTree} {target : Target}
    {tables : List Table} {report : Report} {destination : Destination}
    (h : e.IsRunOf tree target tables report destination) :
    ∃ written : List SourceUnit, written.Sublist (target.units tables) ∧
      report.written = written.map (·.fileName) ∧ e.Holds written destination := by
  cases destination with
  | stdout =>
    obtain ⟨hstate, hwritten, -⟩ := target.run_eq_writeAll (.stream none) .empty tables
    rw [h.run_eq_stdout, Outlet.writeAll_stream_none, ByteArray.empty_append,
      SourceUnit.streamed_eq] at hstate
    rw [h.run_eq_stdout, Outlet.written_stream_none] at hwritten
    exact ⟨target.units tables, List.Sublist.refl _, hwritten, hstate⟩
  | directory dir =>
    obtain ⟨hstate, hwritten, -⟩ := target.run_eq_writeAll (.directory dir) tree tables
    rw [h.run_eq_directory] at hstate hwritten
    refine ⟨_, Outlet.written_sublist (.directory dir) tree _, hwritten, ?_⟩
    intro front u back hsplit hlast
    have htree : e.tree = ((Outlet.directory dir).writeAll tree (target.units tables)).2 := hstate
    rw [SourceUnit.IsStored, htree]
    exact Outlet.readFile_of_written Target.isPlain_of_mem_units hsplit hlast

/-- Units whose files are those of all tables are all units. -/
theorem eq_units_of_isFileOf {target : Target} {tables : List Table} {written : List SourceUnit}
    (h : written.Sublist (target.units tables))
    (hfiles : List.Forall₂ target.IsFileOf tables (written.map (·.fileName))) :
    written = target.units tables := by
  have hlength : tables.length = written.length := by
    rw [hfiles.length_eq, List.length_map]
  have hunits : (target.units tables).length ≤ tables.length := List.length_filterMap_le _ _
  exact h.eq_of_length_le (hlength ▸ hunits)

/-- **What the exit code says.** A command line that only shows its options ends with code 0; it
    does the same in every tree, and leaves it as it is. If there is a fault in the grammar files,
    wherever it is, the code is 2 and nothing has been written. Otherwise all tables are run, and the
    destination is asked for the unit of each accepted one; the code is 0 if every table was
    generated and written, and 1 if one failed. The units written, all of them with code 0, are at
    the destination after the run. Units on the standard output never change the tree. -/
theorem exit_code_and_effects {args : List String} {i : Invocation} (hparse : parse args = .ok i)
    (logFilter : Option String) (tree : FileTree) :
    (i.output.showOnly = true →
      (run args logFilter tree).code = 0 ∧ (run args logFilter tree).stdout = ByteArray.empty ∧
        ∀ tree', run args logFilter tree' = { run args logFilter tree with tree := tree' }) ∧
    (i.output.showOnly = false → LoadFault tree i.output.grammar →
      (run args logFilter tree).code = 2 ∧ (run args logFilter tree).stdout = ByteArray.empty ∧
        (run args logFilter tree).tree = tree) ∧
    (i.output.showOnly = false → ¬ LoadFault tree i.output.grammar → ∃ report : Report,
      (run args logFilter tree).IsRunOf tree i.target (i.tables tree) report
        i.output.destination ∧
      ((run args logFilter tree).code = 0 ↔
        List.Forall₂ i.target.IsFileOf (i.tables tree) report.written) ∧
      ((run args logFilter tree).code = 1 ↔ report.failures ≠ []) ∧
      ∃ written : List SourceUnit, written.Sublist (i.target.units (i.tables tree)) ∧
        ((run args logFilter tree).code = 0 → written = i.target.units (i.tables tree)) ∧
        report.written = written.map (·.fileName) ∧
        (run args logFilter tree).Holds written i.output.destination) ∧
    (i.output.stdout = true → (run args logFilter tree).tree = tree) := by
  obtain ⟨filter, warnings, hinvocation⟩ := i.run_eq logFilter
  have hrun : ∀ tree, run args logFilter tree =
      if i.output.showOnly then ⟨0, ByteArray.empty, .text (warnings ++ i.dump), tree⟩
      else generateAll tree i.target i.output filter warnings := by
    intro tree
    rw [run, hparse]
    exact hinvocation tree
  refine ⟨fun hshow => ?_, fun hshow hfault => ?_, fun hshow hfault => ?_, fun hstdout => ?_⟩
  · simp [hrun, hshow]
  · obtain ⟨e, he⟩ := tablesFor_of_fault i.target hfault
    rw [hrun, if_neg (by simp [hshow])]
    exact generateAll_of_error he filter warnings
  · obtain ⟨report, hreport, hcode⟩ :=
      generateAll_of_tables (Invocation.tablesFor_of_no_fault hfault) filter warnings
    obtain ⟨hzero, hone⟩ := hreport.code_iff hcode
    obtain ⟨written, hsublist, hfiles, hholds⟩ := hreport.exists_written
    rw [hrun, if_neg (by simp [hshow])]
    refine ⟨report, hreport, hzero, hone, written, hsublist, fun hall => ?_, hfiles, hholds⟩
    refine eq_units_of_isFileOf hsublist ?_
    rw [← hfiles]
    exact hzero.mp hall
  · -- the destination is the standard output, if it comes to a run at all
    have hdestination : i.output.destination = .stdout := by
      rw [Output.destination, hstdout]
      rfl
    rw [hrun]
    split
    · rfl
    · cases htables : tablesFor tree i.target i.output with
      | error e => exact (generateAll_of_error htables filter warnings).2.2
      | ok tables =>
        obtain ⟨report, hreport, -⟩ := generateAll_of_tables htables filter warnings
        rw [hdestination] at hreport
        exact hreport.tree_eq

/-- A file that is missing stops the run, although the one before it could be read. -/
theorem exit_code_and_effects_missing :
    let tree : FileTree := .ofList [("a.json", some "\x7b\"Expr\": []\x7d".toUTF8)]
    let args := ["rust", "-g", "a.json", "b.json"]
    (∃ i, parse args = .ok i) ∧ (Table.loadAll tree ["a.json"]).toOption = some [⟨"Expr", []⟩] ∧
      (run args none tree).code = 2 ∧ (run args none tree).stdout = ByteArray.empty ∧
        (run args none tree).tree = tree := by
  intro tree args
  have hparse : parse args = .ok ⟨some (.rust ⟨["a.json", "b.json"], ".", false, false⟩
      Rust.defaultDerives), 0⟩ := by decide +kernel
  have hmissing : Glob.expand tree "b.json" = .ok [] := by decide +kernel
  obtain ⟨-, hfault, -, -⟩ := exit_code_and_effects hparse none tree
  have hread : (Table.loadAll tree ["a.json"]).toOption = some [⟨"Expr", []⟩] := by decide +kernel
  exact ⟨⟨_, hparse⟩, hread, hfault rfl (.noMatch (by decide) hmissing)⟩

end VisitorGen.CommandLine
