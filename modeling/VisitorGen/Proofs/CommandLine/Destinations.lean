import VisitorGen.Proofs.CommandLine.ExitCode
import VisitorGen.Proofs.Outlet.KeptFiles
import VisitorGen.Proofs.Outlet.Stream

set_option autoImplicit false

/-! # Two destinations

A command line that writes into a directory and the same one with the standard output as its
destination give the same report and the same text. A run in which nothing fails at the outlet has
the report that any other outlet would give it (`Target.run_of_all_written`); the stream holds the
texts of its units one after another, and so do the files of the directory, each under its banner, as
long as no file name comes twice (`CommandLine.stdout_agrees`). -/

namespace VisitorGen

/-! ## Files under their banners -/

/-- The bytes of some files of a directory, one after another, each under its banner. -/
def FileTree.bannered (tree : FileTree) (dir : String) : List String → Except IoError ByteArray
  | [] => .ok .empty
  | name :: names => do
    let content ← tree.readFile (Path.join dir name)
    let rest ← tree.bannered dir names
    return ("// ---- " ++ name ++ " ----\n").toUTF8 ++ content ++ rest

/-- The files of units that are stored make up the text that a stream would have. -/
theorem FileTree.bannered_of_isStored {tree : FileTree} {dir : String} {units : List SourceUnit}
    (h : ∀ u ∈ units, u.IsStored tree dir) :
    tree.bannered dir (units.map (·.fileName)) = .ok (SourceUnit.streamed units).toUTF8 := by
  induction units with
  | nil => rfl
  | cons u units ih =>
    rw [List.forall_mem_cons] at h
    have hread : tree.readFile (Path.join dir u.fileName) = .ok u.source.toUTF8 := h.1
    rw [List.map_cons, bannered, hread, ih h.2, SourceUnit.streamed_cons]
    show Except.ok _ = Except.ok (u.banner ++ u.source ++ SourceUnit.streamed units).toByteArray
    rw [String.toByteArray_append, String.toByteArray_append]
    rfl

namespace Target

variable {t : Target} {dir : String} {tree : FileTree} {tables : List Table}

/-- If nothing fails at the directory, all units are written. -/
theorem written_of_all_written
    (h : ∀ f ∈ (t.run (.directory dir) tree tables).1.failures, f.isUnwritten = false) :
    (Outlet.directory dir).written tree (t.units tables) = t.units tables := by
  obtain ⟨-, hwritten, -⟩ := t.run_eq_writeAll (.directory dir) tree tables
  have hnames : (t.units tables).map (·.fileName) =
      ((Outlet.directory dir).written tree (t.units tables)).map (·.fileName) := by
    rw [← hwritten, Target.run_of_all_written h]
  refine (Outlet.written_sublist _ tree _).eq_of_length ?_
  have hlength := congrArg List.length hnames
  rw [List.length_map, List.length_map] at hlength
  exact hlength.symm

/-- If besides no file name comes twice, each unit is in its file after the run. -/
theorem isStored_of_all_written
    (h : ∀ f ∈ (t.run (.directory dir) tree tables).1.failures, f.isUnwritten = false)
    (hnames : ((t.units tables).map (·.fileName)).Nodup) :
    ∀ u ∈ t.units tables, u.IsStored (t.run (.directory dir) tree tables).2 dir := by
  intro u hu
  obtain ⟨front, back, hsplit⟩ := List.append_of_mem hu
  obtain ⟨hstate, -, -⟩ := t.run_eq_writeAll (.directory dir) tree tables
  have hwritten : (Outlet.directory dir).written tree (t.units tables) = front ++ u :: back := by
    rw [written_of_all_written h, hsplit]
  have hnot : u.fileName ∉ back.map (·.fileName) := by
    rw [hsplit, List.map_append, List.nodup_append, List.map_cons, List.nodup_cons] at hnames
    exact hnames.2.1.1
  rw [SourceUnit.IsStored, hstate]
  exact Outlet.readFile_of_written Target.isPlain_of_mem_units hwritten hnot

/-- Then a stream takes what the files hold, and the report is the same. -/
theorem run_stream_eq_bannered
    (h : ∀ f ∈ (t.run (.directory dir) tree tables).1.failures, f.isUnwritten = false)
    (hnames : ((t.units tables).map (·.fileName)).Nodup) :
    (t.run (.stream none) .empty tables).1 = (t.run (.directory dir) tree tables).1 ∧
    (t.run (.directory dir) tree tables).2.bannered dir
        (t.run (.directory dir) tree tables).1.written =
      .ok (t.run (.stream none) .empty tables).2 := by
  obtain ⟨hstate, -, hfailures⟩ := t.run_eq_writeAll (.stream none) .empty tables
  rw [Outlet.writeAll_stream_none] at hstate hfailures
  constructor
  · -- a stream without a capacity fails for no unit
    have hnone : (t.run (.stream none) .empty tables).1.failures.filter Failure.isUnwritten = [] := by
      rw [hfailures, List.filterMap_map, List.filterMap_eq_nil_iff]
      intro u _
      rfl
    rw [Target.run_of_all_written h]
    refine Target.run_of_all_written fun f hf => ?_
    exact Bool.eq_false_iff.mpr (List.filter_eq_nil_iff.mp hnone f hf)
  · rw [hstate, Target.run_of_all_written h, ByteArray.empty_append]
    exact FileTree.bannered_of_isStored (isStored_of_all_written h hnames)

end Target

namespace CommandLine

/-! ## The other destination -/

/-- The options with the standard output as the destination. -/
def Output.toStdout (o : Output) : Output :=
  { o with stdout := true }

/-- The command with the standard output as the destination. -/
def Command.toStdout : Command → Command
  | .csharp output space => .csharp output.toStdout space
  | .rust output derives => .rust output.toStdout derives

@[simp] theorem Command.output_toStdout (c : Command) : c.toStdout.output = c.output.toStdout := by
  cases c <;> rfl

@[simp] theorem Command.target_toStdout (c : Command) : c.toStdout.target = c.target := by
  cases c <;> rfl

theorem Draft.pending_of_take {d d' : Draft} {option : Valued} {values : List String}
    (h : d.take option values = .ok d') : d'.pending = d.pending := by
  unfold take at h
  split at h
  · exact absurd h (by simp)
  · cases h
    rfl
  · split at h
    · exact absurd h (by simp)
    · cases h
      rfl
  · split at h
    · exact absurd h (by simp)
    · cases h
      rfl
  · cases h
    rfl
  · exact absurd h (by simp)

theorem Draft.pending_of_settle {d d' : Draft} (h : d.settle = .ok d') : d'.pending = none := by
  unfold settle at h
  split at h
  · next hpending =>
    cases h
    exact hpending
  · rw [Draft.pending_of_take h]

theorem Draft.settle_of_pending {d : Draft} (h : d.pending = none) : d.settle = .ok d := by
  rw [settle, h]

/-- One more argument sets the switch, if nothing has set it before. -/
theorem Draft.readAll_append_stdout {d d' : Draft} {language : Language} {args : List String}
    (hargs : "--" ∉ args) (h : d.readAll (.command language) args = .ok d')
    (hstdout : d'.stdout = false) :
    d.readAll (.command language) (args ++ ["--stdout"]) = .ok { d' with stdout := true } := by
  induction args generalizing d with
  | nil =>
    have hsettle : d.settle = .ok d' := h
    have hpending : d'.pending = none := Draft.pending_of_settle hsettle
    have hread : d.read (.command language) "--stdout" = d.readFlag .stdout := rfl
    have hflag : d.readFlag .stdout = .ok { d' with stdout := true } := by
      simp [readFlag, hsettle, hstdout]
    rw [List.nil_append, readAll, if_neg (by decide), hread, hflag]
    exact Draft.settle_of_pending hpending
  | cons arg args ih =>
    rw [List.mem_cons, not_or] at hargs
    rw [List.cons_append, readAll, if_neg (Ne.symm hargs.1)]
    rw [readAll, if_neg (Ne.symm hargs.1)] at h
    cases hread : d.read (.command language) arg with
    | error stop => simp [hread] at h
    | ok d₁ =>
      rw [hread] at h
      exact ih hargs.2 h

theorem readCommand_append_stdout {before : Draft} {language : Language} {args : List String}
    {c : Command} {verbosity : Nat} (hargs : "--" ∉ args)
    (h : readCommand before language args = .ok ⟨some c, verbosity⟩)
    (hstdout : c.output.stdout = false) :
    readCommand before language (args ++ ["--stdout"]) = .ok ⟨some c.toStdout, verbosity⟩ := by
  cases hall : Draft.empty.readAll (.command language) args with
  | error stop => simp [readCommand, hall] at h
  | ok d =>
    simp only [readCommand, hall, Except.ok.injEq, Invocation.mk.injEq, Option.some.injEq] at h
    obtain ⟨rfl, rfl⟩ := h
    have hd : d.stdout = false := by
      cases language <;> exact hstdout
    rw [readCommand, Draft.readAll_append_stdout hargs hall hd]
    cases language <;> rfl

/-- One more argument turns a command line for a directory into the one for the standard output. -/
theorem parse_append_stdout {args : List String} {c : Command} {verbosity : Nat}
    (hargs : "--" ∉ args) (h : parse args = .ok ⟨some c, verbosity⟩)
    (hstdout : c.output.stdout = false) :
    parse (args ++ ["--stdout"]) = .ok ⟨some c.toStdout, verbosity⟩ := by
  unfold parse at h ⊢
  generalize Draft.empty = d at h ⊢
  induction args generalizing d with
  | nil => simp [readTop] at h
  | cons arg args ih =>
    rw [List.mem_cons, not_or] at hargs
    rw [List.cons_append, readTop]
    rw [readTop] at h
    split at h
    · exact absurd h (by simp)
    · next hhelp =>
      rw [if_neg hhelp]
      cases hlanguage : language? arg with
      | some language =>
        rw [hlanguage] at h
        exact readCommand_append_stdout hargs.2 h hstdout
      | none =>
        -- an option in front of the command, which is read the same way
        simp only [hlanguage, if_neg (Ne.symm hargs.1)] at h ⊢
        cases hread : d.read .top arg with
        | error stop => simp [hread] at h
        | ok d' =>
          rw [hread] at h
          exact ih hargs.2 d' h

/-! ## Runs -/

/-- A command that generates its tables shows the report of their run. -/
theorem run_of_tables {args : List String} {c : Command} {verbosity : Nat} {tree : FileTree}
    {tables : List Table} (hparse : parse args = .ok ⟨some c, verbosity⟩)
    (hshow : c.output.showOnly = false) (htables : tablesFor tree c.target c.output = .ok tables)
    (logFilter : Option String) : ∃ report : Report,
      (run args logFilter tree).IsRunOf tree c.target tables report c.output.destination ∧
      (run args logFilter tree).Reports report := by
  obtain ⟨filter, warnings, hrun⟩ := Invocation.run_eq ⟨some c, verbosity⟩ logFilter
  have hgenerate : run args logFilter tree =
      generateAll tree c.target c.output filter warnings := by
    rw [run, hparse]
    exact (hrun tree).trans (if_neg (by simp [Invocation.output, hshow]))
  rw [hgenerate]
  exact generateAll_reports htables filter warnings

/-- **The destinations agree.** Take a command line that writes into a directory, and the same one
    with the standard output as its destination, in any tree in which the tables can be loaded. If
    the directory takes all units and no two of them have the same file name, then both runs show
    the same report, with the same exit code, and the bytes on the standard output are those of the
    files that the other run leaves in the directory, in the order of the report and each under its
    banner. -/
theorem stdout_agrees {args args' : List String} {c : Command} {verbosity : Nat}
    (hparse : parse args = .ok ⟨some c, verbosity⟩)
    (hparse' : parse args' = .ok ⟨some c.toStdout, verbosity⟩)
    (hdirectory : c.output.stdout = false) (hshow : c.output.showOnly = false) {tree : FileTree}
    {tables : List Table} (htables : tablesFor tree c.target c.output = .ok tables)
    (hwritten : ∀ f ∈ (c.target.run (.directory c.output.outDir) tree tables).1.failures,
      f.isUnwritten = false)
    (hnames : ((c.target.units tables).map (·.fileName)).Nodup) (logFilter : Option String) :
    ∃ report : Report,
      (run args logFilter tree).IsRunOf tree c.target tables report
        (.directory c.output.outDir) ∧
      (run args' logFilter tree).IsRunOf tree c.target tables report .stdout ∧
      (run args logFilter tree).Reports report ∧ (run args' logFilter tree).Reports report ∧
      (run args' logFilter tree).code = (run args logFilter tree).code ∧
      (run args logFilter tree).tree.bannered c.output.outDir report.written =
        .ok (run args' logFilter tree).stdout := by
  obtain ⟨report, hrun, hreports⟩ := run_of_tables hparse hshow htables logFilter
  have hshow' : c.toStdout.output.showOnly = false := by
    rw [Command.output_toStdout]
    exact hshow
  have htables' : tablesFor tree c.toStdout.target c.toStdout.output = .ok tables := by
    rw [Command.output_toStdout, Command.target_toStdout]
    exact htables
  obtain ⟨report', hrun', hreports'⟩ := run_of_tables hparse' hshow' htables' logFilter
  have hdestination : c.output.destination = .directory c.output.outDir := by
    rw [Output.destination, hdirectory]
    rfl
  have hdestination' : c.toStdout.output.destination = .stdout := by
    rw [Command.output_toStdout]
    rfl
  rw [hdestination] at hrun
  rw [hdestination', Command.target_toStdout] at hrun'
  -- both runs are runs of the same tables, so their reports are compared there
  obtain ⟨hreport, hbytes⟩ := Target.run_stream_eq_bannered hwritten hnames
  rw [hrun.run_eq_directory, hrun'.run_eq_stdout] at hreport hbytes
  have heq : report' = report := hreport
  subst heq
  exact ⟨report', hrun, hrun', hreports, hreports', hreports'.1.trans hreports.1.symm, hbytes⟩

/-- Two tables of a grammar file, in a new directory and on the standard output. -/
theorem stdout_agrees_two_tables :
    let tree : FileTree := .ofList [("g.json", some "\x7b\"Expr\": [], \"Stmt\": []\x7d".toUTF8)]
    let args := ["csharp", "-g", "g.json", "-o", "out"]
    let c : Command := .csharp ⟨["g.json"], "out", false, false⟩ CSharp.defaultSpace
    parse args = .ok ⟨some c, 0⟩ ∧ ∃ report : Report,
      (run args none tree).Reports report ∧
      (run (args ++ ["--stdout"]) none tree).Reports report ∧
      (run args none tree).tree.bannered "out" report.written =
        .ok (run (args ++ ["--stdout"]) none tree).stdout := by
  intro tree args c
  have hparse : parse args = .ok ⟨some c, 0⟩ := by decide +kernel
  have hparse' : parse (args ++ ["--stdout"]) = .ok ⟨some c.toStdout, 0⟩ :=
    parse_append_stdout (by decide) hparse rfl
  have htables : tablesFor tree c.target c.output = .ok [.bare "Expr", .bare "Stmt"] :=
    eq_ok_of_toOption (by decide +kernel)
  have hwritten : ∀ f ∈ (c.target.run (.directory c.output.outDir) tree
      [.bare "Expr", .bare "Stmt"]).1.failures, f.isUnwritten = false := by decide +kernel
  have hnames : ((c.target.units [.bare "Expr", .bare "Stmt"]).map (·.fileName)).Nodup := by
    decide +kernel
  obtain ⟨report, -, -, hreports, hreports', -, hbytes⟩ :=
    stdout_agrees hparse hparse' rfl rfl htables hwritten hnames none
  exact ⟨hparse, report, hreports, hreports', hbytes⟩

end CommandLine

end VisitorGen
