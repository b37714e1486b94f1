import VisitorGen.CommandLine.Run
import VisitorGen.Proofs.Table.ReadingOrder

set_option autoImplicit false

/-! # Loading the tables of a command line

What a command line with patterns loads (`CommandLine.tablesFor_in_reading_order`): the tables of all
files, in reading order, or else the first fault in this order. Without patterns it is not the tables
of no files, but the built-in ones (`CommandLine.tablesFor_without_patterns`). -/

namespace VisitorGen.CommandLine

/-- The grammar files of a command line, in reading order. -/
def Output.grammarFiles (o : Output) (tree : FileTree) : List String :=
  grammarPaths tree o.grammar

theorem tablesFor_eq_readGrammars {tree : FileTree} {output : Output} (target : Target)
    (hgiven : output.grammar ≠ [])
    (hmatches : ∀ pattern ∈ output.grammar, Glob.Matches tree pattern) :
    tablesFor tree target output = readGrammars tree [] (output.grammarFiles tree) := by
  have hsome : ¬ output.grammar.isEmpty = true := by simpa using hgiven
  rw [tablesFor, if_neg hsome, Table.loadAll_eq_readGrammars hmatches]
  rfl

/-- **How grammar files are merged.** Suppose that every pattern stands for some file. The files are
    read pattern by pattern, and for one pattern in the order of their paths. If all of them are
    grammars and no family is in two of them, the tables are those of the files, one file after
    another. If all are grammars but share a family, the error names the first family in reading
    order that an earlier file has defined, and the path of the file that defines it again. If some
    are no grammars, the error is the first fault in reading order. A first fault is the error
    whatever the later files are, and whether or not they are there. -/
theorem tablesFor_in_reading_order {tree : FileTree} {output : Output} (target : Target)
    (hgiven : output.grammar ≠ [])
    (hmatches : ∀ pattern ∈ output.grammar, Glob.Matches tree pattern) :
    (∃ listings, List.Forall₂ (Glob.Lists tree) output.grammar listings ∧
      output.grammarFiles tree = listings.flatten) ∧
    ((∀ path ∈ output.grammarFiles tree, IsGrammar tree path) →
      (output.grammarFiles tree).Pairwise (SharesNoFamily tree) →
        tablesFor tree target output = .ok (tablesIn tree (output.grammarFiles tree))) ∧
    ((∀ path ∈ output.grammarFiles tree, IsGrammar tree path) →
      ¬ (output.grammarFiles tree).Pairwise (SharesNoFamily tree) →
        ∃ front path back family, output.grammarFiles tree = front ++ path :: back ∧
          front.Pairwise (SharesNoFamily tree) ∧ Redefines tree front path family ∧
            tablesFor tree target output = .error (.redefined family path)) ∧
    ((∃ path ∈ output.grammarFiles tree, ¬ IsGrammar tree path) →
      ∃ front path back e, output.grammarFiles tree = front ++ path :: back ∧
        NoFaultIn (AtFault tree) front ∧ FileFault tree front path e ∧
          tablesFor tree target output = .error e) ∧
    (∀ front path back e, output.grammarFiles tree = front ++ path :: back →
      NoFaultIn (AtFault tree) front → FileFault tree front path e →
        ∀ tree' target' output' back', (∀ pattern ∈ output'.grammar, Glob.Matches tree' pattern) →
          output'.grammarFiles tree' = front ++ path :: back' →
            ReadsAlike tree tree' (front ++ [path]) →
              tablesFor tree' target' output' = .error e) := by
  have hload := tablesFor_eq_readGrammars target hgiven hmatches
  have hfirst : ¬ NoFaultIn (AtFault tree) (output.grammarFiles tree) →
      ∃ front path back e, output.grammarFiles tree = front ++ path :: back ∧
        NoFaultIn (AtFault tree) front ∧ FileFault tree front path e ∧
          tablesFor tree target output = .error e := by
    intro hfault
    obtain ⟨front, path, back, hsplit, hfront, e, he⟩ := exists_first_fault hfault
    refine ⟨front, path, back, e, hsplit, hfront, he, ?_⟩
    rw [hload, hsplit, readGrammars_of_first_fault hfront he]
  refine ⟨grammarPaths_eq_flatten hmatches, fun hgrammars hapart => ?_, fun hgrammars hapart => ?_,
    fun hgrammars => ?_, fun front path back e hsplit hfront he tree' target' output' back'
      hmatches' hsplit' halike => ?_⟩
  · rw [hload, readGrammars_of_no_fault (noFaultIn_iff.mpr ⟨hgrammars, hapart⟩)]
  · obtain ⟨front, path, back, e, hsplit, hfront, he, herror⟩ :=
      hfirst fun hnone => hapart (noFaultIn_iff.mp hnone).2
    obtain ⟨family, rfl, hagain⟩ :=
      he.redefines_of_isGrammar (hgrammars path (by simp [hsplit]))
    exact ⟨front, path, back, family, hsplit, (noFaultIn_iff.mp hfront).2, hagain, herror⟩
  · obtain ⟨path, hmem, hgrammar⟩ := hgrammars
    exact hfirst fun hnone => hgrammar ((noFaultIn_iff.mp hnone).1 path hmem)
  · have hgiven' : output'.grammar ≠ [] := by
      intro hnone
      rw [Output.grammarFiles, hnone, grammarPaths, List.flatMap_nil] at hsplit'
      exact absurd hsplit' (by simp)
    rw [tablesFor_eq_readGrammars target' hgiven' hmatches', hsplit']
    exact readGrammars_of_readsAlike halike hfront he back'

/-- A pattern that is given twice redefines its first family, and the file behind it is not read. -/
theorem tablesFor_pattern_twice :
    let tree : FileTree := .ofList
      [("a.json", some "\x7b\"Stmt\": [\"B : T x\"]\x7d".toUTF8),
       ("b.json", some "\x7b\"Expr\": [], \"Type\": []\x7d".toUTF8), ("c.json", some "no".toUTF8)]
    let output : Output :=
      { Output.default with grammar := ["b.json", "a.json", "b.json", "c.json"] }
    (output.grammar ≠ [] ∧ ∀ pattern ∈ output.grammar, Glob.Matches tree pattern) ∧
    ¬ IsGrammar tree "c.json" ∧
    tablesFor tree defaultTarget output = .error (.redefined "Expr" "b.json") := by
  intro tree output
  have ha : readGrammar tree "a.json" = .ok [⟨"Stmt", ["B : T x"]⟩] :=
    eq_ok_of_toOption (by decide +kernel)
  have hb : readGrammar tree "b.json" = .ok [⟨"Expr", []⟩, ⟨"Type", []⟩] :=
    eq_ok_of_toOption (by decide +kernel)
  have hc : (readGrammar tree "c.json").toOption = none := by decide +kernel
  have hgiven : output.grammar ≠ [] := by decide
  have hmatches : ∀ pattern ∈ output.grammar, Glob.Matches tree pattern := by
    have hexpand : ∀ pattern ∈ output.grammar,
        (Glob.expand tree pattern).toOption = some [pattern] := by decide +kernel
    exact fun pattern hmem => ⟨pattern, [], eq_ok_of_toOption (hexpand pattern hmem)⟩
  have hfiles : output.grammarFiles tree = ["b.json", "a.json", "b.json", "c.json"] := by
    decide +kernel
  have hfront : NoFaultIn (AtFault tree) ["b.json", "a.json"] := by
    refine noFaultIn_iff.mpr ⟨?_, ?_⟩
    · simp [IsGrammar, ha, hb]
    · simp [SharesNoFamily, tablesAt_eq ha, tablesAt_eq hb]
  have hagain : Redefines tree ["b.json", "a.json"] "b.json" "Expr" := by
    refine ⟨[], ⟨"Expr", []⟩, [⟨"Type", []⟩], tablesAt_eq hb, rfl, ?_, by simp⟩
    simp [tablesIn, tablesAt_eq ha, tablesAt_eq hb]
  refine ⟨⟨hgiven, hmatches⟩, ?_, ?_⟩
  · rintro ⟨tables, htables⟩
    simp [htables, Except.toOption] at hc
  · obtain ⟨-, -, -, -, hfirst⟩ := tablesFor_in_reading_order defaultTarget hgiven hmatches
    exact hfirst _ "b.json" _ _ hfiles hfront (.redefined ⟨_, hb⟩ hagain) tree defaultTarget output
      _ hmatches hfiles fun _ _ => rfl

/-- Without a pattern there is no file at all, but there are tables. -/
theorem tablesFor_without_patterns :
    let tree : FileTree := .ofList []
    let output := Output.default
    ((∀ pattern ∈ output.grammar, Glob.Matches tree pattern) ∧
      (∀ path ∈ output.grammarFiles tree, IsGrammar tree path) ∧
      (output.grammarFiles tree).Pairwise (SharesNoFamily tree)) ∧
    tablesFor tree defaultTarget output = .ok (builtinTables .csharp) ∧
    builtinTables .csharp ≠ tablesIn tree (output.grammarFiles tree) := by
  intro tree output
  have hfiles : output.grammarFiles tree = [] := rfl
  refine ⟨⟨fun pattern hmem => absurd hmem (by simp [output, Output.default]), ?_, ?_⟩, rfl, ?_⟩
  · simp [hfiles]
  · simp [hfiles]
  · rw [hfiles]
    decide

end VisitorGen.CommandLine
