import VisitorGen.Outlet.Basic
import VisitorGen.Table.Basic

set_option autoImplicit false

/-! # Batch runs

Tables are generated strictly one after another, and each family stands for itself: one that is
refused, or whose unit cannot be written, is reported, and the run goes on with the next. -/

namespace VisitorGen

/-- Why a family did not reach an outlet with the errors `ε`. -/
inductive DeliveryError (ε : Type := IoError) where
  | refused (cause : FamilyError)
  | unwritten (fileName : String) (cause : ε)
  deriving DecidableEq, Repr

/-- The wording of a delivery error. The cause of a failed write is not part of it. -/
def DeliveryError.message {ε : Type} : DeliveryError ε → String
  | .refused cause => cause.message
  | .unwritten fileName _ => "failed to write `" ++ fileName ++ "`"

/-- Generate one table and write its unit in one go. Nothing is written if the family is
    refused. -/
def Target.deliver {σ ε : Type} (t : Target) (outlet : Outlet σ ε) (s : σ) (table : Table) :
    Except (DeliveryError ε) SourceUnit × σ :=
  match t.generate table.family table.rules with
  | .error e => (.error (.refused e), s)
  | .ok u =>
    match outlet.write s u with
    | (.error e, s') => (.error (.unwritten u.fileName e), s')
    | (.ok (), s') => (.ok u, s')

/-! ## Runs -/

/-- What became of a table. -/
structure Outcome (ε : Type := IoError) where
  table : Table
  result : Except (DeliveryError ε) SourceUnit

/-- Generate and write tables in order. -/
def Target.deliverAll {σ ε : Type} (t : Target) (outlet : Outlet σ ε) (s : σ) :
    List Table → List (Outcome ε) × σ
  | [] => ([], s)
  | table :: tables =>
    let (result, s') := t.deliver outlet s table
    let (outcomes, s'') := t.deliverAll outlet s' tables
    (⟨table, result⟩ :: outcomes, s'')

/-! ## Reports -/

/-- A family that did not reach the outlet. -/
structure Failure (ε : Type := IoError) where
  family : String
  error : DeliveryError ε
  deriving DecidableEq, Repr

/-- The summary of a run: the files that were written and the families that failed, each in table
    order. -/
structure Report (ε : Type := IoError) where
  written : List String
  failures : List (Failure ε)
  deriving DecidableEq, Repr

/-- The file of a table that was written. -/
def Outcome.written? {ε : Type} (o : Outcome ε) : Option String :=
  match o.result with
  | .ok u => some u.fileName
  | .error _ => none

/-- The failure of a table that was not written. -/
def Outcome.failure? {ε : Type} (o : Outcome ε) : Option (Failure ε) :=
  match o.result with
  | .ok _ => none
  | .error e => some ⟨o.table.family, e⟩

/-- The report on the outcomes of a run. -/
def Report.of {ε : Type} (outcomes : List (Outcome ε)) : Report ε :=
  ⟨outcomes.filterMap Outcome.written?, outcomes.filterMap Outcome.failure?⟩

/-- Whether every table was written. -/
def Report.allWritten {ε : Type} (r : Report ε) : Bool :=
  r.failures.isEmpty

/-- Generate and write tables in order: the report, and the state that the run leaves. -/
def Target.run {σ ε : Type} (t : Target) (outlet : Outlet σ ε) (s : σ) (tables : List Table) :
    Report ε × σ :=
  let (outcomes, s') := t.deliverAll outlet s tables
  (.of outcomes, s')

end VisitorGen
