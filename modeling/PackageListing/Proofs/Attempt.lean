/-
# Calls of tools

A call says which tool to run and how. To make it on a machine is an attempt: the machine may refuse
the call, and then nothing has run and nothing has changed; or the call comes to one run, after
which the tool has left the files as it does (`Attempt.refused_or_run`). The run is made as the call
says (`Attempt.exists_of_run?`). So an attempt adds to the runs of the machine the run that it comes
to, if any (`Attempt.runs_after`), and it gives what the tool prints just where it comes to a run
that ends with the status of success (`Attempt.succeeds_iff`).
-/

import PackageListing.Machine

namespace PackageListing

/-- Which tool to run and how. -/
structure Call where
  /-- The tool. -/
  tool : String
  /-- Its first argument. -/
  command : String
  /-- The arguments after the command. -/
  arguments : List String
  /-- The directory to run it in. -/
  directory : String
  /-- The variables to set. -/
  changes : List (String × String)
  deriving DecidableEq

/-- Makes a call. -/
def Call.make (c : Call) : Action (List UInt8) :=
  Action.runTool c.tool c.command c.arguments c.directory c.changes

/-- A call that is made on a machine. -/
structure Attempt where
  /-- The call. -/
  call : Call
  /-- The machine. -/
  before : Machine

namespace Attempt

/-- What the attempt gives. -/
def result (a : Attempt) : Except Failure (List UInt8) :=
  (a.call.make a.before).1

/-- The machine after the attempt. -/
def after (a : Attempt) : Machine :=
  (a.call.make a.before).2

/-- The run that the attempt comes to, unless the machine refuses the call. -/
def run? (a : Attempt) : Option Run :=
  (a.before.prepare a.call.tool (a.call.command :: a.call.arguments) a.call.directory
    a.call.changes).toOption

/-- What a run on the machine leads to. -/
def outcome (a : Attempt) (run : Run) : Outcome :=
  a.before.behaviour run a.before.files.tree

/-- The attempt comes to a run that ends with the status of success. -/
def Succeeds (a : Attempt) : Prop :=
  ∃ run, a.run? = some run ∧ (a.outcome run).status = 0

/-- **What an attempt comes to.** The machine refuses the call, or the tool runs once. -/
theorem refused_or_run (a : Attempt) :
    (∃ e, a.run? = none ∧ a.result = .error ⟨[.runTool a.call.tool a.call.command], .io e⟩ ∧
        a.after = a.before) ∨
      ∃ run, a.run? = some run ∧
        (a.result = if (a.outcome run).status = 0 then .ok (a.outcome run).stdout
          else .error (.of (.toolFailed a.call.tool a.call.command (a.outcome run).status))) ∧
        a.after = (a.before.perform run).2 := by
  simp only [run?, result, after, Call.make, Action.runTool]
  cases a.before.prepare a.call.tool (a.call.command :: a.call.arguments) a.call.directory
    a.call.changes with
  | error e => exact Or.inl ⟨e, rfl, rfl, rfl⟩
  | ok run =>
    refine Or.inr ⟨run, rfl, ?_⟩
    change (ite ((a.outcome run).status = 0) (Except.ok (a.outcome run).stdout, _) (_, _)).1 = _ ∧
      (ite ((a.outcome run).status = 0) (_, (a.before.perform run).2)
        (_, (a.before.perform run).2)).2 = _
    split
    · exact ⟨rfl, rfl⟩
    · exact ⟨rfl, rfl⟩

/-- What the machine does not refuse. -/
theorem prepare_eq_ok {m : Machine} {tool directory program : String} {arguments : List String}
    {changes : List (String × String)} {place : FileTree.Place}
    {entries : List (String × FileTree)}
    (hzero : (Machine.hasZero tool || arguments.any Machine.hasZero ||
      Machine.hasZero directory || Machine.changesHaveZero changes) = false)
    (hplace : m.files.resolve directory = .ok place)
    (hat : m.files.tree.at? place = some (.directory entries))
    (hprogram : Machine.findProgram { m.files with workingPlace := place }
      (Environment.overlay m.env changes) tool = .ok program) :
    m.prepare tool arguments directory changes =
      .ok ⟨program, arguments, place, Environment.overlay m.env changes⟩ := by
  rw [Machine.prepare, hzero]
  refine Result.bind_eq_ok.2 ⟨place, hplace, ?_⟩
  simp only [hat]
  exact Result.bind_eq_ok.2 ⟨program, hprogram, rfl⟩

/-- **The run is made of what the call says,** of a program and of the place of the directory. -/
theorem exists_of_prepare {m : Machine} {tool directory : String} {arguments : List String}
    {changes : List (String × String)} {run : Run}
    (h : m.prepare tool arguments directory changes = .ok run) :
    ∃ program place, run = ⟨program, arguments, place, Environment.overlay m.env changes⟩ := by
  rw [Machine.prepare] at h
  split at h
  · cases h
  · obtain ⟨place, -, h⟩ := Result.bind_eq_ok.1 h
    split at h
    · obtain ⟨program, -, h⟩ := Result.bind_eq_ok.1 h
      cases h
      exact ⟨program, place, rfl⟩
    · cases h
    · cases h

theorem exists_of_run? {a : Attempt} {run : Run} (h : a.run? = some run) :
    ∃ program place, run = ⟨program, a.call.command :: a.call.arguments, place,
      Environment.overlay a.before.env a.call.changes⟩ := by
  rw [run?] at h
  generalize hprepare : Machine.prepare _ _ _ _ _ = prepared at h
  cases prepared with
  | error e => cases h
  | ok run' =>
    cases h
    exact exists_of_prepare hprepare

/-- What an attempt comes to that the machine does not refuse. -/
theorem result_of_prepare {a : Attempt} {run : Run}
    (hprepare : a.before.prepare a.call.tool (a.call.command :: a.call.arguments) a.call.directory
      a.call.changes = .ok run) (hstatus : (a.outcome run).status = 0) :
    a.result = .ok (a.outcome run).stdout ∧ a.after = (a.before.perform run).2 := by
  have hrun : a.run? = some run := congrArg Except.toOption hprepare
  rcases a.refused_or_run with ⟨e, hnone, -⟩ | ⟨run', hrun', hresult, hafter⟩
  · cases hrun.symm.trans hnone
  · cases hrun.symm.trans hrun'
    rw [if_pos hstatus] at hresult
    exact ⟨hresult, hafter⟩

/-- **An attempt adds its run to the runs of the machine.** -/
theorem runs_after (a : Attempt) : a.after.runs = a.before.runs ++ [a].filterMap run? := by
  rcases a.refused_or_run with ⟨e, hrun, -, hafter⟩ | ⟨run, hrun, -, hafter⟩
  · rw [hafter, List.filterMap_cons_none hrun, List.filterMap_nil, List.append_nil]
  · rw [hafter, List.filterMap_cons_some hrun, List.filterMap_nil]
    rfl

theorem succeeds_iff {a : Attempt} : a.Succeeds ↔ ∃ out, a.result = .ok out := by
  rcases a.refused_or_run with ⟨e, hrun, hresult, -⟩ | ⟨run, hrun, hresult, -⟩
  · simp [Succeeds, hrun, hresult]
  · rw [Succeeds, hrun, hresult]
    split
    · next h => exact ⟨fun _ => ⟨_, rfl⟩, fun _ => ⟨run, rfl, h⟩⟩
    · next h =>
      refine ⟨fun ⟨run', heq, hstatus⟩ => ?_, fun ⟨_, heq⟩ => nomatch heq⟩
      cases heq
      exact absurd hstatus h

theorem succeeds_of_result {a : Attempt} {out : List UInt8} (h : a.result = .ok out) :
    a.Succeeds :=
  succeeds_iff.2 ⟨out, h⟩

theorem cause_of_result {a : Attempt} {e : Failure} (h : a.result = .error e) :
    (∃ error, e.cause = .io error) ∨
      ∃ status, e.cause = .toolFailed a.call.tool a.call.command status := by
  rcases a.refused_or_run with ⟨error, -, hresult, -⟩ | ⟨run, -, hresult, -⟩
  · rw [h] at hresult
    cases hresult
    exact .inl ⟨error, rfl⟩
  · rw [h] at hresult
    split at hresult
    · cases hresult
    · cases hresult
      exact .inr ⟨_, rfl⟩

end Attempt
end PackageListing
