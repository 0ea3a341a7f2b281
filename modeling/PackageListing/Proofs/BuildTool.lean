/-
# Creating the log of a build

The log of a build is a new file: of the numbers for it the first is taken, if nothing has it
(`createLog_of_free`). To create it is no run of a tool (`createLog_runs`).
-/

import PackageListing.BuildTool

namespace PackageListing
namespace Build

theorem freeLogPath_of_free {fs : FileSystem} {directory : String} {n : Nat} {e : IoError}
    (h : fs.resolve (logPath directory n) = .error e) (tries : Nat) :
    freeLogPath fs directory n tries = logPath directory n := by
  -- The lookup must not be evaluated: the limit on the length of a path is counted down then.
  delta freeLogPath
  generalize hpath : logPath directory n = path at h ⊢
  cases tries with
  | zero => exact hpath
  | succ tries =>
    simp only [freeLogPath._f]
    rw [hpath, h]

/-- **The log gets the first number,** if nothing has it. -/
theorem createLog_of_free {m : Machine} {directory path : String} {e : IoError}
    {files : FileSystem} (hdirectory : m.files.absolute (temporaryDirectory m.env) = directory)
    (hpath : logPath directory 0 = path) (hfree : m.files.resolve path = .error e)
    (hwrite : m.files.write path [] = .ok files) :
    createLog m = (.ok path, { m with files := files }) := by
  have hlog : freeLogPath m.files (m.files.absolute (temporaryDirectory m.env)) 0 1000 = path := by
    rw [hdirectory, freeLogPath_of_free (hpath ▸ hfree), hpath]
  unfold createLog
  -- Nor must the path of the log.
  extract_lets directory path'
  have hpath' : path' = path := hlog
  clear_value path'
  subst hpath'
  rw [hwrite]

theorem createLog_runs (m : Machine) : (createLog m).2.runs = m.runs := by
  unfold createLog
  extract_lets directory path
  clear_value path
  cases m.files.write path [] with
  | error e => rfl
  | ok files => rfl

theorem runs_of_createLog {m m' : Machine} {r : Except Failure String}
    (h : createLog m = (r, m')) : m'.runs = m.runs :=
  (congrArg (fun p : Except Failure String × Machine => p.2.runs) h).symm.trans (createLog_runs m)

end Build
end PackageListing
