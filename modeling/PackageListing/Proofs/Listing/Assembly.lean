/-
# What a listing puts together

In a workspace a listing answers with the descriptors in the files that the build told of, in the
order of these files, where a directory stands for the files below it. Their paths are made absolute
and nothing else in them is changed. The roots are the targets, in the order in which the build tool
names them, and after them the packages of the standard library, if it was asked for
(`list_assembles`).
-/

import PackageListing.Proofs.Build.EventLog
import PackageListing.Proofs.Build.Harvest
import PackageListing.Proofs.BuildTool
import PackageListing.Proofs.Files.Plain
import PackageListing.Proofs.Listing.Course
import PackageListing.Proofs.Loading

namespace PackageListing
namespace Listing

theorem info_apply (config : Config) (root : String) (m : Machine) :
    (BuildTool.ofConfig config root).info m =
      ((Attempt.result ⟨infoCall config root, m⟩).map reportOf,
        Attempt.after ⟨infoCall config root, m⟩) :=
  Action.bind_pure_apply _ _ m

/-- Where things are, as they are reported. -/
theorem reported_of_ask {config : Config} {root : String} {m m₁ m₂ : Machine} {report : Names.Map}
    {w : Workspace} (hinfo : (BuildTool.ofConfig config root).info m = (.ok report, m₁))
    (hask : Workspace.ask config root m = (.ok w, m₂)) :
    Workspace.ofReport config root report = .ok w ∧ m₂ = m₁ := by
  rw [Workspace.ask, Action.bind_ofExcept_apply, hinfo] at hask
  obtain ⟨hreport, hmachine⟩ := Prod.mk.inj hask
  exact ⟨hreport, hmachine.symm⟩

theorem gathered_eq_ok_iff {aspect path : String} {fs : FileSystem} {files : List String} :
    gathered aspect path fs = .ok files ↔ ∃ log, fs.read path = .ok log ∧
      Build.harvest aspect (.ofBytes log) = .ok files := by
  rw [gathered, Result.bind_eq_ok]
  refine exists_congr fun log => and_congr Result.mapError_eq_ok ?_
  cases Build.harvest aspect (.ofBytes log) with
  | error defect =>
    constructor
    · intro h
      cases h
    · intro h
      cases h
  | ok files' => exact ⟨fun h => by cases h; rfl, fun h => by cases h; rfl⟩

theorem Harvests.increasing {config : Config} {options : Options} {selection : Selection}
    {w : Workspace} {m m' : Machine} {targets files : List String} {builds : List Attempt}
    (h : Harvests config options selection w targets m builds (.ok files) m') :
    files.Pairwise fun a b => Text.encode a.toList < Text.encode b.toList := by
  cases h with
  | skipped hwanted => exact .nil
  | gathered hwanted hlog hbuild hgathered =>
    obtain ⟨log, -, hharvest⟩ := gathered_eq_ok_iff.1 hgathered
    rw [Build.harvest_eq] at hharvest
    split at hharvest
    · cases hharvest
    · cases hharvest
    · cases hharvest
      exact Build.FileSetGraph.files_increasing _

theorem loaded_eq_ok_iff {config : Config} {w : Workspace} {options : Options}
    {selection : Selection} {targets files : List String} {fs : FileSystem} {response : Response} :
    loaded config w options selection targets files fs = .ok response ↔
      ∃ packages, Descriptors.load fs (files.map (Path.join w.binaries)) = .ok packages ∧
        assemble config w options (!selection.standardLibrary.isEmpty) targets packages =
          response :=
  Result.map_eq_ok

/-- The packages of the standard library are told by how their identifiers begin. -/
theorem idsFrom_eq (start : String) (packages : List Package) :
    idsFrom start packages =
      (packages.filter fun p => start.toList <+: p.id.toList).map (·.id) := by
  rw [idsFrom, List.filter_map]
  congr 1
  refine List.filter_congr fun p _ => ?_
  rw [Function.comp_apply, Bool.eq_iff_iff, Option.isSome_iff_exists, decide_eq_true_eq]
  exact exists_congr fun rest => Text.afterStart?_eq_some.trans eq_comm

/-- **What a listing in a workspace puts together.** -/
theorem list_assembles {config : Config} {directory root workspace execution : String}
    {options : Options} {patterns : List String} {m m₁ m' : Machine} {report : Names.Map}
    {response : Response}
    (hlist : list config directory options patterns m = (.ok response, m'))
    (hroot : Workspace.rootAround? m.files directory = some root)
    (hinfo : (BuildTool.ofConfig config root).info m = (.ok report, m₁))
    (hworkspace : Workspace.reported? report "workspace" = some workspace)
    (hexecution : Workspace.reported? report "execution_root" = some execution)
    (habsolute : Path.isAbsolute workspace ∧ Path.isAbsolute execution) :
    ∃ selection binaries queries targets m₂ builds files expanded packages,
      Selection.ofPatterns patterns = .ok selection ∧
      Workspace.reported? report "bazel-bin" = some binaries ∧
      Resolves config options selection ⟨workspace, binaries, execution⟩ m₁ queries
        (.ok targets) m₂ ∧
      Harvests config options selection ⟨workspace, binaries, execution⟩ targets m₂ builds
        (.ok files) m' ∧
      (files.Pairwise fun a b => Text.encode a.toList < Text.encode b.toList) ∧
      (files.map (Path.join binaries)).mapM (Descriptors.filesOf m'.files) = .ok expanded ∧
      expanded.flatten.mapM (Descriptors.loadFile m'.files) = .ok packages ∧
      response.packages = packages.map (Descriptors.absolute workspace execution) ∧
      List.Forall₂ Descriptors.IsAbsoluteFormOf packages response.packages ∧
      response.roots = targets ++
        if selection.standardLibrary = [] then []
        else (response.packages.filter fun p =>
          config.standardStart.toList <+: p.id.toList).map (·.id) := by
  obtain ⟨selection, w, _, targets, m₂, files, hselection, hask, htargets, hfiles, hloaded⟩ :=
    (list_eq_ok_iff hroot).1 hlist
  obtain ⟨hreport, hmachine⟩ := reported_of_ask hinfo hask
  subst hmachine
  obtain ⟨binaries, hbinaries, rfl⟩ : ∃ binaries,
      Workspace.reported? report "bazel-bin" = some binaries ∧
        w = ⟨workspace, binaries, execution⟩ := by
    obtain ⟨hbinaries, hexecution', hroot'⟩ := Workspace.ofReport_eq_ok_iff.1 hreport
    rw [hworkspace, Option.getD_some] at hroot'
    rw [hexecution, Option.some_inj] at hexecution'
    rcases w with ⟨_, binaries, _⟩
    exact ⟨binaries, hbinaries, by rw [hroot', hexecution']⟩
  obtain ⟨queries, hresolves⟩ :=
    resolves config options selection ⟨workspace, binaries, execution⟩ _
  rw [htargets] at hresolves
  obtain ⟨builds, hharvests⟩ :=
    harvests config options selection ⟨workspace, binaries, execution⟩ targets m₂
  rw [hfiles] at hharvests
  obtain ⟨packages, hload, rfl⟩ := loaded_eq_ok_iff.1 hloaded
  obtain ⟨expanded, hexpanded, hpackages⟩ := Descriptors.load_eq_ok_iff.1 hload
  refine ⟨selection, binaries, queries, targets, m₂, builds, files, expanded, packages, hselection,
    hbinaries, hresolves, hharvests, hharvests.increasing, hexpanded, hpackages, rfl, ?_, ?_⟩
  · exact List.forall₂_map_right_iff.2 (List.forall₂_same.2 fun p _ =>
      Descriptors.isAbsoluteFormOf_absolute habsolute.1 habsolute.2 p)
  · simp only [assemble, withSizes, idsFrom_eq]
    cases selection.standardLibrary with
    | nil => rfl
    | cons pattern patterns => rfl

/-! ### A workspace with two descriptors -/

/-- A build tool in the root. -/
def sampleConfig : Config where
  buildTool := "/bazel"
  commonFlags := []
  queryFlags := []
  buildFlags := []
  rulesRepository := "@io_bazel_rules_go"
  goTool := "go"

/-- A listing without further facets. -/
def sampleOptions : Options where
  facets := ⟨false, false, false⟩
  buildFlags := []
  env := []
  architecture := "amd64"

/-- What is asked for: a target and the standard library. -/
def sampleSelection : Selection :=
  ⟨[], ["//a"], ["std"]⟩

/-- What the build tool reports. -/
def sampleReport : List UInt8 :=
  Text.encode "bazel-bin: /\nexecution_root: /exec\nworkspace: /\n".toList

/-- The workspace of the report. -/
def sampleWorkspace : Workspace :=
  ⟨"/", "/", "/exec"⟩

/-- What the build tool does: it produces `b.json` and `a.json`. -/
def sampleEvents : List Build.Event :=
  [⟨some ⟨none, some "0"⟩, none, some ⟨["b.json", "a.json"], []⟩⟩,
    ⟨some ⟨some ⟨"//a", aspect sampleConfig sampleOptions⟩, none⟩,
      some ⟨true, [⟨Build.outputGroup, ["0"]⟩]⟩, none⟩]

section Sample

variable (p q : Package)

/-- A marker, the build tool, and two descriptors. -/
def sampleEntries : List (String × FileTree) :=
  [("WORKSPACE", .file []), ("bazel", .program "bazel"),
    ("a.json", .file (Text.encode (p.render.toList ++ ['\n']))),
    ("b.json", .file (Text.encode (q.render.toList ++ ['\n'])))]

/-- The log of the build. -/
def sampleLog : String × FileTree :=
  ("gopackagesdriver0.bep", .file (Build.EventLog.encode sampleEvents))

/-- How the build tool behaves. -/
def sampleBehaviour (run : Run) (tree : FileTree) : Outcome :=
  match run.arguments with
  | "info" :: _ => ⟨0, sampleReport, tree⟩
  | "query" :: _ => ⟨0, Text.encode "//a\n".toList, tree⟩
  | _ => ⟨0, [], .directory (sampleLog :: sampleEntries p q)⟩

/-- The files before the build and after it. -/
def sampleFiles : FileSystem :=
  ⟨.directory (sampleEntries p q), []⟩

/-- The machine after some runs. -/
def sampleMachine (runs : List Run) : Machine where
  files := sampleFiles p q
  env := .ofList [("TMPDIR", "/")]
  behaviour := sampleBehaviour p q
  runs := runs

theorem tree_sampleFiles : (sampleFiles p q).tree = .directory (sampleEntries p q) := rfl

theorem rootAround?_sample : Workspace.rootAround? (sampleFiles p q) "/" = some "/" := by
  have hpath : FileSystem.IsRootPath "/WORKSPACE" "WORKSPACE" := ⟨rfl, rfl, rfl, by decide⟩
  have hmarker : (sampleFiles p q).get "/WORKSPACE" = .ok (.file []) :=
    (FileSystem.resolve_of_lookup hpath (tree_sampleFiles p q) rfl nofun).2
  have hfile : (sampleFiles p q).isFile (Path.join "/" "WORKSPACE") = true := by
    change (sampleFiles p q).isFile "/WORKSPACE" = true
    rw [FileSystem.isFile, hmarker]
    rfl
  have hancestors : Path.ancestors "/" = ["/"] := by decide +kernel
  have hmarked : Workspace.isMarked (sampleFiles p q) "/" = true := by
    rw [Workspace.isMarked, Workspace.markers, List.any_cons, hfile, Bool.true_or]
  rw [Workspace.rootAround?, hancestors]
  exact List.find?_cons_of_pos hmarked

/-- The build tool is there to be run as long as it lies in the root. -/
theorem result_sample {m : Machine} {c : Call} {entries : List (String × FileTree)}
    {outcome : Outcome} (hroot : m.files.tree = .directory entries)
    (htool : entries.lookup "bazel" = some (.program "bazel"))
    (hcall : c.tool = "/bazel" ∧ c.directory = "/" ∧ c.changes = [])
    (hzero : (c.command :: c.arguments).any Machine.hasZero = false)
    (houtcome : m.behaviour ⟨"bazel", c.command :: c.arguments, [], m.env⟩ m.files.tree = outcome)
    (hstatus : outcome.status = 0) :
    Attempt.result ⟨c, m⟩ = .ok outcome.stdout ∧
      Attempt.after ⟨c, m⟩ =
        { m with
          files := { m.files with tree := outcome.tree }
          runs := m.runs ++ [⟨"bazel", c.command :: c.arguments, [], m.env⟩] } := by
  obtain ⟨tool, command, arguments, directory, changes⟩ := c
  obtain ⟨rfl, rfl, rfl⟩ := hcall
  subst houtcome
  have hpath : FileSystem.IsRootPath "/bazel" "bazel" := ⟨rfl, rfl, rfl, by decide⟩
  have hroot' : (FileSystem.mk m.files.tree []).tree = .directory entries := hroot
  have hget := (FileSystem.resolve_of_lookup hpath hroot' htool nofun).2
  have hprogram : Machine.findProgram { m.files with workingPlace := [] } m.env "/bazel" =
      .ok "bazel" := by
    change Machine.programAt _ "/bazel" = _
    exact Result.bind_eq_ok.2 ⟨_, hget, rfl⟩
  have hat : m.files.tree.at? [] = some (.directory entries) := by rw [hroot, FileTree.at?_nil]
  have hprepare : m.prepare "/bazel" (command :: arguments) "/" [] =
      .ok ⟨"bazel", command :: arguments, [], m.env⟩ :=
    Attempt.prepare_eq_ok (by rw [hzero]; rfl) (FileSystem.resolve_root hroot) hat hprogram
  exact Attempt.result_of_prepare (a := ⟨⟨"/bazel", command, arguments, "/", []⟩, m⟩) hprepare
    hstatus

theorem info_sample : ∃ runs,
    (BuildTool.ofConfig sampleConfig "/").info (sampleMachine p q []) =
      (.ok (reportOf sampleReport), sampleMachine p q runs) := by
  obtain ⟨hresult, hafter⟩ := result_sample (m := sampleMachine p q [])
    (c := infoCall sampleConfig "/") rfl rfl ⟨rfl, rfl, rfl⟩ rfl rfl rfl
  rw [info_apply, hresult, hafter]
  exact ⟨_, rfl⟩

theorem ofReport_sample :
    Workspace.ofReport sampleConfig "/" (reportOf sampleReport) = .ok sampleWorkspace := by
  decide +kernel

theorem ask_sample : ∃ runs,
    Workspace.ask sampleConfig "/" (sampleMachine p q []) =
      (.ok sampleWorkspace, sampleMachine p q runs) := by
  obtain ⟨runs, hinfo⟩ := info_sample p q
  rw [Workspace.ask, Action.bind_of_ok hinfo, ofReport_sample]
  exact ⟨runs, rfl⟩

theorem resolving_sample (runs : List Run) : ∃ runs',
    resolving sampleConfig sampleOptions sampleSelection sampleWorkspace
      (sampleMachine p q runs) = (.ok ["//a"], sampleMachine p q runs') := by
  obtain ⟨hresult, hafter⟩ := result_sample (m := sampleMachine p q runs)
    (c := queryCall sampleConfig sampleOptions sampleWorkspace sampleSelection) rfl rfl
    ⟨rfl, rfl, rfl⟩ (by decide +kernel) rfl rfl
  have hquery : queryOf sampleWorkspace sampleSelection ≠ "" := by decide +kernel
  have hlabels : Query.labels (Text.encode "//a\n".toList) = ["//a"] := by decide +kernel
  rw [resolving_apply, if_neg hquery, hresult, hafter]
  exact ⟨_, congrArg (fun labels => (Except.ok labels, _)) hlabels⟩

theorem isRootPath_sampleLog :
    FileSystem.IsRootPath "/gopackagesdriver0.bep" sampleLog.1 :=
  ⟨rfl, rfl, rfl, by decide⟩

theorem createLog_sample (runs : List Run) :
    Build.createLog (sampleMachine p q runs) = (.ok "/gopackagesdriver0.bep",
      { sampleMachine p q runs with
        files := ⟨.directory (sampleEntries p q ++ [(sampleLog.1, .file [])]), []⟩ }) := by
  have hat : (sampleFiles p q).tree.at? [] = some (.directory (sampleEntries p q)) := rfl
  have htemporary : Build.temporaryDirectory (.ofList [("TMPDIR", "/")]) = "/" := by
    decide +kernel
  have hdirectory : (sampleFiles p q).absolute
      (Build.temporaryDirectory (.ofList [("TMPDIR", "/")])) = "/" := by
    rw [htemporary, FileSystem.absolute, if_pos (by decide)]
  have hfree : (sampleFiles p q).resolve "/gopackagesdriver0.bep" = .error .notFound :=
    FileSystem.resolve_of_lookup_eq_none isRootPath_sampleLog (tree_sampleFiles p q) rfl
  have hfollow : (sampleFiles p q).follow FileSystem.linkLimit
      (FileSystem.startOf [] "/gopackagesdriver0.bep") [""] = .ok ([], FileSystem.linkLimit) := by
    change (sampleFiles p q).follow FileSystem.linkLimit [] [""] = _
    rw [FileSystem.follow_silent hat (.inl rfl), FileSystem.follow]
  have hlast : FileSystem.lastPiece? "/gopackagesdriver0.bep" =
      some ([""], sampleLog.1, false) := by
    decide +kernel
  exact Build.createLog_of_free hdirectory (by decide +kernel) hfree
    (FileSystem.write_of_lastPiece? rfl hlast hfollow hat (by decide) (by decide) (by decide) rfl
      [])

theorem harvest_sample :
    Build.harvest (aspect sampleConfig sampleOptions)
      (.ofBytes (Build.EventLog.encode sampleEvents)) = .ok ["a.json", "b.json"] := by
  have hlength : ∀ e ∈ sampleEvents, e.encode.length < 2 ^ 64 := by decide +kernel
  have hfailure : sampleEvents.findSome? (Build.failure? (aspect sampleConfig sampleOptions)) =
      none := by
    decide +kernel
  have hgraph : Build.graphOf (aspect sampleConfig sampleOptions) sampleEvents =
      ⟨[("0", ⟨["b.json", "a.json"], []⟩)], ["0"]⟩ := by
    decide +kernel
  have hvisits : Traversal.preorder Build.FileSet.fileSets
      [("0", ⟨["b.json", "a.json"], []⟩)] ["0"] = [⟨["b.json", "a.json"], []⟩] :=
    (Traversal.preorder_of_lookup_eq_some [] rfl).trans <| congrArg _ Traversal.preorder_nil
  rw [Build.EventLog.ofBytes_encode hlength, Build.harvest_eq]
  dsimp only
  rw [hfailure, hgraph, Build.FileSetGraph.files, hvisits]
  decide +kernel

theorem harvesting_sample (runs : List Run) : ∃ m',
    harvesting sampleConfig sampleOptions sampleSelection sampleWorkspace ["//a"]
      (sampleMachine p q runs) = (.ok ["a.json", "b.json"], m') ∧ m'.files = sampleFiles p q := by
  obtain ⟨hresult, hafter⟩ := result_sample
    (m := { sampleMachine p q runs with
      files := ⟨.directory (sampleEntries p q ++ [(sampleLog.1, .file [])]), []⟩ })
    (c := buildCall sampleConfig sampleOptions sampleWorkspace sampleSelection ["//a"]
      "/gopackagesdriver0.bep") rfl rfl ⟨rfl, rfl, rfl⟩ (by decide +kernel) rfl rfl
  have hbuilt : (FileSystem.mk (.directory (sampleLog :: sampleEntries p q)) []).tree =
    .directory (sampleLog :: sampleEntries p q) := rfl
  obtain ⟨hresolve, hget⟩ := FileSystem.resolve_of_lookup (t := sampleLog.2) isRootPath_sampleLog
    hbuilt rfl nofun
  have hgathered : gathered (aspect sampleConfig sampleOptions) "/gopackagesdriver0.bep"
      ⟨.directory (sampleLog :: sampleEntries p q), []⟩ = .ok ["a.json", "b.json"] :=
    gathered_eq_ok_iff.2 ⟨_, Result.bind_eq_ok.2 ⟨_, hget, rfl⟩, harvest_sample⟩
  have hremove : FileSystem.remove ⟨.directory (sampleLog :: sampleEntries p q), []⟩
      "/gopackagesdriver0.bep" = sampleFiles p q := by
    rw [FileSystem.remove, hresolve]
    simp only [FileTree.erase]
    rfl
  rw [harvesting_of_isWanted (.inl (by decide)) (createLog_sample p q runs), hresult, hafter]
  exact ⟨_, congrArg₂ Prod.mk (congrArg (Except.mapError _) hgathered) rfl, hremove⟩

theorem load_sample : Descriptors.load (sampleFiles p q) ["/a.json", "/b.json"] = .ok [p, q] := by
  have ha : FileSystem.IsRootPath "/a.json" "a.json" := ⟨rfl, rfl, rfl, by decide⟩
  have hb : FileSystem.IsRootPath "/b.json" "b.json" := ⟨rfl, rfl, rfl, by decide⟩
  have hp : Descriptors.loadPath (sampleFiles p q) "/a.json" = .ok [p] :=
    Descriptors.loadPath_of_get (by decide)
      (FileSystem.resolve_of_lookup ha (tree_sampleFiles p q) rfl nofun).2
  have hq : Descriptors.loadPath (sampleFiles p q) "/b.json" = .ok [q] :=
    Descriptors.loadPath_of_get (by decide)
      (FileSystem.resolve_of_lookup hb (tree_sampleFiles p q) rfl nofun).2
  rw [Descriptors.load, List.mapM_cons, hp, List.mapM_cons, hq]
  rfl

/-- The listing answers with the two descriptors. -/
theorem list_sample : ∃ m',
    list sampleConfig "/" sampleOptions ["//a", "std"] (sampleMachine p q []) =
      (.ok (assemble sampleConfig sampleWorkspace sampleOptions true ["//a"] [p, q]), m') := by
  obtain ⟨runs, hask⟩ := ask_sample p q
  obtain ⟨runs', htargets⟩ := resolving_sample p q runs
  obtain ⟨m', hharvesting, hfiles⟩ := harvesting_sample p q runs'
  have hloaded : loaded sampleConfig sampleWorkspace sampleOptions sampleSelection ["//a"]
      ["a.json", "b.json"] m'.files =
        .ok (assemble sampleConfig sampleWorkspace sampleOptions true ["//a"] [p, q]) := by
    rw [hfiles]
    exact loaded_eq_ok_iff.2 ⟨[p, q], load_sample p q, rfl⟩
  exact ⟨m', (list_eq_ok_iff (rootAround?_sample p q)).2 ⟨sampleSelection, sampleWorkspace, _,
    ["//a"], _, ["a.json", "b.json"], rfl, hask, htargets, hharvesting, hloaded⟩⟩

end Sample

/-- A program with sources of its own and of another repository, and with export data. -/
def sampleProgram : Package where
  id := "//a"
  name := "main"
  path := "a"
  problems := []
  goFiles := ["a/a.go", "external/e/e.go"]
  compiledGoFiles := ["/cache/a.go"]
  otherFiles := []
  exportFile := some "bin/a.x"
  imports := .ofList [("fmt", "@io_bazel_rules_go//:stdlib%fmt")]

/-- A package of the standard library. -/
def sampleStandard : Package :=
  { (default : Package) with id := "@io_bazel_rules_go//:stdlib%fmt" }

theorem list_assembles_sample :
    ∃ response m',
      list sampleConfig "/" sampleOptions ["//a", "std"]
        (sampleMachine sampleProgram sampleStandard []) = (.ok response, m') ∧
      response.roots = ["//a", "@io_bazel_rules_go//:stdlib%fmt"] ∧
      response.packages.map (·.goFiles) = [["/a/a.go", "/exec/external/e/e.go"], []] ∧
      ∃ packages, List.Forall₂ Descriptors.IsAbsoluteFormOf packages response.packages := by
  obtain ⟨_, hlist⟩ := list_sample sampleProgram sampleStandard
  obtain ⟨_, hinfo⟩ := info_sample sampleProgram sampleStandard
  have hworkspace : Workspace.reported? (reportOf sampleReport) "workspace" = some "/" := by
    decide +kernel
  have hexecution : Workspace.reported? (reportOf sampleReport) "execution_root" =
      some "/exec" := by
    decide +kernel
  obtain ⟨_, _, _, _, _, _, _, _, packages, _, _, _, _, _, _, _, _, habsolute, _⟩ :=
    list_assembles hlist (rootAround?_sample _ _) hinfo hworkspace hexecution
      ⟨by decide, by decide⟩
  exact ⟨_, _, hlist, by decide +kernel, by decide +kernel, packages, habsolute⟩

end Listing
end PackageListing
