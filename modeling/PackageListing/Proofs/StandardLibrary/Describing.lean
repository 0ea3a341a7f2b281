/-
# The standard library, described and loaded

To describe the standard library is to have the go tool list it, which leaves the working directory
(`GoTool.workingPlace_list`), and then to write the files and the marker (`describe_apply`). What is
described is loaded (`describe_loads`), by all paths of the directory but one: a directory is loaded
under its absolute path, and nothing is under `-` (`not_describe_loads`).
-/

import Mathlib
import PackageListing.Proofs.Listing.Assembly
import PackageListing.Proofs.StandardLibrary.Directory

namespace PackageListing

/-- A listing leaves the working directory. -/
theorem GoTool.workingPlace_list (tool : GoTool) (patterns : List String) (m : Machine) :
    (tool.list patterns m).2.files.workingPlace = m.files.workingPlace := by
  rw [GoTool.list, Action.bind_ofExcept_apply]
  rcases (Attempt.mk ⟨tool.program, "list", commonFlags ++ tool.flags ++ ["--"] ++ patterns,
    tool.directory, tool.changes ++ [driverOff]⟩ m).refused_or_run with
    ⟨_, -, -, hafter⟩ | ⟨_, -, -, hafter⟩
  · exact congrArg (·.files.workingPlace) hafter
  · exact congrArg (·.files.workingPlace) hafter

theorem Descriptors.write_of_parent? {fs fs₁ fs' : FileSystem} {p : Package} {path parent : String}
    (hparent : Path.parent? path = some parent) (hcreate : fs.createDirectories parent = .ok fs₁)
    (hwrite : fs₁.write path (Text.encode (p.render.toList ++ ['\n'])) = .ok fs') :
    write fs p path = .ok fs' := by
  rw [write, hparent]
  exact Result.bind_eq_ok.2 ⟨fs₁, Result.mapError_eq_ok.2 hcreate, Result.mapError_eq_ok.2 hwrite⟩

namespace StandardLibrary

open Descriptors (marker cacheName)
open FileSystem (Holds pieces)

section

variable {program output label : String} {m m₁ : Machine}
  {listed : Except Failure (List ListedPackage)}

/-- The go tool lists, then the files are written, and then the marker. -/
theorem describe_apply (program output label : String) (m : Machine) :
    describe program output label m =
      match (toolFor m.files m.env program (m.files.absolute output)).list ["std"] m with
      | (.error e, m₁) => (.error (e.within .listStandardLibrary), m₁)
      | (.ok l, m₁) =>
        (((l.map (·.toPackage label)).forM fun p => Action.change fun fs =>
            Descriptors.write fs p (fileFor (m.files.absolute output) p)) >>= fun _ =>
          Action.change (writeMarker (m.files.absolute output)) >>= fun _ =>
          pure l.length) m₁ := by
  rw [describe, Action.bind_apply, Action.look_apply]
  simp only
  rw [Action.bind_apply, Action.during_apply]
  rcases (toolFor m.files m.env program (m.files.absolute output)).list ["std"] m with ⟨e | l, m₁⟩
  · rfl
  · rfl

/-- The identifiers of packages that are listed begin with the label. -/
theorem idsFrom_of_perm {l : List ListedPackage} {packages : List Package}
    (h : packages.Perm (l.map (·.toPackage label))) :
    Listing.idsFrom label packages = packages.map (·.id) := by
  rw [Listing.idsFrom_eq, List.filter_eq_self.2]
  intro p hp
  obtain ⟨q, -, rfl⟩ := List.mem_map.1 (h.mem_iff.1 hp)
  rw [decide_eq_true_eq, ListedPackage.toPackage, String.toList_append]
  exact List.prefix_append _ _

/-- The paths of listed packages. -/
def pathsOf (listed : List ListedPackage) : List String :=
  listed.map fun p => ListedPackage.plainPath p.importPath

/-- **What is described is loaded.** The go tool leaves nothing but its cache in the output
directory, and if it lists packages, then with paths of their own. So where they are described,
the path of the marker stands for them: each is loaded once, in the order of the places of the
files, and all are told by how their identifiers begin. The directory `-` is the exception; by this
path nothing is loaded. Where they are not described, there is no marker. -/
theorem describe_loads {entries : List (String × FileTree)} (hplaced : m.files.IsPlaced)
    (hlist : (toolFor m.files m.env program (m.files.absolute output)).list ["std"] m =
      (listed, m₁))
    (hempty : m₁.files.get output = .ok (.directory entries))
    (hcache : ∀ e ∈ entries, e.1 = cacheName)
    (hpaths : ∀ l, listed = .ok l → ArePackagePaths (pathsOf l)) :
    match describe program output label m with
    | (.ok count, m') => ∃ l sorted, listed = .ok l ∧ count = l.length ∧
        sorted.Perm (l.map (·.toPackage label)) ∧
        sorted.Pairwise (fun p q => filePlace p.path < filePlace q.path) ∧
        Listing.idsFrom label sorted = sorted.map (·.id) ∧
        Descriptors.load m'.files [Path.join output marker] =
          .ok (if Path.components output = [.member "-"] then [] else sorted)
    | (.error _, m') => m'.files.isFile (Path.join output marker) = false := by
  have hworking : m₁.files.workingPlace = m.files.workingPlace := by
    have hlisted := (toolFor m.files m.env program (m.files.absolute output)).workingPlace_list
      ["std"] m
    rwa [hlist] at hlisted
  have hplaced₁ : m₁.files.IsPlaced := by rwa [FileSystem.IsPlaced, hworking]
  obtain ⟨hcheck, base, left, hreaches, hat⟩ := FileSystem.exists_reaches_of_get hempty
  have habsolute := hreaches.absolute hplaced₁
  have houtput : output ≠ "" := (FileSystem.checkPath_eq_ok_iff.1 hcheck).2.1
  have hpath := m₁.files.absolute_ne_empty houtput
  have hstart : Holds cacheName m₁.files (m₁.files.absolute output) base [] m₁.files :=
    .start hat hcache
  -- Before the marker is written, it is none of the files that are stored.
  have hunmarked : ∀ (packages : List Package) {fs},
      (∀ path ∈ packages.map (·.path), IsPackagePath path) →
      Holds cacheName m₁.files (m₁.files.absolute output) base (packages.map entryOf) fs →
        fs.isFile (Path.join output marker) = false := fun _ _ hplain h =>
    h.isFile_eq_false houtput (h.reaches hreaches) isName_of_mem_marker cacheName_not_mem_marker
      (marker_not_mem hplain)
  rw [describe_apply, hlist, ← FileSystem.absolute_of_workingPlace_eq hworking]
  cases listed with
  | error e => exact hunmarked [] (List.forall_mem_nil _) hstart
  | ok l =>
    have hpackages : ArePackagePaths ((l.map (·.toPackage label)).map (·.path)) := by
      rw [List.map_map]
      exact hpaths l rfl
    have hall := holds_writeAll hstart habsolute hpath hpackages
    simp only [Action.bind_apply]
    generalize ((l.map (·.toPackage label)).forM fun p => Action.change fun fs =>
      Descriptors.write fs p (fileFor (m₁.files.absolute output) p)) m₁ = written at hall
    rcases written with ⟨e | _, m₂⟩
    · obtain ⟨done, hdone, hholds⟩ := hall
      exact hunmarked done (fun path h => hpackages.plain path ((hdone.map _).subset h)) hholds
    · simp only [Action.change]
      cases hmark : writeMarker (m₁.files.absolute output) m₂.files with
      | error e => exact hunmarked _ hpackages.plain hall
      | ok fs =>
        have hholds := holds_writeMarker hall habsolute hpath (marker_not_mem hpackages.plain) hmark
        obtain ⟨sorted, hperm, hsorted, hload⟩ := exists_load_marker hholds hpath houtput
          (hholds.reaches hreaches) (m₁.files.isWithin_absolute houtput) hpackages
        exact ⟨l, sorted, rfl, rfl, hperm, hsorted, idsFrom_of_perm hperm, hload⟩

end

/-! ### A directory under two paths -/

/-- A package. -/
def sampleNet : ListedPackage :=
  { (default : ListedPackage) with importPath := "net", name := "net" }

/-- A package whose path goes on from the path of the other one. -/
def sampleHttp : ListedPackage :=
  { (default : ListedPackage) with importPath := "net/http", name := "http" }

/-- What the go tool prints of them. -/
def sampleListing : List UInt8 :=
  Text.encode ("\x7b\"ImportPath\":\"net\",\"Name\":\"net\"\x7d" ++
    "\x7b\"ImportPath\":\"net/http\",\"Name\":\"http\"\x7d").toList

/-- The go tool, and the directory `-` with some entries. -/
def sampleFiles (entries : List (String × FileTree)) : FileSystem :=
  ⟨.directory [("go", .program "go"), ("-", .directory entries)], []⟩

/-- A machine where the directory is empty and the go tool lists the two packages. -/
def sampleMachine : Machine where
  files := sampleFiles []
  env := .empty
  behaviour := fun _ tree => ⟨0, sampleListing, tree⟩
  runs := []

theorem get_sample (entries : List (String × FileTree)) :
    (sampleFiles entries).get "-" = .ok (.directory entries) ∧
      (sampleFiles entries).get "/-" = .ok (.directory entries) :=
  ⟨by cbv, by cbv⟩

/-- The call of the go tool. -/
def sampleCall : Call :=
  ⟨"/go", "list", GoTool.commonFlags ++ [] ++ ["--"] ++ ["std"], "/",
    [("PATH", "/"), ("GOCACHE", "/-/.gocache"), GoTool.driverOff]⟩

theorem list_sample : ∃ m₁,
    (toolFor sampleMachine.files sampleMachine.env "/go" "/-").list ["std"] sampleMachine =
      (.ok [sampleNet, sampleHttp], m₁) ∧ m₁.files = sampleFiles [] := by
  have hpath : FileSystem.IsRootPath "/go" "go" := ⟨rfl, rfl, rfl, by decide⟩
  have hroot : sampleMachine.files.tree =
    .directory [("go", .program "go"), ("-", .directory [])] := rfl
  have hget := (FileSystem.resolve_of_lookup hpath hroot (t := .program "go") rfl nofun).2
  have htool : toolFor sampleMachine.files sampleMachine.env "/go" "/-" =
      ⟨"/go", "/", [("PATH", "/"), ("GOCACHE", "/-/.gocache")], []⟩ := by
    decide
  have hprogram : Machine.findProgram { sampleMachine.files with workingPlace := [] }
      (Environment.overlay sampleMachine.env sampleCall.changes) "/go" = .ok "go" := by
    change Machine.programAt _ "/go" = _
    exact Result.bind_eq_ok.2 ⟨_, hget, rfl⟩
  obtain ⟨hresult, hafter⟩ := Attempt.result_of_prepare (a := ⟨sampleCall, sampleMachine⟩)
    (Attempt.prepare_eq_ok (by decide) (FileSystem.resolve_root hroot) rfl hprogram) rfl
  have hdecode : ListedPackage.ofOutput? sampleListing = some [sampleNet, sampleHttp] := by
    decide +kernel
  rw [htool, GoTool.list, Action.bind_ofExcept_apply]
  change ∃ m₁, (Attempt.result ⟨sampleCall, sampleMachine⟩ >>= GoTool.decode,
    Attempt.after ⟨sampleCall, sampleMachine⟩) = _ ∧ _
  rw [hresult, hafter]
  refine ⟨_, Prod.ext ?_ rfl, rfl⟩
  change GoTool.decode sampleListing = _
  rw [GoTool.decode, hdecode]

theorem createDirectories_sample (entries : List (String × FileTree)) :
    (sampleFiles entries).createDirectories "/-" = .ok (sampleFiles entries) := by
  cbv

theorem write_sample {entries : List (String × FileTree)} {path name : String}
    (hcheck : FileSystem.checkPath path = .ok ())
    (hlast : FileSystem.lastPiece? path = some (["", "-"], name, false))
    (hstart : Path.isAbsolute path = true) (hname : FileSystem.IsPlain name)
    (hnew : entries.lookup name = none) (contents : List UInt8) :
    (sampleFiles entries).write path contents =
      .ok (sampleFiles (FileTree.putEntry name (.file contents) entries)) := by
  have hfollow : (sampleFiles entries).follow FileSystem.linkLimit (FileSystem.startOf [] path)
      ["", "-"] = .ok (["-"], FileSystem.linkLimit) := by
    rw [FileSystem.startOf, hstart]
    cbv
  exact FileSystem.write_of_lastPiece? hcheck hlast hfollow rfl (fun h => hname.1 (.inr h))
    hname.2.1 (Nat.le_of_not_lt hname.2.2) hnew contents

theorem write_net_sample {p : Package} (hp : p.path = "net") :
    ∃ contents, Descriptors.write (sampleFiles []) p (fileFor "/-" p) =
      .ok (sampleFiles [("net.json", .file contents)]) := by
  have hfile : fileFor "/-" p = "/-/net.json" := by
    rw [fileFor, hp]
    decide
  rw [hfile]
  exact ⟨_, Descriptors.write_of_parent? (by decide) (createDirectories_sample [])
    (write_sample rfl (by decide) rfl (by decide) rfl _)⟩

theorem write_http_sample {p : Package} (hp : p.path = "net/http") (contents : List UInt8) :
    ∃ entries, Descriptors.write (sampleFiles [("net.json", .file contents)]) p (fileFor "/-" p) =
      .ok (sampleFiles entries) ∧ entries.lookup marker = none := by
  have hfile : fileFor "/-" p = "/-/net/http.json" := by
    rw [fileFor, hp]
    decide
  have hcreate : (sampleFiles [("net.json", .file contents)]).createDirectory "/-/net" =
      .ok (sampleFiles [("net.json", .file contents), ("net", .directory [])]) :=
    Result.bind_eq_ok.2 ⟨(), rfl, by cbv⟩
  have hfollow : (sampleFiles [("net.json", .file contents), ("net", .directory [])]).follow
      FileSystem.linkLimit (FileSystem.startOf [] "/-/net/http.json") ["", "-", "net"] =
        .ok (["-", "net"], FileSystem.linkLimit) := by
    cbv
  have hlast : FileSystem.lastPiece? "/-/net/http.json" =
      some (["", "-", "net"], "http.json", false) := by
    decide
  have hwrite := FileSystem.write_of_lastPiece? rfl hlast hfollow rfl (by decide) (by decide)
    (by decide) rfl (Text.encode (p.render.toList ++ ['\n']))
  have hparent : Path.parent? "/-/net/http.json" = some "/-/net" := by decide
  have hwritten := Descriptors.write_of_parent? hparent
    (FileSystem.createDirectories_of_createDirectory (by decide) hcreate) hwrite
  rw [hfile, hwritten]
  exact ⟨[_, ("net", .directory [_])], rfl, rfl⟩

theorem writeMarker_sample {entries : List (String × FileTree)}
    (hnew : entries.lookup marker = none) :
    writeMarker "/-" (sampleFiles entries) =
      .ok (sampleFiles (FileTree.putEntry marker (.file []) entries)) := by
  have hpath : Path.join "/-" marker = "/-/.stdlib_marker" := by decide
  refine Result.bind_eq_ok.2 ⟨_, Result.mapError_eq_ok.2 (createDirectories_sample entries),
    Result.mapError_eq_ok.2 ?_⟩
  rw [hpath]
  exact write_sample rfl (by decide) rfl (by decide) hnew []

theorem describe_sample {output : String} (houtput : sampleMachine.files.absolute output = "/-")
    (label : String) : ∃ entries m', describe "/go" output label sampleMachine = (.ok 2, m') ∧
      m'.files = sampleFiles entries := by
  obtain ⟨m₁, hlist, hfiles⟩ := list_sample
  have hnetPath : ListedPackage.plainPath "net" = "net" := by decide
  have hhttpPath : ListedPackage.plainPath "net/http" = "net/http" := by decide
  obtain ⟨contents, hnet⟩ := write_net_sample (p := sampleNet.toPackage label) hnetPath
  obtain ⟨entries, hhttp, hnew⟩ := write_http_sample (p := sampleHttp.toPackage label) hhttpPath
    contents
  rw [← hfiles] at hnet
  have hfirst := Action.change_of_ok (m := m₁) (f := fun fs => Descriptors.write fs
    (sampleNet.toPackage label) (fileFor "/-" (sampleNet.toPackage label))) hnet
  have hsecond := Action.change_of_ok
    (m := { m₁ with files := sampleFiles [("net.json", .file contents)] })
    (f := fun fs => Descriptors.write fs (sampleHttp.toPackage label)
      (fileFor "/-" (sampleHttp.toPackage label))) hhttp
  have hwritten : ([sampleNet, sampleHttp].map (·.toPackage label)).forM
      (fun p => Action.change fun fs => Descriptors.write fs p (fileFor "/-" p)) m₁ =
        (.ok (), { m₁ with files := sampleFiles entries }) :=
    (Action.bind_of_ok hfirst).trans (Action.bind_of_ok hsecond)
  have hmarked := Action.change_of_ok (m := { m₁ with files := sampleFiles entries })
    (writeMarker_sample hnew)
  rw [describe_apply, houtput, hlist]
  exact ⟨_, _, (Action.bind_of_ok hwritten).trans (Action.bind_of_ok hmarked), rfl⟩

theorem arePackagePaths_sample : ArePackagePaths (pathsOf [sampleNet, sampleHttp]) := by
  have hpaths : pathsOf [sampleNet, sampleHttp] = ["net", "net/http"] := by decide
  rw [hpaths]
  refine ⟨by decide, List.forall_mem_cons.2 ⟨?_, List.forall_mem_singleton.2 ?_⟩⟩
  · exact ⟨by decide, by decide⟩
  · exact ⟨by decide, by decide⟩

theorem describe_loads_sample : ∃ m',
    describe "/go" "/-" "@rules//:stdlib%" sampleMachine = (.ok 2, m') ∧
      Descriptors.load m'.files ["/-/.stdlib_marker"] =
        .ok [sampleHttp.toPackage "@rules//:stdlib%", sampleNet.toPackage "@rules//:stdlib%"] := by
  obtain ⟨m₁, hlist, hfiles⟩ := list_sample
  have habsolute : sampleMachine.files.absolute "/-" = "/-" := rfl
  obtain ⟨_, m', hdescribe, -⟩ := describe_sample habsolute "@rules//:stdlib%"
  have hempty : m₁.files.get "/-" = .ok (.directory []) := by
    rw [hfiles]
    exact (get_sample []).2
  have hloads := @describe_loads "/go" "/-" "@rules//:stdlib%" sampleMachine m₁
    (.ok [sampleNet, sampleHttp]) [] (List.forall_mem_nil _) hlist hempty (List.forall_mem_nil _)
    fun l hl => Except.ok.inj hl ▸ arePackagePaths_sample
  rw [hdescribe] at hloads
  obtain ⟨l, sorted, hl, -, hperm, hsorted, -, hload⟩ := hloads
  cases hl
  have hordered : [sampleHttp.toPackage "@rules//:stdlib%",
      sampleNet.toPackage "@rules//:stdlib%"].Pairwise fun p q =>
        filePlace p.path < filePlace q.path := by
    refine List.pairwise_pair.2 ?_
    have hless : filePlace (ListedPackage.plainPath "net/http") <
        filePlace (ListedPackage.plainPath "net") := by
      decide
    exact hless
  have heq := (hperm.trans (List.Perm.swap _ _ [])).eq_of_pairwise
    (fun _ _ _ _ hab hba => absurd hba (lt_asymm hab)) hsorted hordered
  exact ⟨m', hdescribe, hload.trans (congrArg Except.ok heq)⟩

theorem load_sample (entries : List (String × FileTree)) :
    Descriptors.load (sampleFiles entries) ["-/.stdlib_marker"] = .ok [] := by
  have hmarked : Descriptors.markedDirectory? "-/.stdlib_marker" = some "-" := by decide
  have hbelow : Descriptors.foundBelow (sampleFiles entries) (.directory entries) "-" = [] :=
    if_pos (by decide)
  have hfound : Descriptors.foundOf (sampleFiles entries) "-/.stdlib_marker" = .ok [] := by
    rw [Descriptors.foundOf, hmarked]
    exact Result.bind_eq_ok.2 ⟨_, Result.mapError_eq_ok.2 (get_sample entries).1,
      congrArg Except.ok hbelow⟩
  have hfiles : Descriptors.filesOf (sampleFiles entries) "-/.stdlib_marker" = .ok [] := by
    rw [Descriptors.filesOf, hfound]
    rfl
  exact Descriptors.load_of_filesOf hfiles rfl

/-- By the path `-` not all that is described is loaded. -/
theorem not_describe_loads :
    ¬∀ (program output label : String) (m m₁ m' : Machine) (listed : List ListedPackage)
      (entries : List (String × FileTree)) (count : Nat), m.files.IsPlaced →
        (toolFor m.files m.env program (m.files.absolute output)).list ["std"] m =
          (.ok listed, m₁) →
        m₁.files.get output = .ok (.directory entries) → (∀ e ∈ entries, e.1 = cacheName) →
        ArePackagePaths (pathsOf listed) →
        (∀ path ∈ pathsOf listed, ∀ path' ∈ pathsOf listed,
          ¬filePlace path <+: (pieces path').dropLast) →
        describe program output label m = (.ok count, m') →
        ∃ packages, Descriptors.load m'.files [Path.join output marker] = .ok packages ∧
          packages.Perm (listed.map (·.toPackage label)) := by
  intro h
  obtain ⟨m₁, hlist, hfiles⟩ := list_sample
  have habsolute : sampleMachine.files.absolute "-" = "/-" := by decide
  obtain ⟨entries, m', hdescribe, hfiles'⟩ := describe_sample habsolute ""
  have hempty : m₁.files.get "-" = .ok (.directory []) := by
    rw [hfiles]
    exact (get_sample []).1
  have hapart : ∀ path ∈ pathsOf [sampleNet, sampleHttp],
      ∀ path' ∈ pathsOf [sampleNet, sampleHttp], ¬filePlace path <+: (pieces path').dropLast := by
    decide
  obtain ⟨packages, hload, hperm⟩ := h "/go" "-" "" sampleMachine m₁ m' [sampleNet, sampleHttp] [] 2
    (List.forall_mem_nil _) hlist hempty (List.forall_mem_nil _) arePackagePaths_sample hapart
    hdescribe
  rw [hfiles'] at hload
  have hpath : Path.join "-" marker = "-/.stdlib_marker" := by decide
  rw [hpath, load_sample] at hload
  cases hload
  exact absurd hperm.length_eq (by decide)

end StandardLibrary
end PackageListing
