/-
# Files of parameters

A word is looked at alone (`expand_append`): one that names a file gives way to the rows of that
file (`expandWord_named`), every other one stays (`expandWord_of_not_named`). The parameters in a
file are the rows of its text, whatever its lines end in (`parametersIn_eq`). The expansion fails
just where a file that is named shows no text (`expand_fails_iff`), and the failure tells of the
first such file (`expand_eq_error_iff`). The main statement is `expand_parameters`.
-/

import PackageListing.CommandLine.Words
import PackageListing.Proofs.Files.Writing
import PackageListing.Proofs.Text.Decoding
import PackageListing.Proofs.Text.Rows

namespace PackageListing

theorem FileSystem.readText_eq_ok_iff {fs : FileSystem} {path : String} {text : List Char} :
    fs.readText path = .ok text ↔ fs.read path = .ok (Text.encode text) := by
  rw [readText, Result.bind_eq_ok]
  constructor
  · rintro ⟨bytes, hread, h⟩
    split at h
    · next hbytes =>
      cases h
      rw [hread, Text.text?_eq_some_iff.1 hbytes]
    · cases h
  · intro hread
    exact ⟨Text.encode text, hread, by rw [Text.text?_eq_some_iff.2 rfl]; rfl⟩

namespace CommandLine

variable {fs : FileSystem} {word path : String} {words : List String}

theorem parametersIn_eq {parameters : List String} {text : List Char}
    (hparameters : ∀ parameter ∈ parameters, Text.IsRow parameter)
    (h : Text.Rows parameters text) : parametersIn text = parameters :=
  (Text.rowsBy_dropReturns text).symm.trans
    (h.rowsBy_eq hparameters Text.dropsReturn_dropReturns)

/-! ### One word -/

theorem expandWord_named (hpath : path ≠ "") :
    expandWord fs ("@" ++ path) =
      parametersIn <$> Failure.duringIo (.read path) (fs.readText path) := by
  obtain ⟨c, rest, hcons⟩ := List.exists_cons_of_ne_nil (mt String.toList_eq_nil_iff.1 hpath)
  have hword : ("@" ++ path).toList = '@' :: c :: rest := by
    rw [String.toList_append, hcons]
    rfl
  have hsplit : String.ofList (c :: rest) = path := by rw [← hcons, String.ofList_toList]
  rw [expandWord, hword]
  simp only [hsplit]
  exact bind_pure_comp parametersIn _

theorem expandWord_of_not_named (h : ∀ path, path ≠ "" → word ≠ "@" ++ path) :
    expandWord fs word = .ok [word] := by
  rw [expandWord]
  split
  · next c rest hword =>
    refine absurd ?_ (h (String.ofList (c :: rest)) ?_)
    · exact String.toList_inj.1 (by simp [hword])
    · exact mt String.ofList_eq_empty_iff.1 (List.cons_ne_nil c rest)
  · rfl

theorem ne_named_of_ne_empty (hpath : path ≠ "") : "@" ≠ "@" ++ path := by
  intro heq
  have htext := congrArg String.toList heq
  rw [String.toList_append] at htext
  exact hpath (String.toList_eq_nil_iff.1 (List.cons.inj htext).2.symm)

/-- A word has no expansion just where it names a file that shows no text. -/
theorem expandWord_eq_error_iff {failure : Failure} :
    expandWord fs word = .error failure ↔
      ∃ path error, path ≠ "" ∧ word = "@" ++ path ∧ fs.readText path = .error error ∧
        failure = ⟨[.read path], .io error⟩ := by
  constructor
  · intro h
    by_cases hnamed : ∃ path, path ≠ "" ∧ word = "@" ++ path
    · obtain ⟨path, hpath, rfl⟩ := hnamed
      rw [expandWord_named hpath, Result.map_eq_error_iff] at h
      cases hread : fs.readText path with
      | ok text =>
        rw [hread] at h
        cases h
      | error error =>
        rw [hread] at h
        cases h
        exact ⟨path, error, hpath, rfl, hread, rfl⟩
    · rw [expandWord_of_not_named fun path hpath heq => hnamed ⟨path, hpath, heq⟩] at h
      cases h
  · rintro ⟨path, error, hpath, rfl, hread, rfl⟩
    rw [expandWord_named hpath, hread]
    rfl

/-! ### All words -/

/-- **Each word is expanded for itself.** -/
theorem expand_append (fs : FileSystem) (before after : List String) :
    expand fs (before ++ after) = do
      let first ← expand fs before
      let rest ← expand fs after
      return first ++ rest := by
  simp only [expand, List.mapM_append, bind_assoc, pure_bind, List.flatten_append]

theorem expand_singleton {found : List String} (h : expandWord fs word = .ok found) :
    expand fs [word] = .ok found := by
  rw [expand, List.mapM_cons, h]
  exact congrArg Except.ok (List.append_nil found)

theorem expand_within {found : List String} (h : expandWord fs word = .ok found)
    (before after : List String) :
    expand fs (before ++ [word] ++ after) = do
      let first ← expand fs before
      let rest ← expand fs after
      return first ++ found ++ rest := by
  rw [expand_append, expand_append, expand_singleton h, bind_assoc]
  rfl

theorem expand_eq (fs : FileSystem) (words : List String) :
    expand fs words = List.flatten <$> words.mapM (expandWord fs) :=
  bind_pure_comp _ _

theorem exists_expand_eq_ok_iff :
    (∃ found, expand fs words = .ok found) ↔
      ∀ word ∈ words, ∃ found, expandWord fs word = .ok found := by
  rw [← Result.exists_mapM_eq_ok_iff, expand_eq]
  simp only [Result.map_eq_ok]
  exact ⟨fun ⟨_, found, h, _⟩ => ⟨found, h⟩, fun ⟨found, h⟩ => ⟨_, found, h, rfl⟩⟩

/-- **The first file that shows no text** is what an expansion fails of. -/
theorem expand_eq_error_iff {failure : Failure} :
    expand fs words = .error failure ↔ ∃ before path after error,
      words = before ++ ("@" ++ path) :: after ∧ (∃ found, expand fs before = .ok found) ∧
        path ≠ "" ∧ fs.readText path = .error error ∧ failure = ⟨[.read path], .io error⟩ := by
  rw [expand_eq, Result.map_eq_error_iff, Result.mapM_eq_error_iff]
  simp only [expandWord_eq_error_iff, exists_expand_eq_ok_iff]
  constructor
  · rintro ⟨before, _, after, rfl, hbefore, path, error, hpath, rfl, hread, hfailure⟩
    exact ⟨before, path, after, error, rfl, hbefore, hpath, hread, hfailure⟩
  · rintro ⟨before, path, after, error, rfl, hbefore, hpath, hread, hfailure⟩
    exact ⟨before, _, after, rfl, hbefore, path, error, hpath, rfl, hread, hfailure⟩

theorem expand_fails_iff :
    (∃ failure, expand fs words = .error failure) ↔
      ∃ path, path ≠ "" ∧ "@" ++ path ∈ words ∧
        ∀ text, fs.read path ≠ .ok (Text.encode text) := by
  constructor
  · rintro ⟨failure, h⟩
    obtain ⟨before, path, after, error, rfl, -, hpath, hread, -⟩ := expand_eq_error_iff.1 h
    refine ⟨path, hpath, List.mem_append_right _ List.mem_cons_self, fun text htext => ?_⟩
    rw [FileSystem.readText_eq_ok_iff.2 htext] at hread
    cases hread
  · rintro ⟨path, hpath, hmem, hread⟩
    rw [← Result.not_ok_iff, exists_expand_eq_ok_iff]
    intro hall
    obtain ⟨found, hfound⟩ := hall _ hmem
    rw [expandWord_named hpath] at hfound
    obtain ⟨text, htext, -⟩ := Result.map_eq_ok.1 hfound
    exact hread text (FileSystem.readText_eq_ok_iff.1 (Result.mapError_eq_ok.1 htext))

/-- **A file of parameters gives way to what was written into it.** Where the file shows parameters,
each on a line of its own, among empty lines and whatever the lines end in, the expansion is that of
the words before, the parameters as they are, and the expansion of the words after. It fails just
where a file that is named shows no text, and the sign alone names none. -/
theorem expand_parameters (fs : FileSystem) :
    (∀ (before after : List String) (path : String) (parameters : List String) (text : List Char),
      path ≠ "" → (∀ parameter ∈ parameters, Text.IsRow parameter) → Text.Rows parameters text →
      fs.read path = .ok (Text.encode text) →
      expand fs (before ++ ["@" ++ path] ++ after) = do
        let first ← expand fs before
        let rest ← expand fs after
        return first ++ parameters ++ rest) ∧
    (∀ words : List String, (∃ failure, expand fs words = .error failure) ↔
      ∃ path, path ≠ "" ∧ "@" ++ path ∈ words ∧ ∀ text, fs.read path ≠ .ok (Text.encode text)) ∧
    ∀ before after : List String,
      expand fs (before ++ ["@"] ++ after) = do
        let first ← expand fs before
        let rest ← expand fs after
        return first ++ ["@"] ++ rest := by
  refine ⟨fun before after path parameters text hpath hparameters htext hread => ?_,
    fun words => expand_fails_iff, fun before after => ?_⟩
  · refine expand_within ?_ before after
    rw [expandWord_named hpath, FileSystem.readText_eq_ok_iff.2 hread,
      ← parametersIn_eq hparameters htext]
    rfl
  · exact expand_within (expandWord_of_not_named fun _ => ne_named_of_ne_empty) before after

/-- Files among which one shows parameters and another is no text. -/
def parameterFiles : FileSystem where
  tree := .directory
    [("p", .file (Text.encode "-o\r\n\n@x\nout".toList)), ("q", .file [0xff])]
  workingPlace := []

/-- A line with a file of parameters between a word and a lone sign, and one with a file that is no
text. -/
theorem expand_parameters_pkg :
    (∀ parameter ∈ ["-o", "@x", "out"], Text.IsRow parameter) ∧
    Text.Rows ["-o", "@x", "out"] "-o\r\n\n@x\nout".toList ∧
    parameterFiles.read "p" = .ok (Text.encode "-o\r\n\n@x\nout".toList) ∧
    expand parameterFiles ["pkg", "@p", "@"] = .ok ["pkg", "-o", "@x", "out", "@"] ∧
    ∃ failure, expand parameterFiles ["@p", "@q"] = .error failure := by
  have hrows : ∀ parameter ∈ ["-o", "@x", "out"], Text.IsRow parameter := by decide
  have htext : Text.Rows ["-o", "@x", "out"] "-o\r\n\n@x\nout".toList :=
    .row "-o" .returnFeed (.blank .feed (.row "@x" .feed (.last "out")))
  have hread : parameterFiles.read "p" = .ok (Text.encode "-o\r\n\n@x\nout".toList) :=
    parameterFiles.read_of_lookup rfl rfl (by decide) rfl (by decide) (by decide) (by decide) rfl
  have hbad : parameterFiles.read "q" = .ok [0xff] :=
    parameterFiles.read_of_lookup rfl rfl (by decide) rfl (by decide) (by decide) (by decide) rfl
  obtain ⟨hexpand, hfails, -⟩ := expand_parameters parameterFiles
  refine ⟨hrows, htext, hread, ?_, (hfails _).2 ⟨"q", by decide, by decide, fun text heq => ?_⟩⟩
  · rw [show ["pkg", "@p", "@"] = ["pkg"] ++ ["@" ++ "p"] ++ ["@"] from rfl,
      hexpand ["pkg"] ["@"] "p" _ _ (by decide) hrows htext hread]
    rfl
  · rw [hbad] at heq
    have hnone : Text.text? [0xff] = none := by decide +kernel
    rw [Text.text?_eq_some_iff.2 (Except.ok.inj heq)] at hnone
    cases hnone

end CommandLine
end PackageListing
