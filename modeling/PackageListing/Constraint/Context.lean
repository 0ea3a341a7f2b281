/-
# The build a constraint is asked about

A build constraint names operating systems, architectures, compilers and other tags. Whether a
tag holds depends on the build alone: its target, its compiler, whether it may use C code, and the
tags that were switched on.
-/

namespace PackageListing
namespace Constraint

/-- The operating systems that a file name may be limited to. -/
def systems : List String :=
  ["aix", "android", "darwin", "dragonfly", "freebsd", "hurd", "illumos", "ios", "js", "linux",
    "nacl", "netbsd", "openbsd", "plan9", "solaris", "wasip1", "windows", "zos"]

/-- The architectures that a file name may be limited to. -/
def architectures : List String :=
  ["386", "amd64", "amd64p32", "arm", "armbe", "arm64", "arm64be", "loong64", "mips", "mipsle",
    "mips64", "mips64le", "mips64p32", "mips64p32le", "ppc", "ppc64", "ppc64le", "riscv",
    "riscv64", "s390", "s390x", "sparc", "sparc64", "wasm"]

/-- The operating systems for which the tag `unix` holds. -/
def unixSystems : List String :=
  ["aix", "android", "darwin", "dragonfly", "freebsd", "hurd", "illumos", "ios", "linux",
    "netbsd", "openbsd", "solaris"]

/-- The last language release whose tag is on by default. -/
def latestRelease : Nat := 22

/-- What a build is for and how it is done. -/
structure Context where
  /-- The target operating system. -/
  system : String
  /-- The target architecture. -/
  architecture : String
  /-- Whether C code may be used. -/
  cgo : Bool
  /-- The compiler. -/
  compiler : String
  /-- The tags that the caller switched on. -/
  tags : List String
  /-- The tags of the language releases. -/
  releases : List String
  deriving DecidableEq

namespace Context

/-- The release tags `go1.1` to the latest. -/
def defaultReleases : List String :=
  (List.range latestRelease).map fun n => "go1." ++ toString (n + 1)

/-- A build for the machine itself, without C code. -/
def host : Context where
  system := "linux"
  architecture := "amd64"
  cgo := false
  compiler := "gc"
  tags := []
  releases := defaultReleases

/-- The build that environment variables describe. An empty target counts as unset. C code is
used as `CGO_ENABLED` says, and by default only in builds for the machine itself. -/
def ofLookup (lookup : String → Option String) : Context :=
  let target (key fallback : String) : String :=
    match lookup key with
    | none | some "" => fallback
    | some value => value
  let system := target "GOOS" host.system
  let architecture := target "GOARCH" host.architecture
  let cgo :=
    match lookup "CGO_ENABLED" with
    | some "1" => true
    | some "0" => false
    | _ => system == host.system && architecture == host.architecture
  { host with system := system, architecture := architecture, cgo := cgo }

/-- The build with more tags switched on. -/
def withTags (ctx : Context) (tags : List String) : Context :=
  { ctx with tags := ctx.tags ++ tags }

/-- The build with C code. -/
def withCgo (ctx : Context) : Context :=
  { ctx with cgo := true }

/-- The operating system that another one counts as, too. -/
def impliedSystem? (system : String) : Option String :=
  if system = "android" then some "linux"
  else if system = "illumos" then some "solaris"
  else if system = "ios" then some "darwin"
  else none

/-- Whether a tag holds. The tag `cgo` follows the build's use of C code, whatever its name is
elsewhere. -/
def holds (ctx : Context) (tag : String) : Bool :=
  if tag = "cgo" then ctx.cgo
  else
    tag == ctx.system || tag == ctx.architecture || tag == ctx.compiler ||
      impliedSystem? ctx.system == some tag ||
      (tag == "unix" && unixSystems.contains ctx.system) ||
      ctx.tags.contains tag || ctx.releases.contains tag

end Context
end Constraint
end PackageListing
