import LspSession.Host.Process
import LspSession.Host.Utility.Table

/-!
# `LspSession.Host.Computer`: where programs are started

A computer has a tree of files, among them the programs that can be started. A program is found by
its path, or by its name alone in the directories where programs are. It then works as a process of
its own, with what it has been given: arguments, a working directory and an environment.
-/

set_option autoImplicit false

namespace LspSession

/-- A computer. -/
structure Computer where
  tree : FileTree
  /-- The id of the next process. -/
  nextId : Nat

/-- What to start, and where. -/
structure Launch where
  command : String
  arguments : List String
  environment : List (String × String)

namespace Computer

/-! ### The tree -/

/-- The usual directories, by their paths. -/
def directories : List String :=
  ["boot", "dev", "dev/mqueue", "dev/pts", "dev/shm", "etc", "etc/alternatives", "etc/apt",
    "etc/apt/apt.conf.d", "etc/apt/preferences.d", "etc/apt/sources.list.d",
    "etc/apt/trusted.gpg.d", "etc/cron.d", "etc/cron.daily", "etc/default", "etc/dpkg",
    "etc/dpkg/dpkg.cfg.d", "etc/init.d", "etc/ld.so.conf.d", "etc/logrotate.d", "etc/opt",
    "etc/pam.d", "etc/profile.d", "etc/rc0.d", "etc/rc1.d", "etc/rc2.d", "etc/rc3.d", "etc/rc4.d",
    "etc/rc5.d", "etc/rc6.d", "etc/rcS.d", "etc/security", "etc/selinux", "etc/skel", "etc/ssl",
    "etc/systemd", "etc/terminfo", "etc/update-motd.d", "home", "media", "mnt", "opt", "proc",
    "proc/bus", "proc/self", "proc/self/fd", "proc/sys", "root", "run", "run/lock", "srv", "sys",
    "sys/block", "sys/bus", "sys/class", "sys/devices", "sys/fs", "sys/kernel", "sys/module", "tmp",
    "usr", "usr/bin", "usr/games", "usr/include", "usr/lib", "usr/lib/apt", "usr/lib/dpkg",
    "usr/lib/init", "usr/lib/locale", "usr/lib/systemd", "usr/lib/terminfo",
    "usr/lib/x86_64-linux-gnu", "usr/lib64", "usr/libexec", "usr/local", "usr/local/bin",
    "usr/local/etc", "usr/local/games", "usr/local/include", "usr/local/lib", "usr/local/sbin",
    "usr/local/share", "usr/local/share/man", "usr/local/src", "usr/sbin", "usr/share",
    "usr/share/base-files", "usr/share/base-passwd", "usr/share/bash-completion", "usr/share/bug",
    "usr/share/common-licenses", "usr/share/debconf", "usr/share/debianutils", "usr/share/dict",
    "usr/share/doc", "usr/share/doc-base", "usr/share/dpkg", "usr/share/info", "usr/share/keyrings",
    "usr/share/libc-bin", "usr/share/lintian", "usr/share/locale", "usr/share/man",
    "usr/share/menu", "usr/share/misc", "usr/share/pam", "usr/share/pam-configs", "usr/share/perl5",
    "usr/share/pixmaps", "usr/share/tabset", "usr/share/terminfo", "usr/share/util-linux",
    "usr/share/zoneinfo", "usr/share/zoneinfo/Etc", "usr/src", "var", "var/backups", "var/cache",
    "var/cache/apt", "var/cache/debconf", "var/lib", "var/lib/apt", "var/lib/apt/lists",
    "var/lib/dpkg", "var/lib/dpkg/alternatives", "var/lib/dpkg/info", "var/lib/dpkg/parts",
    "var/lib/dpkg/triggers", "var/lib/dpkg/updates", "var/lib/misc", "var/lib/pam", "var/local",
    "var/log", "var/log/apt", "var/mail", "var/opt", "var/spool", "var/tmp"]

/-- The usual links, by their paths, with where they lead. -/
def links : List (String × String) :=
  [("bin", "usr/bin"), ("lib", "usr/lib"), ("lib64", "usr/lib64"), ("sbin", "usr/sbin"),
    ("dev/core", "/proc/kcore"), ("dev/fd", "/proc/self/fd"), ("dev/ptmx", "pts/ptmx"),
    ("dev/stdin", "/proc/self/fd/0"), ("dev/stdout", "/proc/self/fd/1"),
    ("dev/stderr", "/proc/self/fd/2"),
    ("var/run", "/run"), ("var/lock", "/run/lock"), ("var/spool/mail", "../mail"),
    ("usr/bin/sh", "dash"), ("usr/bin/rbash", "bash"), ("usr/bin/awk", "/etc/alternatives/awk"),
    ("usr/bin/nawk", "/etc/alternatives/nawk"), ("usr/bin/which", "/etc/alternatives/which"),
    ("etc/alternatives/awk", "/usr/bin/mawk"), ("etc/alternatives/nawk", "/usr/bin/mawk"),
    ("etc/alternatives/which", "/usr/bin/which.debianutils"), ("usr/local/man", "share/man"),
    ("etc/localtime", "/usr/share/zoneinfo/Etc/UTC"), ("etc/os-release", "../usr/lib/os-release")]

/-- The usual files that are no programs, by their paths. -/
def files : List String :=
  ["etc/bash.bashrc", "etc/debconf.conf", "etc/debian_version", "etc/environment", "etc/fstab",
    "etc/gai.conf", "etc/group", "etc/gshadow", "etc/host.conf", "etc/hostname", "etc/hosts",
    "etc/issue", "etc/issue.net", "etc/ld.so.cache", "etc/ld.so.conf", "etc/login.defs",
    "etc/machine-id", "etc/motd", "etc/mtab", "etc/nsswitch.conf", "etc/pam.conf", "etc/passwd",
    "etc/profile", "etc/resolv.conf", "etc/shadow", "etc/shells", "etc/subgid", "etc/subuid",
    "etc/timezone", "proc/cpuinfo", "proc/filesystems", "proc/kcore", "proc/loadavg",
    "proc/meminfo", "proc/stat", "proc/uptime", "proc/version", "usr/lib/os-release",
    "usr/share/zoneinfo/Etc/UTC", "var/lib/dpkg/available", "var/lib/dpkg/lock",
    "var/lib/dpkg/status", "var/log/dpkg.log"]

/-- The devices, by their paths. Zeros are as good as what nobody can foretell. -/
def devices : List (String × Device) :=
  [("dev/null", .null), ("dev/zero", .zero), ("dev/full", .full), ("dev/random", .zero),
    ("dev/urandom", .zero), ("dev/tty", .terminal)] ++
    (List.range 10).map fun number =>
      ("proc/self/fd/" ++ Decimal.render number, .descriptor number)

/-- The directory of programs. -/
def programDirectory : Place := ["usr", "bin"]

/-- The name under which a program is kept, where that is not its own. -/
def nameOfProgram (name : String) : String :=
  if name = "which" then "which.debianutils" else name

/-- The tree that is usual. -/
def usualTree : FileTree :=
  let place (path : String) : Place := path.splitOn "/"
  let programs := Utility.names.filter fun name => name ≠ "awk" ∧ name ≠ "nawk"
  ⟨directories.map (fun path => (place path, .directory)) ++
    links.map (fun (path, target) => (place path, .link target)) ++
    files.map (fun path => (place path, .file [] false)) ++
    devices.map (fun (path, device) => (place path, .device device)) ++
    programs.map fun name => (programDirectory ++ [nameOfProgram name], .program name)⟩

/-- A computer with its usual tree. -/
def usual (nextId : Nat) : Computer := ⟨usualTree, nextId⟩

/-! ### Programs -/

/-- The directories that programs are looked for in. -/
def searchPath : List String :=
  ["/usr/local/sbin", "/usr/local/bin", "/usr/sbin", "/usr/bin", "/sbin", "/bin"]

/-- The environment that programs get, next to what they are given. -/
def environment : List (String × String) :=
  [("PATH", ":".intercalate searchPath), ("HOME", "/root")]

/-- The directories that programs are looked for in when an environment is given. -/
def searchPathIn (given : List (String × String)) : List String :=
  match given.lookup "PATH" with
  | some path => path.splitOn ":"
  | none => searchPath

/-- Whether a program of its own, or the script of one, can be started from a path. -/
def checkProgram (c : Computer) (directory : Place) (path : String) : Except OsError Unit := do
  let place ← c.tree.locate directory path true
  match c.tree.node? place with
  | some (.program _) => return ()
  | some (.file bytes true) =>
    if [35, 33].isPrefixOf bytes then return () else .error .notExecutable
  | _ => .error .permissionDenied

/-- Looks for a program by its name in directories, of which an empty one is the working directory.
A name that is not there is looked for in the next one, and so is one that cannot be started, but
that is remembered. -/
def searchFor (c : Computer) (directory : Place) (name : String) (found : OsError) :
    List String → Except OsError String
  | [] => .error found
  | first :: rest =>
    let path := if first = "" then name else first ++ "/" ++ name
    match c.checkProgram directory path with
    | .ok () => .ok path
    | .error .permissionDenied => c.searchFor directory name .permissionDenied rest
    | .error .notFound | .error .notADirectory => c.searchFor directory name found rest
    | .error e => .error e

/-- The path of the program that a command names. -/
def findProgram (c : Computer) (directory : Place) (search : List String) (command : String) :
    Except OsError String :=
  if command.toList.contains '/' then (c.checkProgram directory command).map fun () => command
  else if command = "" then .error .notFound
  else c.searchFor directory command .notFound search

/-- From which number of bytes on an argument is too long. -/
def greatestArgument : Nat := 131072

/-- How many bytes the command and its arguments can take together, each with its end and its
address. -/
def greatestArguments : Nat := 2097152

/-- Whether a command has more arguments or longer ones than a process can get. -/
def isTooLong (launch : Launch) : Bool :=
  let sizes := (launch.command :: launch.arguments).map String.utf8ByteSize
  (sizes.any fun size => greatestArgument ≤ size) ||
    greatestArguments < (sizes.map fun size => size + 9).foldl (· + ·) 0

/-! ### Processes -/

open Shell (Scope ofString)

/-- What a process starts with that is to run a program. -/
def firstScope (launch : Launch) : Scope :=
  let inherited := environment.filter fun (name, _) => (launch.environment.lookup name).isNone
  Scope.fresh (ofString launch.command)
    ((inherited ++ launch.environment).map fun (name, value) => (ofString name, ofString value))

/-- What a process does that runs a program from a path. -/
def program (launch : Launch) (path : String) : Program :=
  let run : Shell.Activity Nat := do
    match ← Shell.imageOf (launch.arguments.map ofString) 4 (ofString path) with
    | .error _ => return Shell.unknown
    | .ok (name, arguments) =>
      match Shell.program? Utility.find? (Shell.runner Utility.find?) name with
      | some utility => utility arguments
      | none => return Shell.unknown
  run.program (firstScope launch)

/-- Starts a program in a directory that a path leads to, as seen from another one. -/
def start (c : Computer) (directory : Place) (path : Option String) (launch : Launch) :
    Except OsError Process := do
  let texts := launch.command :: launch.arguments ++ path.toList
  if texts.any fun text => text.toList.contains '\x00' then .error .nullInCommand
  let directory ← match path with
    | some path => c.tree.locateDirectory directory path
    | none => .ok directory
  let found ← c.findProgram directory (searchPathIn launch.environment) launch.command
  if isTooLong launch then .error .argumentsTooLong
  return Process.start c.tree c.nextId directory (program launch found)

end Computer

end LspSession
