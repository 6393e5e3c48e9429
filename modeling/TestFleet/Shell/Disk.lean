import TestFleet.Directory
import TestFleet.Shell.Bytes

/-!
# Files

What processes find on a disk: the directories, devices, programs and files that every host of this
kind has, and what was made, changed or removed since. A path leads from directory to directory;
what it leads to is known by the path from the root that has no dots in it.
-/

namespace TestFleet.Shell

/-- Why the system refuses something. -/
inductive SystemFault where
  | notFound
  | argumentsTooLong
  | notExecutable
  | badStream
  | denied
  | alreadyThere
  | notDirectory
  | isDirectory
  | invalid
  | noSpace
  | noDevice
  | nameTooLong
  | notEmpty
  deriving DecidableEq, Repr

namespace SystemFault

/-- The number that the system gives a refusal. -/
def number : SystemFault → Nat
  | notFound => 2
  | noDevice => 6
  | argumentsTooLong => 7
  | notExecutable => 8
  | badStream => 9
  | denied => 13
  | alreadyThere => 17
  | notDirectory => 20
  | isDirectory => 21
  | invalid => 22
  | noSpace => 28
  | nameTooLong => 36
  | notEmpty => 39

/-- What the system says of a refusal. -/
def message : SystemFault → String
  | notFound => "No such file or directory"
  | noDevice => "No such device or address"
  | argumentsTooLong => "Argument list too long"
  | notExecutable => "Exec format error"
  | badStream => "Bad file descriptor"
  | denied => "Permission denied"
  | alreadyThere => "File exists"
  | notDirectory => "Not a directory"
  | isDirectory => "Is a directory"
  | invalid => "Invalid argument"
  | noSpace => "No space left on device"
  | nameTooLong => "File name too long"
  | notEmpty => "Directory not empty"

end SystemFault

/-- A device without a medium. -/
inductive Device where
  /-- Has nothing to read, and takes all that is written. -/
  | null
  /-- Has zeros to read, and takes all that is written. -/
  | zero
  /-- Has zeros to read, and takes nothing. -/
  | full
  /-- A terminal, where there is none. -/
  | terminal
  deriving DecidableEq, Repr

/-- What a path leads to. -/
inductive Node where
  | directory
  | file (content : String) (isExecutable : Bool)
  | device (d : Device)
  /-- A program that comes with the host. -/
  | program (name : String)
  deriving DecidableEq, Repr

/-- The directories of every host that hold something: the directories and the files in each. The
programs come on top of these. -/
def standardPlaces : List (String × List String × List String) := [
  ("/", ["bin", "boot", "dev", "etc", "home", "lib", "lib64", "media", "mnt", "opt", "proc", "root",
    "run", "sbin", "srv", "sys", "tmp", "usr", "var"], []),
  ("/dev", ["fd", "mqueue", "pts", "shm"], ["console", "full", "null", "ptmx", "random", "stderr",
    "stdin", "stdout", "tty", "urandom", "zero"]),
  ("/etc", ["alternatives", "apt", "cron.d", "cron.daily", "default", "dpkg", "init.d", "kernel",
    "ld.so.conf.d", "logrotate.d", "opt", "pam.d", "profile.d", "rc0.d", "rc1.d", "rc2.d", "rc3.d",
    "rc4.d", "rc5.d", "rc6.d", "rcS.d", "security", "selinux", "skel", "ssl", "systemd", "terminfo",
    "update-motd.d"], ["bash.bashrc", "debconf.conf", "debian_version", "environment", "fstab",
    "gai.conf", "group", "group-", "gshadow", "host.conf", "hostname", "hosts", "issue",
    "issue.net", "ld.so.cache", "ld.so.conf", "libaudit.conf", "login.defs", "machine-id",
    "mke2fs.conf", "nsswitch.conf", "os-release", "pam.conf", "passwd", "passwd-", "profile",
    "resolv.conf", "shadow", "shadow-", "shells", "subgid", "subuid", "xattr.conf"]),
  ("/proc", ["bus", "driver", "fs", "irq", "net", "pressure", "self", "sys", "sysvipc",
    "thread-self", "tty"], ["buddyinfo", "cgroups", "cmdline", "consoles", "cpuinfo", "crypto",
    "devices", "diskstats", "execdomains", "filesystems", "interrupts", "iomem", "ioports",
    "kallsyms", "key-users", "keys", "kmsg", "loadavg", "locks", "meminfo", "misc", "mounts",
    "partitions", "slabinfo", "softirqs", "stat", "swaps", "timer_list", "uptime", "version",
    "vmallocinfo", "vmstat", "zoneinfo"]),
  ("/proc/self", ["attr", "cwd", "fd", "fdinfo", "map_files", "net", "ns", "root", "task"],
    ["auxv", "cgroup", "cmdline", "comm", "environ", "exe", "io", "limits", "maps", "mem",
    "mountinfo", "mounts", "oom_adj", "oom_score", "oom_score_adj", "pagemap", "personality",
    "sched", "smaps", "stack", "stat", "statm", "status", "syscall", "wchan"]),
  ("/run", ["lock"], []),
  ("/sys", ["block", "bus", "class", "dev", "devices", "firmware", "fs", "kernel", "module",
    "power"], []),
  ("/usr", ["bin", "games", "include", "lib", "lib64", "libexec", "local", "sbin", "share", "src"],
    []),
  ("/usr/local", ["bin", "etc", "games", "include", "lib", "man", "sbin", "share", "src"], []),
  ("/var", ["backups", "cache", "lib", "local", "lock", "log", "mail", "opt", "run", "spool",
    "tmp"], [])]

/-- The names in directories of every host that lead elsewhere. -/
def standardLinks : List (String × String) := [
  ("/bin", "/usr/bin"), ("/lib", "/usr/lib"), ("/lib64", "/usr/lib64"), ("/sbin", "/usr/sbin"),
  ("/var/lock", "/run/lock"), ("/var/run", "/run")]

/-- What the standard files hold, as far as it is known. -/
def standardContent : String → String
  | "/etc/passwd" => "root:x:0:0:root:/root:/bin/bash\n"
  | "/etc/group" => "root:x:0:\n"
  | "/etc/hosts" => "127.0.0.1\tlocalhost\n"
  | _ => ""

/-- Cuts a path from the root into the directory and the name in it. -/
def entryOf (path : String) : String × String :=
  let names := path.splitOn "/"
  ("/" ++ "/".intercalate (names.drop 1).dropLast, names.getLastD "")

/-- What a path leads to on every host. -/
def Node.standard? (programs : List String) (path : String) : Option Node :=
  match path with
  | "/" => some .directory
  | "/dev/console" | "/dev/null" | "/dev/ptmx" | "/dev/stderr" | "/dev/stdin" | "/dev/stdout" =>
    some (.device .null)
  | "/dev/zero" | "/dev/random" | "/dev/urandom" => some (.device .zero)
  | "/dev/full" => some (.device .full)
  | "/dev/tty" => some (.device .terminal)
  | _ =>
    let (place, name) := entryOf path
    match standardPlaces.lookup place with
    | some (directories, files) =>
      if directories.contains name then some .directory
      else if files.contains name then some (.file (standardContent path) false)
      else none
    | none =>
      if place == "/usr/bin" && programs.contains name then some (.program name) else none

/-- The names that directories of every host have. -/
def standardNames (programs : List String) (path : String) : List String :=
  match standardPlaces.lookup path with
  | some (directories, files) => directories ++ files
  | none => if path = "/usr/bin" then programs else []

/-- A disk. -/
structure Disk where
  /-- The names of the programs that the host has. -/
  programs : List String
  /-- What was put at paths since; none where something was removed. -/
  changed : Directory String (Option Node) := ∅

namespace Disk

/-- What is at a path from the root without dots. -/
def at? (d : Disk) (path : String) : Option Node :=
  match d.changed.get? path with
  | some node => node
  | none => Node.standard? d.programs path

/-- Puts something at such a path. -/
def put (d : Disk) (path : String) (node : Node) : Disk :=
  { d with changed := d.changed.insert path (some node) }

/-- Removes what is at such a path. -/
def remove (d : Disk) (path : String) : Disk := { d with changed := d.changed.insert path none }

/-- The path of an entry of a directory. -/
def join (directory name : String) : String :=
  if directory = "/" then "/" ++ name else directory ++ "/" ++ name

/-- The names along a path. -/
def names (path : String) : List String :=
  ((path.splitOn "/").filter (· ≠ ""))

/-- The path with such names. -/
def ofNames (names : List String) : String := "/" ++ "/".intercalate names

/-- The names in a directory, in order. -/
def entries (d : Disk) (directory : String) : List String :=
  let there (name : String) := (d.at? (join directory name)).isSome
  let made := d.changed.entries.filterMap fun (path, node) =>
    match names path with
    | [] => none
    | ns => if node.isSome && ofNames ns.dropLast == directory then ns.getLast? else none
  let all := (standardNames d.programs directory).filter there ++ made
  (Directory.ofList (all.map (·, ()))).keys

/-- The place that an entry leads to, given its names, the innermost first. -/
def landing (here : List String) : List String :=
  match standardLinks.lookup (ofNames here.reverse) with
  | some path => (names path).reverse
  | none => here

/-- Follows names from a directory whose names are in `here`, the innermost first: the names of the
place that they lead to, at which there need not be anything. -/
def follow (d : Disk) : List String → List String → Except SystemFault (List String)
  | here, [] => .ok here
  | here, name :: names =>
    match d.at? (ofNames here.reverse) with
    | some .directory =>
      if name = "" ∨ name = "." then follow d here names
      else if name = ".." then follow d here.tail names
      else if 255 < name.length then .error .nameTooLong
      else follow d (landing (name :: here)) names
    | some _ => .error .notDirectory
    | none => .error .notFound

/-- The path from the root that a path leads to, from a current directory. -/
def resolve (d : Disk) (current path : String) : Except SystemFault String :=
  if path = "" then .error .notFound
  else if 4096 ≤ path.length then .error .nameTooLong
  else
    let front := if path.startsWith "/" then [] else names current
    (d.follow [] (front ++ path.splitOn "/")).map fun ns => ofNames ns.reverse

/-- What a path leads to. -/
def find (d : Disk) (current path : String) : Except SystemFault (String × Node) := do
  let p ← d.resolve current path
  match d.at? p with
  | some node => .ok (p, node)
  | none => .error .notFound

end Disk

end TestFleet.Shell
