import RtpAudit.Workspace.Basic

/-! # A fresh working directory on a Linux system

A run is given a new directory of its own under `/tmp`, made under a random name, holding only
the files and directories put there for it, and the directories on the way to them: a directory
`d/../x` makes both `d` and `x`. What lies outside it is reached only by a path that
leaves it: one that starts with `/`, or one that climbs out with `..`. Of the rest of the system
the tree holds what every Linux system with a merged `/usr` has:

* the directories at the root and the usual ones under `/usr`, `/usr/local` and `/var`; `/bin`,
  `/lib`, `/lib64` and `/sbin` are links into `/usr`;
* under `/dev`, the device files `null`, `zero`, `full`, `random` and `urandom`, the directories
  `shm` and `pts`, and the link `fd`. A device reports a size of zero, and the program reads a
  size of zero as no bytes, so each device is held as an empty file;
* the kernel's own file systems `/proc`, `/sys` and `/dev/pts`, whose directories and files all
  report a size of zero: in `/proc`, its usual files and directories, `self` and `thread-self`
  leading to the directory of the running process, and in that directory its usual files, `cwd`
  leading to the working directory and `root` to the root.

The working directory and the process's directory in `/proc` have names a run cannot know. The
tree gives each a name that holds a `/`, which no name of a path holds: so neither is reached by
any name, only as the working directory or through a link. Nothing else stands in `/tmp`.
-/

namespace RtpAudit

namespace Workspace

/-- A name that no path can spell, since the names of a path never hold a `/`. -/
def unspelled (tag : String) : String := tag ++ "/"

/-- The names of the working directory a run is given. -/
def scratchDir : List String := ["tmp", unspelled "run"]

/-- The names of the running process's directory in `/proc`. -/
def processDir : List String := ["proc", unspelled "self"]

/-- The directories on the disk, each by its names from the root. -/
def diskDirs : List (List String) :=
  (["boot", "dev", "etc", "home", "media", "mnt", "opt", "root", "run", "srv", "tmp", "usr",
    "var"].map ([·])) ++
  (["bin", "games", "include", "lib", "lib64", "libexec", "local", "sbin", "share", "src"].map
    (["usr", ·])) ++
  (["bin", "etc", "games", "include", "lib", "sbin", "share", "src"].map (["usr", "local", ·])) ++
  (["backups", "cache", "lib", "local", "log", "mail", "opt", "spool", "tmp"].map (["var", ·])) ++
  [["run", "lock"], ["dev", "shm"]]

/-- The device files under `/dev`, each of which reads as empty. -/
def devices : List String := ["null", "zero", "full", "random", "urandom"]

/-- The roots of the kernel's own file systems. -/
def kernelFileSystems : List (List String) := [["proc"], ["sys"], ["dev", "pts"]]

/-- The directories of the kernel's file systems, each by its names from the root. -/
def kernelDirs : List (List String) :=
  kernelFileSystems ++
  (["bus", "driver", "fs", "irq", "sys", "sysvipc", "tty"].map (["proc", ·])) ++
  (["dev", "fs", "kernel", "net", "user", "vm"].map (["proc", "sys", ·])) ++
  (["block", "bus", "class", "dev", "devices", "firmware", "fs", "kernel", "module", "power"].map
    (["sys", ·])) ++
  [["sys", "fs", "cgroup"]] ++
  (["fd", "fdinfo", "net", "ns", "task"].map (processDir ++ [·])) ++
  [processDir ++ ["task", unspelled "self"]]

/-- The files of `/proc`, each by its names from the root. -/
def kernelFiles : List (List String) :=
  (["buddyinfo", "cgroups", "cmdline", "consoles", "cpuinfo", "crypto", "devices", "diskstats",
    "execdomains", "filesystems", "interrupts", "iomem", "ioports", "kallsyms", "keys", "loadavg",
    "locks", "meminfo", "misc", "modules", "partitions", "slabinfo", "softirqs", "stat", "swaps",
    "timer_list", "uptime", "version", "vmstat", "zoneinfo"].map (["proc", ·])) ++
  (["hostname", "osrelease", "ostype", "pid_max"].map (["proc", "sys", "kernel", ·])) ++
  (["cgroup", "cmdline", "comm", "environ", "io", "limits", "maps", "mountinfo", "mounts",
    "oom_score", "stat", "statm", "status", "wchan"].map (processDir ++ [·]))

/-- The links of the system, each with the names of the place it leads to. -/
def systemLinks : List (List String × List String) :=
  [(["bin"], ["usr", "bin"]), (["lib"], ["usr", "lib"]), (["lib64"], ["usr", "lib64"]),
    (["sbin"], ["usr", "sbin"]), (["var", "run"], ["run"]), (["var", "lock"], ["run", "lock"]),
    (["dev", "fd"], processDir ++ ["fd"]),
    (["proc", "self"], processDir),
    (["proc", "thread-self"], processDir ++ ["task", unspelled "self"]),
    (["proc", "mounts"], processDir ++ ["mounts"]), (["proc", "net"], processDir ++ ["net"]),
    (processDir ++ ["cwd"], scratchDir), (processDir ++ ["root"], [])]

/-- The system around a fresh working directory, which is empty. -/
def system : Workspace where
  cwd := scratchDir
  files := (devices.map fun d => (["dev", d], [])) ++ kernelFiles.map (·, [])
  dirs := diskDirs ++ kernelDirs ++ [scratchDir]
  links := systemLinks
  kernelRoots := kernelFileSystems

/-- A fresh working directory on a Linux system, with the given files written into it and then
the given directories made in it, each named by a path from it; the directories on the way to
each are made as well. -/
def scratch (files : List (String × Bytes)) (dirs : List String) : Workspace :=
  dirs.foldl makeDirs (files.foldl (fun ws (path, data) => ws.writeFile path data) system)

/-- Every device reads as empty. -/
theorem fileAt?_system_device (d : String) (h : d ∈ devices) :
    system.fileAt? ["dev", d] = some [] := by
  simp only [devices, List.mem_cons, List.not_mem_nil, or_false] at h
  rcases h with rfl | rfl | rfl | rfl | rfl <;> rfl

end Workspace

end RtpAudit
