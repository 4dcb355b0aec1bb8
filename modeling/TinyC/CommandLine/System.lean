import TinyC.CommandLine.FileSystem

/-!
# What every process finds

The directories, devices and programs that a process finds wherever it is
started.  The three streams of the process can be reached as devices; there is
nothing to read from the first.
-/

namespace TinyC.FileSystem

/-- The directories of every system. -/
def standardDirectories : List String :=
  ["bin", "boot", "dev", "dev/fd", "dev/pts", "dev/shm", "etc", "home", "lib", "lib64", "media",
    "mnt", "opt", "proc", "proc/self", "proc/self/fd", "root", "run", "sbin", "srv", "sys", "tmp",
    "usr", "usr/bin", "usr/include", "usr/lib", "usr/local", "usr/local/bin", "usr/local/lib",
    "usr/sbin", "usr/share", "var", "var/lib", "var/log", "var/tmp"]

/-- The devices of every system. -/
def standardDevices : List (String × Device) :=
  [("dev/null", .null), ("dev/full", .full), ("dev/tty", .terminal), ("dev/stdin", .null),
    ("dev/stdout", .output), ("dev/stderr", .errors), ("dev/fd/0", .null), ("dev/fd/1", .output),
    ("dev/fd/2", .errors), ("proc/self/fd/0", .null), ("proc/self/fd/1", .output),
    ("proc/self/fd/2", .errors)]

/-- The directories in which programs stand. -/
def programDirectories : List String := ["bin", "usr/bin"]

/-- The system around a working directory, with the given programs. -/
def system (programs : List String) (workingDirectory : Location) : FileSystem :=
  let withDirectories := standardDirectories.foldl (fun files path =>
    files.put (Path.parts path) (.directory [])) (empty [])
  let withDevices := standardDevices.foldl (fun files (path, device) =>
    files.put (Path.parts path) (.device device)) withDirectories
  let withPrograms := programDirectories.foldl (fun files directory =>
    programs.foldl (fun files name =>
      files.put (Path.parts directory ++ [name]) (.program name)) files) withDevices
  { withPrograms.put workingDirectory (.directory []) with workingDirectory }

end TinyC.FileSystem
