import SqlLayer.OrderedMap
import SqlLayer.Settings.File

/-!
# Paths in a tree of files

A walk along a path in a tree of folders, files and links, as far as it decides **whether a text can
be read** at its end. The tree need not know the folder in which relative paths start: it holds
nothing, and two steps up from it is the root.

* `Place.enter` — one part of a path;
* `fileFault?` — what a path meets, if not a text;
* `commonTree` — the folders and files that most systems have.
-/

namespace SqlLayer

/-- What a folder holds under a name. -/
inductive FileEntry where
  | folder (members : List (String × FileEntry))
  | file (isText : Bool)
  /-- A link to a folder, by the names on the way from the root. -/
  | link (way : List String)

/-- The members of a folder. -/
abbrev Folder := List (String × FileEntry)

/-- Where a walk stands. -/
inductive Place where
  /-- In a folder, with those above it, nearest first. -/
  | inside (folder : Folder) (above : List Folder)
  | atFile (isText : Bool)

namespace Place

/-- The folder at the end of a way from a folder down, without links. -/
def descend (folder : Folder) (above : List Folder) : List String → Option Place
  | [] => some (.inside folder above)
  | name :: way =>
    match Entries.find? name folder with
    | some (.folder members) => descend members (folder :: above) way
    | _ => none

/-- The greatest number of bytes in a name. -/
def greatestNameSize : Nat := 255

/-- One part of a path. Above the root there is the root again, and nothing lies behind a file. -/
def enter (root : Folder) (place : Place) (part : String) : Except FileFault Place :=
  match place with
  | .atFile _ => .error .notDirectory
  | .inside folder above =>
    if part = "" ∨ part = "." then .ok place
    else if part = ".." then
      match above with
      | [] => .ok place
      | parent :: above => .ok (.inside parent above)
    else if greatestNameSize < part.utf8ByteSize then .error .nameTooLong
    else
      match Entries.find? part folder with
      | none => .error .missing
      | some (.folder members) => .ok (.inside members (folder :: above))
      | some (.file isText) => .ok (.atFile isText)
      | some (.link way) =>
        match descend root [] way with
        | some place => .ok place
        | none => .error .missing

/-- Why no text can be read at a place, if so. -/
def fault? : Place → Option FileFault
  | .inside _ _ => some .isDirectory
  | .atFile isText => if isText then none else some .notText

end Place

/-- A path has fewer bytes than this. -/
def pathSizeBound : Nat := 4096

/-- The folder in which relative paths start. -/
def startingPlace (root : Folder) : Place := .inside [] [[], root]

/-- Why no text can be read at the end of a path; none where one can. -/
def fileFault? (root : Folder) (path : String) : Option FileFault :=
  let start := if path.startsWith "/" then .inside root [] else startingPlace root
  if path.toList.contains '\x00' then some .invalidName
  else if path = "" then some .missing
  else if pathSizeBound ≤ path.utf8ByteSize then some .nameTooLong
  else
    match ((path.toList.splitOn '/').map String.ofList).foldlM (Place.enter root) start with
    | .ok place => place.fault?
    | .error fault => some fault

/-! ### A common tree -/

/-- Folders without members. -/
def emptyFolders (names : List String) : Folder := names.map fun name => (name, .folder [])

/-- Files of text. -/
def textFiles (names : List String) : Folder := names.map fun name => (name, .file true)

/-- Files of other data. -/
def dataFiles (names : List String) : Folder := names.map fun name => (name, .file false)

/-- The programs that most systems have. -/
def commonPrograms : Folder :=
  dataFiles ["bash", "cat", "cp", "dash", "date", "echo", "env", "false", "grep", "ls", "mkdir",
    "mv", "rm", "sed", "sh", "sleep", "tar", "true"]

/-- The members of the root folder that most systems have. -/
def commonTree : Folder :=
  [("bin", .link ["usr", "bin"]), ("lib", .link ["usr", "lib"]),
   ("lib64", .link ["usr", "lib64"]), ("sbin", .link ["usr", "sbin"]),
   ("dev", .folder
     (("fd", .link ["proc", "self", "fd"]) :: emptyFolders ["mqueue", "pts", "shm"] ++
       textFiles ["null", "stderr", "stdin", "stdout", "tty"] ++
       dataFiles ["full", "random", "urandom", "zero"])),
   ("etc", .folder
     (("ssl", .folder (emptyFolders ["certs", "private"])) ::
       emptyFolders ["alternatives", "apt", "cron.d", "default", "init.d", "opt", "pam.d",
        "profile.d", "security", "skel", "systemd"] ++
       textFiles ["fstab", "group", "hostname", "hosts", "issue", "nsswitch.conf", "os-release",
        "passwd", "profile", "protocols", "resolv.conf", "services", "shadow", "shells"] ++
       dataFiles ["ld.so.cache", "localtime"])),
   ("proc", .folder
     (("self", .folder
         (emptyFolders ["attr", "fd", "fdinfo", "net", "ns", "task"] ++
           textFiles ["cmdline", "environ", "maps", "mounts", "stat", "status"] ++
           dataFiles ["exe"])) ::
       ("sys", .folder (emptyFolders ["dev", "fs", "kernel", "net", "vm"])) ::
       emptyFolders ["1", "bus", "fs", "irq", "net"] ++
       textFiles ["cmdline", "cpuinfo", "loadavg", "meminfo", "mounts", "stat", "uptime",
        "version"])),
   ("run", .folder (emptyFolders ["lock"])),
   ("sys", .folder
     (("fs", .folder (emptyFolders ["cgroup"])) ::
       emptyFolders ["block", "bus", "class", "dev", "devices", "firmware", "kernel", "module",
        "power"])),
   ("usr", .folder
     ([("bin", .folder commonPrograms),
       ("lib", .folder (emptyFolders ["x86_64-linux-gnu"])),
       ("share", .folder (emptyFolders ["doc", "info", "man", "misc", "zoneinfo"])),
       ("local", .folder
         (emptyFolders ["bin", "etc", "games", "include", "lib", "sbin", "share", "src"]))] ++
       emptyFolders ["games", "include", "lib64", "libexec", "sbin", "src"])),
   ("var", .folder
     ([("cache", .folder (emptyFolders ["apt", "debconf"])),
       ("lib", .folder (emptyFolders ["apt", "dpkg", "misc"])),
       ("log", .folder (emptyFolders ["apt"])),
       ("lock", .link ["run", "lock"]), ("run", .link ["run"])] ++
       emptyFolders ["backups", "local", "mail", "opt", "spool", "tmp"]))] ++
  emptyFolders ["boot", "home", "media", "mnt", "opt", "root", "srv", "tmp"]

end SqlLayer
