import TenantHost.Rehearsal.Files
/-!
# The installation of a host

What every rehearsed host has before anything is done on it: the usual directories, the programs,
the database of its accounts, and a directory to work in.
-/

namespace TenantHost.Rehearsal.Installation

/-- The directory that the agent works in. -/
def workplace : Place := ["tmp", "host"]

/-- The home of the account that everything runs under. -/
def home : Raw := "/root"

/-- The variables that a program gets from the agent. -/
def environment : List (Raw × Raw) :=
  [("PATH", "/usr/local/sbin:/usr/local/bin:/usr/sbin:/usr/bin:/sbin:/bin"), ("HOME", home),
    ("LANG", "C.UTF-8")]

/-- The directories. -/
def directories : List Place :=
  [["boot"], ["dev"], ["etc"], ["home"], ["media"], ["mnt"], ["opt"], ["proc"], ["root"],
    ["run"], ["srv"],
    ["sys"], ["tmp"], workplace, ["usr"], ["usr", "bin"], ["usr", "games"], ["usr", "include"],
      ["usr", "lib"],
    ["usr", "local"], ["usr", "local", "bin"], ["usr", "local", "sbin"], ["usr", "sbin"],
      ["usr", "share"],
    ["usr", "src"], ["var"], ["var", "cache"], ["var", "lib"], ["var", "log"], ["var", "mail"],
    ["var", "spool"], ["var", "tmp"]]

/-- The directories that go by a short name, too. -/
def shortNames : List (Place × Raw) :=
  [(["bin"], "usr/bin"), (["lib"], "usr/lib"), (["sbin"], "usr/sbin")]

/-- The programs. -/
def programs : List Raw :=
  ["[", "basename", "cat", "chmod", "cp", "cut", "dash", "dirname", "echo", "env", "expr",
    "false", "find",
    "fold", "grep", "head", "id", "ln", "ls", "mkdir", "mv", "nl", "nohup", "nproc", "od", "paste",
      "printenv",
    "printf", "pwd", "readlink", "realpath", "rev", "rm", "rmdir", "sed", "seq", "sh", "sleep",
      "sort", "tac",
    "tail", "tee", "test", "timeout", "touch", "tr", "true", "uname", "uniq", "wc", "which",
      "whoami", "xargs", "yes"]

/-- The records of the accounts. -/
def accounts : List Raw :=
  ["root:x:0:0:root:/root:/bin/bash",
    "daemon:x:1:1:daemon:/usr/sbin:/usr/sbin/nologin",
    "bin:x:2:2:bin:/bin:/usr/sbin/nologin",
    "sys:x:3:3:sys:/dev:/usr/sbin/nologin",
    "sync:x:4:65534:sync:/bin:/bin/sync",
    "games:x:5:60:games:/usr/games:/usr/sbin/nologin",
    "man:x:6:12:man:/var/cache/man:/usr/sbin/nologin",
    "lp:x:7:7:lp:/var/spool/lpd:/usr/sbin/nologin",
    "mail:x:8:8:mail:/var/mail:/usr/sbin/nologin",
    "news:x:9:9:news:/var/spool/news:/usr/sbin/nologin",
    "uucp:x:10:10:uucp:/var/spool/uucp:/usr/sbin/nologin",
    "proxy:x:13:13:proxy:/bin:/usr/sbin/nologin",
    "www-data:x:33:33:www-data:/var/www:/usr/sbin/nologin",
    "backup:x:34:34:backup:/var/backups:/usr/sbin/nologin",
    "list:x:38:38:Mailing List Manager:/var/list:/usr/sbin/nologin",
    "irc:x:39:39:ircd:/run/ircd:/usr/sbin/nologin",
    "_apt:x:42:65534::/nonexistent:/usr/sbin/nologin",
    "nobody:x:65534:65534:nobody:/nonexistent:/usr/sbin/nologin",
    "rocq:x:1000:1000::/home/rocq:/bin/bash"]

/-- The files of the system. -/
def systemFiles : List (Place × Raw) :=
  [(["etc", "passwd"], Raw.ofLines accounts),
    (["etc", "group"], Raw.ofLines ["root:x:0:", "daemon:x:1:", "users:x:100:",
      "nogroup:x:65534:"]),
    (["etc", "hostname"], "host\n"), (["etc", "hosts"], "127.0.0.1\tlocalhost\n"),
    (["etc", "shadow"], "root:*:19000:0:99999:7:::\n"), (["etc", "os-release"], "NAME=\"Linux\"\n"),
    (["etc", "profile"], "")]

/-- The files of a host on which nothing was done. -/
def files : Files :=
  directories.map (fun place => (place, .directory usualDirectoryMode)) ++
    shortNames.map (fun (place, target) => (place, .link target)) ++
    [(["dev", "null"], .device .null)] ++
    systemFiles.map (fun (place, content) => (place, .file content usualFileMode)) ++
    programs.map fun name => (["usr", "bin", name], .program name)

end TenantHost.Rehearsal.Installation
