import Bundler.Machine.Kernel
import Bundler.Machine.Shell.Start
import Bundler.Machine.Utility.Account
import Bundler.Machine.Utility.Cat
import Bundler.Machine.Utility.Checksum
import Bundler.Machine.Utility.Columns
import Bundler.Machine.Utility.Compare
import Bundler.Machine.Utility.Convert
import Bundler.Machine.Utility.Copy
import Bundler.Machine.Utility.Date
import Bundler.Machine.Utility.Difference.Run
import Bundler.Machine.Utility.Dump
import Bundler.Machine.Utility.Echo
import Bundler.Machine.Utility.Edit.Run
import Bundler.Machine.Utility.Expression
import Bundler.Machine.Utility.Files
import Bundler.Machine.Utility.Find.Run
import Bundler.Machine.Utility.Launch
import Bundler.Machine.Utility.Lines
import Bundler.Machine.Utility.Link
import Bundler.Machine.Utility.Listing
import Bundler.Machine.Utility.Names
import Bundler.Machine.Utility.Order
import Bundler.Machine.Utility.Records.Run
import Bundler.Machine.Utility.Select.Run
import Bundler.Machine.Utility.Test
import Bundler.Machine.Utility.Time
import Bundler.Machine.Utility.Translate

/-! The programs of the system. -/

namespace Bundler.Machine

open Utility (WorkM)

def utilities : List (String × (List String → WorkM Unit)) :=
  [("[", Utility.Test.mainInBrackets), ("arch", Utility.tell Utility.machineName),
    ("awk", Utility.Records.main), ("base64", Utility.Base64.main),
    ("basename", Utility.BaseName.main), ("cat", Utility.Cat.main),
    ("chmod", Utility.ChangeMode.main), ("cksum", Utility.Checksum.cyclic),
    ("cmp", Utility.Compare.main), ("comm", Utility.Common.main), ("cp", Utility.Copy.main),
    ("cut", Utility.Cut.main), ("date", Utility.Date.main), ("dd", Utility.Convert.main),
    ("diff", Utility.Difference.main), ("dirname", Utility.DirectoryName.main),
    ("echo", Utility.Echo.main), ("egrep", Utility.Select.mainIn "-E"),
    ("env", Utility.Environment.main), ("expr", Utility.Expression.main),
    ("false", fun _ => Utility.setStatus 1), ("fgrep", Utility.Select.mainIn "-F"),
    ("find", Utility.Find.main), ("fold", Utility.Fold.main), ("grep", Utility.Select.main),
    ("groups", Utility.Groups.main), ("head", Utility.Head.main),
    ("hostname", Utility.tell Utility.hostName), ("id", Utility.Identity.main),
    ("install", Utility.Install.main), ("kill", Utility.Kill.main), ("ln", Utility.Link.main),
    ("logname", Utility.LoginName.main), ("ls", Utility.Directory.main),
    ("mawk", Utility.Records.main), ("md5sum", Utility.Checksum.main Utility.Checksum.md5),
    ("mkdir", Utility.MakeDirectory.main), ("mkfifo", Utility.MakeFifo.main),
    ("mktemp", Utility.MakeTemporary.main), ("mv", Utility.Move.main),
    ("nawk", Utility.Records.main), ("nice", Utility.Nice.main), ("nl", Utility.NumberLines.main),
    ("nohup", Utility.NoHangUp.main), ("nproc", Utility.Processors.main), ("od", Utility.Dump.main),
    ("paste", Utility.Paste.main), ("printenv", Utility.PrintEnvironment.main),
    ("printf", Utility.Print.main), ("pwd", Utility.WorkingDirectory.main),
    ("readlink", Utility.ReadLink.main), ("realpath", Utility.RealPath.main),
    ("rev", Utility.Rev.main), ("rm", Utility.Remove.main), ("rmdir", Utility.RemoveDirectory.main),
    ("sed", Utility.Edit.main), ("seq", Utility.Sequence.main), ("setsid", Utility.NewSession.main),
    ("sha1sum", Utility.Checksum.main Utility.Checksum.sha1),
    ("sha224sum", Utility.Checksum.main Utility.Checksum.sha224),
    ("sha256sum", Utility.Checksum.main Utility.Checksum.sha256),
    ("sha384sum", Utility.Checksum.main Utility.Checksum.sha384),
    ("sha512sum", Utility.Checksum.main Utility.Checksum.sha512), ("sleep", Utility.Sleep.main),
    ("sort", Utility.Arrange.main), ("stat", Utility.Stat.main), ("sum", Utility.Checksum.turning),
    ("tac", Utility.Tac.main), ("tail", Utility.Tail.main), ("tee", Utility.Tee.main),
    ("test", Utility.Test.main), ("timeout", Utility.TimeLimit.main), ("touch", Utility.Touch.main),
    ("tr", Utility.Translate.main), ("true", fun _ => pure ()), ("truncate", Utility.Truncate.main),
    ("tty", Utility.Terminal.main), ("uname", Utility.System.main), ("uniq", Utility.Unique.main),
    ("unlink", Utility.Unlink.main), ("wc", Utility.Count.main), ("which", Utility.Which.main),
    ("whoami", Utility.tell Utility.userName), ("xargs", Utility.Arguments.main),
    ("yes", Utility.Yes.main)]

def programTable : List (String × (List String → List (String × String) → Behaviour)) :=
  [("sh", Shell.program), ("dash", Shell.program)] ++
    utilities.map fun (name, main) => (name, Utility.program main)

/-- The program of a name; one that is not known ends at once. -/
def programs : Programs := fun name =>
  (programTable.lookup name).getD fun _ _ => .stop 127

def systemTree : FileTree :=
  let root : FileTree := {}
  let tree := [["usr", "bin"], ["usr", "sbin"], ["usr", "local", "bin"], ["usr", "local", "sbin"],
    ["dev"], ["proc", "self", "fd"], ["tmp"], ["root"], ["etc"], ["home"], ["var", "tmp"]].foldl
    FileTree.putDirectories root
  let tree := programTable.foldl (fun tree (name, _) =>
    tree.put ["usr", "bin", name] (.program name) 0o755) tree
  let tree := [("bin", "usr/bin"), ("sbin", "usr/sbin")].foldl (fun tree (name, target) =>
    tree.put [name] (.link target) 0o777) tree
  let tree := [("null", Device.null), ("zero", .zero), ("full", .full), ("tty", .terminal)].foldl
    (fun tree (name, device) => tree.put ["dev", name] (.device device) 0o666) tree
  let tree := [("fd", "/proc/self/fd"), ("stdin", "/proc/self/fd/0"),
    ("stdout", "/proc/self/fd/1"), ("stderr", "/proc/self/fd/2")].foldl
    (fun tree (name, target) => tree.put ["dev", name] (.link target) 0o777) tree
  (List.range 20).foldl (fun tree number =>
    tree.put ["proc", "self", "fd", toString number] (.device (.descriptor number)) 0o700) tree

end Bundler.Machine
