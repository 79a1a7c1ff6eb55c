import LintReport.Text.Lowercase
import LintReport.Url.Host
import LintReport.Url.Percent

/-!
# File URLs

A source map names other files by path or by file URL. What is no file URL is a path already. Of a
file URL only the path counts, without host, query and fragment.
-/

namespace LintReport.Url

inductive Fault where
  | badHost
  deriving DecidableEq

def fileScheme : Text := "file://"

def isFileUrl (t : Text) : Bool :=
  fileScheme.isPrefixOf (Text.lower t)

/-- Whether the character may not stand in a URL and is passed over. -/
def isPassedOver (c : Char) : Bool :=
  c = '\t' || c = '\r' || c = '\n'

/-- The host and the path of what follows the scheme of a file URL. -/
def hostAndPath (t : Text) : Text × Text :=
  let (host, rest) := Text.breakAt (fun c => c = '/' || c = '?' || c = '#') t
  (host, (Text.breakAt (fun c => c = '?' || c = '#') rest).1)

/-- The path that a path or a file URL names. -/
def toPath (t : Text) : Except Fault Text :=
  if isFileUrl t then
    let (host, path) := hostAndPath ((t.filter fun c => !isPassedOver c).drop fileScheme.length)
    if isHost host then .ok (percentDecode path) else .error .badHost
  else .ok t

end LintReport.Url
