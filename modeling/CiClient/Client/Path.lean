import CiClient.Bytes.Percent
import CiClient.Text.Split

/-!
# Paths of jobs

A job is named by the folders it is in and its own name, with slashes between them. On the server
each of these names is a part of the path behind `job`. Empty names are skipped, and every name is
percent-encoded, so it holds no slash and is one part of the path. A name of one or two dots is
written as it is. Where the address is read it counts as a step in the path, and two dots leave the
job.
-/

set_option autoImplicit false

namespace CiClient

namespace JobPath

/-- The names in a path of folders and jobs. -/
def names (path : String) : List (List Char) :=
  (Text.split (· == '/') path.toList).filter (!·.isEmpty)

/-- One name as a part of a path on the server. -/
def part (name : List Char) : List Char :=
  "/job/".toList ++ Bytes.Percent.encodeWith Bytes.Percent.isUnreserved name

/-- A path of folders and jobs as a path on the server. -/
def encode (path : String) : String := String.ofList ((names path).flatMap part)

/-- The path of a folder on the server; without a folder it is the root. -/
def ofFolder : Option String → String
  | some folder => encode folder
  | none => ""

end JobPath

/-- A job, perhaps in a folder. -/
structure JobRef where
  folder : Option String
  job : String
  deriving DecidableEq

/-- The path of a job on the server. -/
def JobRef.path (r : JobRef) : String := JobPath.ofFolder r.folder ++ JobPath.encode r.job

end CiClient
