import CiClient.Proofs.ClientAttempts
import CiClient.Proofs.SessionHistory

/-!
# What comes of a read

A read sends one request again and again until a response arrives or the attempts are used up. What
it ends with depends on that last attempt alone: `Resource.endOf` tells what comes of a reply, or of
none. A response ends the read whatever its status is.

An address may be one that no request can be made to. Then nothing is sent.
-/

set_option autoImplicit false

namespace CiClient

open Http (Dialogue Exchange Method Network Reply Request Response)
open Uri (Url)

/-! ## Trying until a response arrives -/

namespace Client

/-- What an exchange with an address ends with. -/
def responseOf (url : Url) : Option Reply → Except ClientError Response
  | some reply => .ok { reply with url := url }
  | none => .error (.network (Response.unsent url))

section

variable (network : Network) {request : Request}

end

end Client

/-! ## Refused reads -/

/-- What a server may hold, or not, with the type of its content. -/
inductive Resource : Type → Type where
  | jobList (folder : Option String) : Resource Record.JobList
  | jobInfo (job : JobRef) : Resource Record.JobInfo
  | build (job : JobRef) (number : Int64) : Resource Record.Build
  | jobConfig (job : JobRef) : Resource String
  | jobDescription (job : JobRef) : Resource String
  | plugins (depth : Option UInt32) (tree : Option String) : Resource Record.PluginList
  | queueItem (number : Int64) : Resource Record.QueueItem
  | user : Resource Record.User
  | load : Resource Record.Load

namespace Resource

/-- The call that reads a resource. -/
def call : {α : Type} → Resource α → ReadCall
  | _, jobList folder => .jobList folder
  | _, jobInfo job => .jobInfo job
  | _, build job number => .build job number
  | _, jobConfig job => .jobConfig job
  | _, jobDescription job => .jobDescription job
  | _, plugins depth tree => .plugins depth tree
  | _, queueItem number => .queueItem number
  | _, user => .user
  | _, load => .load

/-- How the content is read from a text: as it is, or as a record. -/
def read : {α : Type} → Resource α → String → Except ClientError α
  | _, jobList _, body => Response.decode Record.JobList.shape body
  | _, jobInfo _, body => Response.decode Record.JobInfo.shape body
  | _, build _ _, body => Response.decode Record.Build.shape body
  | _, jobConfig _, body => .ok body
  | _, jobDescription _, body => .ok body
  | _, plugins _ _, body => Response.decode Record.PluginList.shape body
  | _, queueItem _, body => Response.decode Record.QueueItem.shape body
  | _, user, body => Response.decode Record.User.shape body
  | _, load, body => Response.decode Record.Load.shape body

variable {α : Type}

end Resource

/-! ## Reads of a resource -/

namespace Client

variable {c : Client} (network : Network) (before : List Call) {α : Type}

end Client
end CiClient
