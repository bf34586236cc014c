import CiClient.Client.Path
import CiClient.Client.Transfer
import CiClient.Record.Job
import CiClient.Record.Load
import CiClient.Record.Plugin
import CiClient.Record.Queue
import CiClient.Record.User
import CiClient.Response.Content
import CiClient.Response.Identity
import CiClient.Response.Location
import CiClient.Text.Entity

/-!
# Calls

Everything that a client can ask of its server. A call is a read, a write, or the request for a
fresh crumb. Reads and writes have a path on the server, a type of result, and a rule that makes the
result of a response, or of the error that there is none.
-/

set_option autoImplicit false

namespace CiClient

open Http (Method Response)

/-- Calls that change nothing on the server. -/
inductive ReadCall where
  | jobList (folder : Option String)
  | jobInfo (job : JobRef)
  | build (job : JobRef) (number : Int64)
  | jobConfig (job : JobRef)
  | jobDescription (job : JobRef)
  | lastBuildNumber (job : JobRef)
  | lastBuildTimestamp (job : JobRef)
  | console (job : JobRef) (number start : Int64)
  | queue
  | queueItem (number : Int64)
  | plugins (depth : Option UInt32) (tree : Option String)
  | user
  | load
  | serverInfo

namespace ReadCall

/-- The type of the result. -/
def Result : ReadCall → Type
  | jobList _ => Option Record.JobList
  | jobInfo _ => Option Record.JobInfo
  | build _ _ => Option Record.Build
  | jobConfig _ => Option String
  | jobDescription _ => Option String
  | lastBuildNumber _ => Option Int64
  | lastBuildTimestamp _ => Option String
  | console _ _ _ => Option Record.ConsoleText
  | queue => List Record.QueueItem
  | queueItem _ => Option Record.QueueItem
  | plugins _ _ => Option Record.PluginList
  | user => Option Record.User
  | load => Option Record.Load
  | serverInfo => Record.ServerInfo

/-- The parameters of a query; those that are missing are left out. -/
def pluginQuery (depth : Option UInt32) (tree : Option String) : List String :=
  (depth.map fun n => "depth=" ++ Nat.repr n.toNat).toList ++
    (tree.map fun t => "tree=" ++ Bytes.Percent.encode t).toList

/-- The path with a query, if there is one. -/
def withQuery (path : String) : List String → String
  | [] => path
  | parameters => path ++ "?" ++ String.intercalate "&" parameters

/-- The path on the server; some depend on who asks. -/
def path (identity : String) : ReadCall → String
  | jobList folder => JobPath.ofFolder folder ++ "/api/json"
  | jobInfo job => job.path ++ "/api/json"
  | build job number => job.path ++ "/" ++ Text.ofInt64 number ++ "/api/json"
  | jobConfig job => job.path ++ "/config.xml"
  | jobDescription job => job.path ++ "/description"
  | lastBuildNumber job => job.path ++ "/lastBuild/buildNumber"
  | lastBuildTimestamp job => job.path ++ "/lastBuild/buildTimestamp"
  | console job number start =>
    job.path ++ "/" ++ Text.ofInt64 number ++ "/logText/progressiveText?start=" ++
      Text.ofInt64 start
  | queue => "/queue/api/json"
  | queueItem number => "/queue/item/" ++ Text.ofInt64 number ++ "/api/json"
  | plugins depth tree => withQuery "/pluginManager/api/json" (pluginQuery depth tree)
  | user => "/user/" ++ Bytes.Percent.encode identity ++ "/api/json"
  | load => "/overallLoad/api/json"
  | serverInfo => "/"

/-- What the request asks for: the identification of the server needs no content. -/
def method : ReadCall → Method
  | serverInfo => .head
  | _ => .get

/-- The console output in a response. -/
def consoleOf (r : Response) : Except ClientError (Option Record.ConsoleText) :=
  r.found.map fun text => text.map fun text => Record.ConsoleText.ofHeaders r.headers text

/-- The identification of the server in a response of any status, with the failure of one that was
not accepted. -/
def serverInfoOf (r : Response) : Record.ServerInfo :=
  let info := Record.ServerInfo.ofHeaders r.headers
  if r.status.isAccepted then info
  else { info with failures := info.failures ++ [Failure.ofStatus r.status ""] }

/-- The identification of the server; without a response it says so. -/
def serverInfoOutcome : Except ClientError Response → Except ClientError Record.ServerInfo
  | .ok r => .ok (serverInfoOf r)
  | .error (.network reason) => .ok (.failed (.transport reason))
  | .error e => .error e

/-- The result of a response, or of the error that there is none. -/
def outcome : (c : ReadCall) → Except ClientError Response → Except ClientError c.Result
  | jobList _, r => r.bind (·.foundRecord Record.JobList.shape)
  | jobInfo _, r => r.bind (·.foundRecord Record.JobInfo.shape)
  | build _ _, r => r.bind (·.foundRecord Record.Build.shape)
  | jobConfig _, r => r.bind (·.found)
  | jobDescription _, r => r.bind (·.found)
  | lastBuildNumber _, r => (r.bind (·.found)).map (·.bind Text.trimmedInt64?)
  | lastBuildTimestamp _, r => (r.bind (·.found)).map (·.map Text.trim)
  | console _ _ _, r => r.bind consoleOf
  | queue, r => (r.bind (·.foundRecord Record.Queue.shape)).map fun
      | some found => found.items
      | none => []
  | queueItem _, r => r.bind (·.foundRecord Record.QueueItem.shape)
  | plugins _ _, r => r.bind (·.foundRecord Record.PluginList.shape)
  | user, r => r.bind (·.foundRecord Record.User.shape)
  | load, r => r.bind (·.foundRecord Record.Load.shape)
  | serverInfo, r => serverInfoOutcome r

end ReadCall

/-- Calls that change something on the server. -/
inductive WriteCall where
  | createJob (folder : Option String) (name markup : String)
  | updateJob (job : JobRef) (markup : String)
  | describeJob (job : JobRef) (description : String)
  | deleteJob (job : JobRef)
  | enableJob (job : JobRef)
  | disableJob (job : JobRef)
  | renameJob (job : JobRef) (name : String)
  | startBuild (job : JobRef)
  | startBuildWith (job : JobRef) (parameters : List (String × String))
  | stopBuild (job : JobRef) (number : Int64)
  | terminateBuild (job : JobRef) (number : Int64)
  | killBuild (job : JobRef) (number : Int64)
  | cancelItem (number : Int64)
  | installPlugin (plugin : String)
  | quietDown
  | cancelQuietDown
  | grantToken (name : String)
  | revokeToken (uuid : String)
  deriving DecidableEq

namespace WriteCall

/-- The type of the result. -/
def Result : WriteCall → Type
  | createJob _ _ _ => Verdict
  | updateJob _ _ => Bool
  | describeJob _ _ => Bool
  | deleteJob _ => Verdict
  | enableJob _ => Bool
  | disableJob _ => Bool
  | renameJob _ _ => Bool
  | startBuild _ => Ticket
  | startBuildWith _ _ => Ticket
  | stopBuild _ _ => Verdict
  | terminateBuild _ _ => Verdict
  | killBuild _ _ => Verdict
  | cancelItem _ => Verdict
  | installPlugin _ => Verdict
  | quietDown => Verdict
  | cancelQuietDown => Verdict
  | grantToken _ => Option Record.TokenGrant
  | revokeToken _ => Verdict

/-- Where the tokens of a user are kept. -/
def tokenPath : String := "/me/descriptorByName/jenkins.security.ApiTokenProperty"

/-- The path of something that is done to a build. -/
def buildPath (job : JobRef) (number : Int64) (verb : String) : String :=
  job.path ++ "/" ++ Text.ofInt64 number ++ "/" ++ verb

/-- The path on the server. -/
def path : WriteCall → String
  | createJob folder name _ =>
    JobPath.ofFolder folder ++ "/createItem?name=" ++ Bytes.Percent.encode name
  | updateJob job _ => job.path ++ "/config.xml"
  | describeJob job _ => job.path ++ "/description"
  | deleteJob job => job.path ++ "/doDelete"
  | enableJob job => job.path ++ "/enable"
  | disableJob job => job.path ++ "/disable"
  | renameJob job name => job.path ++ "/doRename?newName=" ++ Bytes.Percent.encode name
  | startBuild job => job.path ++ "/build"
  | startBuildWith job _ => job.path ++ "/buildWithParameters"
  | stopBuild job number => buildPath job number "stop"
  | terminateBuild job number => buildPath job number "term"
  | killBuild job number => buildPath job number "kill"
  | cancelItem number => "/queue/cancelItem?id=" ++ Text.ofInt64 number
  | installPlugin _ => "/pluginManager/installNecessaryPlugins"
  | quietDown => "/quietDown"
  | cancelQuietDown => "/cancelQuietDown"
  | grantToken _ => tokenPath ++ "/generateNewToken"
  | revokeToken _ => tokenPath ++ "/revoke"

/-- The markup that asks for a plugin. -/
def installMarkup (plugin : String) : String :=
  "<jenkins><install plugin=\"" ++ Text.escapeAttribute plugin ++ "\"/></jenkins>"

/-- What is sent with the request. -/
def body : WriteCall → Client.Body
  | createJob _ _ markup => .markup markup
  | updateJob _ markup => .markup markup
  | describeJob _ description => .form [("description", description)]
  | startBuildWith _ parameters => .form parameters
  | installPlugin plugin => .markup (installMarkup plugin)
  | grantToken name => .form [("newTokenName", name)]
  | revokeToken uuid => .form [("tokenUuid", uuid)]
  | _ => .empty

/-- The verdict of a write; an error of the network is a refusal. -/
def verdictOf : Except ClientError Response → Except ClientError Verdict
  | .ok r => .ok r.verdict
  | .error (.network reason) => .ok (.refused (.transport reason))
  | .error e => .error e

/-- Whether a write was carried out; after an error of the network it was not. -/
def successOf : Except ClientError Response → Except ClientError Bool
  | .ok r => .ok r.succeeded
  | .error (.network _) => .ok false
  | .error e => .error e

/-- The place in the queue that a write gave; an error of the network is a refusal. -/
def ticketOf : Except ClientError Response → Except ClientError Ticket
  | .ok r =>
    if r.status.isAccepted then .ok (.ofHeaders r.headers)
    else .ok (.refused (.ofStatus r.status r.textOrEmpty))
  | .error (.network reason) => .ok (.refused (.transport reason))
  | .error e => .error e

/-- The verdict of taking an item off the queue. Servers answer that they no longer find the item,
so that counts as success. -/
def cancelVerdictOf (r : Except ClientError Response) : Except ClientError Verdict :=
  match r with
  | .ok response => if response.status = .notFound then .ok .accepted else verdictOf r
  | .error _ => verdictOf r

/-- The result of a response, or of the error that there is none. -/
def outcome : (c : WriteCall) → Except ClientError Response → Except ClientError c.Result
  | createJob _ _ _, r => verdictOf r
  | updateJob _ _, r => successOf r
  | describeJob _ _, r => successOf r
  | deleteJob _, r => verdictOf r
  | enableJob _, r => successOf r
  | disableJob _, r => successOf r
  | renameJob _ _, r => successOf r
  | startBuild _, r => ticketOf r
  | startBuildWith _ _, r => ticketOf r
  | stopBuild _ _, r => verdictOf r
  | terminateBuild _ _, r => verdictOf r
  | killBuild _ _, r => verdictOf r
  | cancelItem _, r => cancelVerdictOf r
  | installPlugin _, r => verdictOf r
  | quietDown, r => verdictOf r
  | cancelQuietDown, r => verdictOf r
  | grantToken _, r => r.bind (·.foundRecord Record.TokenGrant.shape)
  | revokeToken _, r => verdictOf r

end WriteCall

/-- Everything that a client can ask of its server. -/
inductive Call where
  | read (call : ReadCall)
  | write (call : WriteCall)
  /-- A fresh crumb, whatever was decided on crumbs. -/
  | crumb

/-- The type of the result of a call. -/
def Call.Result : Call → Type
  | read call => call.Result
  | write call => call.Result
  | crumb => Crumb

end CiClient
