import CiClient.Record.Job
import CiClient.Record.Load
import CiClient.Record.Plugin
import CiClient.Record.Queue
import CiClient.Record.Server
import CiClient.Record.User
import CiClient.Settings.Basic

/-!
# Catalog of records

The records that stand on their own: those that the server sends, the outcomes of calls, and the
settings of a client. Each has a type and a shape.
-/

set_option autoImplicit false

namespace CiClient

/-- The records that stand on their own. -/
inductive RecordKind where
  | buildRef
  | build
  | job
  | jobList
  | jobInfo
  | pluginList
  | queueItem
  | load
  | serverInfo
  | user
  | tokenGrant
  | consoleText
  | failure
  | verdict
  | ticket
  | settings
  deriving DecidableEq

namespace RecordKind

/-- The type of the records of a kind. -/
def Carrier : RecordKind → Type
  | buildRef => Record.BuildRef
  | build => Record.Build
  | job => Record.Job
  | jobList => Record.JobList
  | jobInfo => Record.JobInfo
  | pluginList => Record.PluginList
  | queueItem => Record.QueueItem
  | load => Record.Load
  | serverInfo => Record.ServerInfo
  | user => Record.User
  | tokenGrant => Record.TokenGrant
  | consoleText => Record.ConsoleText
  | failure => Failure
  | verdict => Verdict
  | ticket => Ticket
  | settings => Settings

/-- How the records of a kind are written. -/
def shape : (kind : RecordKind) → Json.Shape kind.Carrier
  | buildRef => Record.BuildRef.shape
  | build => Record.Build.shape
  | job => Record.Job.shape
  | jobList => Record.JobList.shape
  | jobInfo => Record.JobInfo.shape
  | pluginList => Record.PluginList.shape
  | queueItem => Record.QueueItem.shape
  | load => Record.Load.shape
  | serverInfo => Record.ServerInfo.shape
  | user => Record.User.shape
  | tokenGrant => Record.TokenGrant.shape
  | consoleText => Record.ConsoleText.shape
  | failure => Failure.shape
  | verdict => Verdict.shape
  | ticket => Ticket.shape
  | settings => Settings.shape

end RecordKind
end CiClient
