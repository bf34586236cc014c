import CiClient.Record.Outcome

/-!
# Identification of the server

What the server says about itself in the fields of its responses.
-/

set_option autoImplicit false

namespace CiClient.Record

open Json (Shape Fields)

/-- What the server says about itself; what it does not say is missing. -/
structure ServerInfo where
  hudsonVersion : Option String
  jenkinsVersion : Option String
  jenkinsSession : Option String
  hudsonCliPort : Option String
  jenkinsCliPort : Option String
  jenkinsCli2Port : Option String
  instanceIdentity : Option String
  sshEndpoint : Option String
  server : Option String
  failures : List Failure
  deriving DecidableEq

namespace ServerInfo

/-- How the identification of the server is written; what is not known is null. -/
def shape : Shape ServerInfo :=
  .record "SystemInfo"
    (.nullable "hudson_version" .text <|
      .nullable "jenkins_version" .text <|
      .nullable "jenkins_session" .text <|
      .nullable "hudson_cli_port" .text <|
      .nullable "jenkins_cli_port" .text <|
      .nullable "jenkins_cli2_port" .text <|
      .nullable "instance_identity" .text <|
      .nullable "ssh_endpoint" .text <|
      .nullable "server" .text <|
      .many "errors" Failure.shape .done)
    ⟨fun (hudsonVersion, jenkinsVersion, jenkinsSession, hudsonCliPort, jenkinsCliPort,
          jenkinsCli2Port, instanceIdentity, sshEndpoint, server, failures, ()) =>
        ⟨hudsonVersion, jenkinsVersion, jenkinsSession, hudsonCliPort, jenkinsCliPort,
          jenkinsCli2Port, instanceIdentity, sshEndpoint, server, failures⟩,
      fun r => (r.hudsonVersion, r.jenkinsVersion, r.jenkinsSession, r.hudsonCliPort,
        r.jenkinsCliPort, r.jenkinsCli2Port, r.instanceIdentity, r.sshEndpoint, r.server,
        r.failures, ()),
      fun _ => rfl, fun _ => rfl⟩

/-- Nothing is known but the failure. -/
def failed (failure : Failure) : ServerInfo :=
  ⟨none, none, none, none, none, none, none, none, none, [failure]⟩

end ServerInfo
end CiClient.Record
