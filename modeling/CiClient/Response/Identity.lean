import CiClient.Http.Headers
import CiClient.Record.Build
import CiClient.Record.Server
import CiClient.Text.Decimal

/-!
# What header fields say

The server identifies itself in the header fields of every response, and with a part of the console
output it tells where the next part begins.
-/

set_option autoImplicit false

namespace CiClient.Text

/-- Read an integer with white space around it. -/
def trimmedInt64? (s : String) : Option Int64 := int64? (trimChars s.toList)

end CiClient.Text

namespace CiClient.Record

/-- What the server says about itself. -/
def ServerInfo.ofHeaders (headers : Http.Headers) : ServerInfo where
  hudsonVersion := headers.text? "x-hudson"
  jenkinsVersion := headers.text? "x-jenkins"
  jenkinsSession := headers.text? "x-jenkins-session"
  hudsonCliPort := headers.text? "x-hudson-cli-port"
  jenkinsCliPort := headers.text? "x-jenkins-cli-port"
  jenkinsCli2Port := headers.text? "x-jenkins-cli2-port"
  instanceIdentity := headers.text? "x-instance-identity"
  sshEndpoint := headers.text? "x-ssh-endpoint"
  server := headers.text? "server"
  failures := []

namespace ConsoleText

/-- Whether a field says yes, in any case. -/
def saysTrue (value : String) : Bool := Http.Headers.lower value == "true"

/-- A part of the console output; without a readable size it is minus one. -/
def ofHeaders (headers : Http.Headers) (text : String) : ConsoleText where
  text := text
  size := ((headers.text? "x-text-size").bind Text.trimmedInt64?).getD (-1)
  hasMoreData := (headers.text? "x-more-data").any saysTrue

end ConsoleText
end CiClient.Record
