import TlsSetup.Context.Assembly

/-!
# Creation of contexts

Credentials are found for the name of the server, and a context is assembled from them. A failure of
either stage is reported and is the outcome.
-/

namespace TlsSetup

namespace Options

def describeName (serverName : Option String) : String := Text.optional (serverName.map Text.quoted)

/-- Creates a context for `role` and, if there is one, the name of the server. -/
def contextFor (o : Options) (serverName : Option String) (useAlpn : Bool) (role : Role)
    (trustAll : Bool) : Attempt Context := do
  Logged.note .debug "creating TLS context"
    [("server_name", describeName serverName), ("role", role.name),
      ("use_alpn", Text.truth useAlpn), ("trust_all", Text.truth trustAll)]
  let credentials ← (o.credentialsFor serverName trustAll).noting fun e =>
    Logged.note .warn ("failed to resolve TLS credentials: " ++ e.message)
      [("server_name", describeName serverName)]
  (o.assemble role useAlpn credentials).noting fun e =>
    Logged.note .warn ("failed to build TLS context: " ++ e.message)
      [("server_name", describeName serverName), ("role", role.name)]

end Options

end TlsSetup
