import TlsSetup.Options

/-!
# Credentials

For one context, the identity and the trust are taken from the sources of the options. Trust comes
first; lists of revoked certificates are read only if there is somebody to check them.
-/

namespace TlsSetup

open X509

/-- Who the local side is, and how it judges its peer. -/
structure Credentials where
  identity : Option Identity
  trust : Trust

namespace Options

def listsOfFile (o : Options) (path : String) : Attempt (List RevocationList) := do
  Attempt.ofExcept (RevocationList.parseAll (← o.resources.load path))

/-- The configured revocation lists: files in order, then values in order. -/
def revocationLists (o : Options) : Attempt (List RevocationList) := do
  if o.hasCrls then
    let files ← o.crlPaths.mapM o.listsOfFile
    let values ← o.crlValues.mapM fun v => Attempt.ofExcept (RevocationList.parseAll v)
    let lists := files.flatten ++ values.flatten
    Logged.note .debug "loaded certificate revocation lists" [("count", toString lists.length)]
    return lists
  else return []

/-- The validators for a server name; a set without validators does not count. -/
def validatorsFor (o : Options) (serverName : Option String) :
    Attempt (Option (List Validator)) :=
  match o.trustSource with
  | none => return none
  | some source =>
    (source.filter fun vs => !vs.isEmpty).ask
      (fun name _ => Logged.note .debug "using per-name trust validators" [("server_name", name)])
      (fun name =>
        Logged.note .debug "no per-name trust validators, using default" [("server_name", name)])
      serverName

/-- Validators together with the lists that they check, if there are any. -/
def judged (vs : List Validator) (lists : List RevocationList) : Trust :=
  .validators (if lists.isEmpty then vs else Validator.revokingAll lists vs) lists

def trustFor (o : Options) (serverName : Option String) (trustAll : Bool) : Attempt Trust := do
  if trustAll then
    Logged.note .debug "trust-all requested, peer certificates are not verified"
    return .trustAll (← o.revocationLists)
  else
    match ← o.validatorsFor serverName with
    | none =>
      Logged.note .debug "no trust validators resolved"
      return .none
    | some vs => return judged vs (← o.revocationLists)

def identityFor (o : Options) (serverName : Option String) : Attempt (Option Identity) :=
  match o.keySource with
  | none => return none
  | some source =>
    source.ask
      (fun name identity =>
        Logged.note .debug "using per-name key material"
          [("server_name", name), ("subject", identity.holder.subject)])
      (fun name =>
        Logged.note .debug "no per-name key material, using default" [("server_name", name)])
      serverName

def credentialsFor (o : Options) (serverName : Option String) (trustAll : Bool) :
    Attempt Credentials := do
  let trust ← o.trustFor serverName trustAll
  let identity ← o.identityFor serverName
  return { identity, trust }

end Options

end TlsSetup
