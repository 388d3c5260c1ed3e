import EventGateway.Flogo.App
import EventGateway.Protocol.Endpoint

/-!
# TLS settings

Certificates are not verified unless a document asks for it.  Whether the certificates of the system
are used matters only where certificates are verified, and the trust store is named only where those
of the system are refused.
-/

namespace EventGateway

open Flogo (Settings)

/-- How certificates are verified. -/
structure TlsPolicy where
  skipVerify : Bool
  /-- Whether the certificates of the system are used; only known where they are verified. -/
  useSystemCert : Option Bool
deriving DecidableEq, Repr

namespace TlsPolicy

/-- The policy that two flags ask for. -/
def resolve (skipVerify useSystemCert : Option Bool) : TlsPolicy :=
  let skip := skipVerify.getD true
  ⟨skip, if skip then none else useSystemCert⟩

/-- The policy if nothing is asked for. -/
def standard : TlsPolicy :=
  resolve none none

/-- Whether the trust store is named. -/
def includeTrustStore (p : TlsPolicy) : Bool :=
  p.useSystemCert == some false

/-- The certificate of the client, and the trust store if it is named. -/
def certificates (p : TlsPolicy) : Settings :=
  let base := (∅ : Settings)
    |>.insert "certFile" (.text Environment.certFile)
    |>.insert "keyFile" (.text Environment.keyFile)
  if p.includeTrustStore then base.insert "caFile" (.text Environment.trustStore) else base

/-- Adds the two flags. -/
def addFlags (p : TlsPolicy) (settings : Settings) : Settings :=
  settings.insert "skipVerify" (.bool p.skipVerify)
    |>.insert? "useSystemCert" (p.useSystemCert.map .bool)

/-- The layout of listeners: all in one block. -/
def addNested (p : TlsPolicy) (settings : Settings) : Settings :=
  settings.insert "sslConfig" (.object (p.addFlags p.certificates))

/-- The layout of senders: certificates in a block, flags beside it. -/
def addFlat (p : TlsPolicy) (settings : Settings) : Settings :=
  p.addFlags (settings.insert "sslConfig" (.object p.certificates))

end TlsPolicy

end EventGateway
