import EventBus.Connection.Credentials

namespace EventBus.Connection

abbrev FileContent := List UInt8

inductive Tls where
  | platformRoots
  | authorities (ca : FileContent) (client : Option (FileContent × FileContent))
  deriving DecidableEq, Repr

structure Options where
  host : String
  port : UInt16
  clientId : String
  cleanStart : Bool
  credentials : Option Credentials
  keepAlive : Duration
  maxPacketSize : UInt32
  /-- None for an unencrypted session. -/
  tls : Option Tls
  deriving DecidableEq, Repr

abbrev FileReader := String → Except String FileContent

namespace Tls

def load (files : FileReader) (path : String) : Except Error FileContent :=
  match files path with
  | .ok content => .ok content
  | .error cause => .error (.tlsMaterial path cause)

/-- The files are read in order: authorities, certificate, key. Without authorities the
certificate is not used. -/
def ofSettings (files : FileReader) (settings : BrokerSettings) : Except Error Tls :=
  match settings.caCerts with
  | none => .ok .platformRoots
  | some path => do
    let ca ← load files path
    match settings.certFile, settings.keyFile with
    | some certFile, some keyFile =>
      let cert ← load files certFile
      let key ← load files keyFile
      .ok (.authorities ca (some (cert, key)))
    | _, _ => .ok (.authorities ca none)

end Tls

def Options.ofSettings (files : FileReader) (settings : BrokerSettings) (clientId : String)
    (credentials : Option Credentials) : Except Error Options := do
  let tls ← if settings.useTls then (Tls.ofSettings files settings).map some else .ok none
  .ok {
    host := settings.host
    port := settings.port
    clientId := clientId
    cleanStart := settings.cleanSession
    credentials := credentials
    keepAlive := settings.keepAliveDuration
    maxPacketSize := settings.maxPacketSize
    tls := tls }

/-- What the next session is opened with. The token is asked for before any file is read. -/
def Options.prepare (files : FileReader) (settings : BrokerSettings) (clientId : String)
    (token : Option (Except String AccessToken)) : Except Error Options := do
  let credentials ← Credentials.resolve settings token
  Options.ofSettings files settings clientId credentials

end EventBus.Connection
