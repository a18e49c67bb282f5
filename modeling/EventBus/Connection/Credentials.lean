import EventBus.Config
import EventBus.Connection.Error
import EventBus.Timestamp.Rfc3339

namespace EventBus.Connection

structure AccessToken where
  token : String
  expiresAt : Timestamp
  deriving DecidableEq, Repr

structure Credentials where
  username : String
  password : String
  expiresAt : Option Timestamp
  deriving DecidableEq, Repr

def AccessToken.text (t : AccessToken) : String :=
  String.join ["AccessToken \x7b access_token: ", Text.quoted BrokerSettings.redaction,
    ", expires_at: ", t.expiresAt.text, " \x7d"]

namespace Credentials

def tokenUsername : String := "jwt"

def text (c : Credentials) : String :=
  let expiry :=
    match c.expiresAt with
    | none => "None"
    | some t => "Some(" ++ t.text ++ ")"
  String.join ["Credentials \x7b username: ", Text.quoted c.username, ", password: ",
    Text.quoted BrokerSettings.redaction, ", expires_at: ", expiry, " \x7d"]

/-- Credentials for the next connection. With a token provider only its answer counts. -/
def resolve (settings : BrokerSettings) (token : Option (Except String AccessToken)) :
    Except Error (Option Credentials) :=
  match token with
  | some (.error cause) => .error (.tokenProvider cause)
  | some (.ok t) => .ok (some ⟨tokenUsername, t.token, some t.expiresAt⟩)
  | none =>
    .ok (settings.username.map fun username => ⟨username, settings.password.getD "", none⟩)

end Credentials

/-- Whoever hands out tokens. An answer may depend on how many requests came before it. -/
structure TokenProvider where
  answer : Nat → Except String AccessToken
  requests : Nat := 0

namespace TokenProvider

/-- One answer per request, the last one over and over. Without any there is no token. -/
def ofScript (answers : List (Except String AccessToken)) : TokenProvider where
  answer n := (answers[n]? <|> answers.getLast?).getD (.error "")

def request (provider : Option TokenProvider) :
    Option TokenProvider × Option (Except String AccessToken) :=
  (provider.map fun p => { p with requests := p.requests + 1 },
    provider.map fun p => p.answer p.requests)

end TokenProvider
end EventBus.Connection
