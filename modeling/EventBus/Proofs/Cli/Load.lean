import EventBus.Cli
import EventBus.Id
import EventBus.Proofs.Config.Validity
import EventBus.Proofs.Url.Authority

namespace EventBus

namespace Id

theorem allBlank_client (bytes : List UInt8) : Text.allBlank (client bytes) = false := by
  have hword : Text.isBlank 'e' = false := by decide
  simp [Text.allBlank, client, hword]

end Id

namespace Config

theorem validate_of_load {environment : String → Option String} {clientId text : String}
    {config : Config} (h : load environment clientId text = .ok config) :
    config.validate = .ok () := by
  unfold load at h
  split at h
  · cases h
  · split at h
    · cases h
    · split at h
      · cases h
      · next hvalid =>
        obtain rfl := Except.ok.inj h
        exact hvalid

theorem load_empty (environment : String → Option String) (clientId : String) :
    load environment clientId "" = .ok ⟨none, .standard, []⟩ := by
  have hdocument : Toml.read? (String.ofList []) >>= ofToml? clientId =
      some ⟨none, .standard, []⟩ := by rfl
  have hvalid : validate ⟨none, .standard, []⟩ = .ok () := by rfl
  rw [load, String.toList_empty, substitute]
  simp only [hdocument, hvalid]

end Config

namespace BrokerSettings

theorem exists_of_ofUrl {clientId url : String} {settings : BrokerSettings}
    (h : ofUrl clientId url = .ok settings) :
    ∃ parts encrypted username password, Url.read? url = some parts ∧
      settings = { standard clientId with
        host := parts.host
        port := parts.port.getD (defaultPort encrypted)
        useTls := encrypted
        username
        password } := by
  unfold ofUrl at h
  split at h
  · next hurl =>
    obtain rfl := Except.ok.inj h
    obtain ⟨parts, hparts, hrest⟩ := Option.bind_eq_some_iff.mp hurl
    obtain ⟨encrypted, -, hsettings⟩ := Option.bind_eq_some_iff.mp hrest
    exact ⟨parts, encrypted, _, _, hparts, (Option.some.inj hsettings).symm⟩
  · cases h

theorem portOf_eq_zero {port : Option UInt16} {encrypted : Bool} :
    port.getD (defaultPort encrypted) = 0 ↔ port = some 0 := by
  cases port with
  | none => cases encrypted <;> decide
  | some port => simp

theorem validate_of_ofUrl {clientId url : String} {settings : BrokerSettings}
    (hclient : Text.allBlank clientId = false) (h : ofUrl clientId url = .ok settings) :
    settings.clientId = clientId ∧ settings.validate =
      if (Url.read? url).bind Url.port = some 0 then .error .portZero else .ok () := by
  obtain ⟨parts, encrypted, username, password, hparts, rfl⟩ := exists_of_ofUrl h
  have hhost := Url.allBlank_host hparts
  rw [hparts, Option.bind_some]
  refine ⟨rfl, ?_⟩
  by_cases hport : parts.port = some 0
  · rw [if_pos hport]
    exact validate_of_portZero hhost (portOf_eq_zero.mpr hport)
  · rw [if_neg hport]
    have hstandard := valid_standard hclient
    exact validate_eq_ok.mpr (hstandard.withBroker hhost (mt portOf_eq_zero.mp hport) _ _ _)

end BrokerSettings

namespace Cli

/-- What ends well does so whatever its errors are called, and so does each part of it. -/
theorem bind_eq_ok {ε ε' α β : Type} {first : Except ε α} {next : α → Except ε β}
    {name : ε → ε'} {result : β} (h : (first >>= next).mapError name = .ok result) :
    ∃ value, first = .ok value ∧ next value = .ok result := by
  cases first with
  | error error => cases h
  | ok value =>
    refine ⟨value, rfl, ?_⟩
    change (next value).mapError name = .ok result at h
    cases hnext : next value with
    | error error =>
      rw [hnext] at h
      cases h
    | ok other =>
      rw [hnext] at h
      exact congrArg Except.ok (Except.ok.inj h)

theorem validate_of_readFile {host : Host} {path : String} {config : Config}
    (h : readFile host path = .ok config) : config.validate = .ok () := by
  unfold readFile at h
  split at h
  · cases h
  · split at h
    · cases h
    · exact Config.validate_of_load h

/-- In a configuration that passed its checks the settings of a URL are all that is new. -/
theorem validate_of_withBroker {host : Host} (hclient : Text.allBlank host.clientId = false)
    {url : Option String} {config after : Config} (hvalid : config.validate = .ok ())
    (h : withBroker host url config = .ok after) :
    after.validate =
      if (url.bind Url.read?).bind Url.port = some 0 then .error .portZero else .ok () := by
  unfold withBroker at h
  cases url with
  | none =>
    obtain rfl := Except.ok.inj h
    exact hvalid
  | some url =>
    dsimp only at h
    split at h
    · cases h
    · next settings hurl =>
      obtain rfl := Except.ok.inj h
      obtain ⟨hgenerated, hsettings⟩ := BrokerSettings.validate_of_ofUrl hclient hurl
      rw [Option.bind_some, Config.validate_of_broker hvalid, ← hsettings]
      cases hbroker : config.broker with
      | none => rfl
      | some existing =>
        obtain ⟨hexisting, -⟩ := Config.validate_eq_ok.mp hvalid
        rw [← hgenerated] at hclient
        exact BrokerSettings.validate_withClient hclient (hexisting existing hbroker).clientId _

/-- Whichever file is chosen, and when there is none, what is loaded from it passed its checks. -/
theorem exists_of_load {host : Host} {file url : Option String} {lines : List Log.Line}
    {config : Config} (h : load host file url = (lines, .ok config)) :
    ∃ loaded : Config, loaded.validate = .ok () ∧ withBroker host url loaded = .ok config := by
  obtain ⟨-, hconfig⟩ := Prod.mk.inj h
  obtain ⟨loaded, hloaded, hbroker⟩ := bind_eq_ok hconfig
  refine ⟨loaded, ?_, hbroker⟩
  cases hfile : chosenFile host file with
  | none =>
    rw [hfile] at hloaded
    exact Config.validate_of_load hloaded
  | some path =>
    rw [hfile] at hloaded
    exact validate_of_readFile hloaded

/-- A configuration that the program goes on with would pass its checks, unless it has the port
zero of a URL: then that is what they find. -/
theorem load_valid_unless_portZero {host : Host} {bytes : List UInt8}
    (hclient : host.clientId = Id.client bytes) {file url : Option String}
    {lines : List Log.Line} {config : Config} (h : load host file url = (lines, .ok config)) :
    config.validate =
      if (url.bind Url.read?).bind Url.port = some 0 then .error .portZero else .ok () := by
  obtain ⟨loaded, hvalid, hbroker⟩ := exists_of_load h
  have hgenerated : Text.allBlank host.clientId = false := by
    rw [hclient]
    exact Id.allBlank_client bytes
  exact validate_of_withBroker hgenerated hvalid hbroker

def emptyPlace : Host where
  environment := fun _ => none
  files := fun _ => .error Files.Fault.notFound.message
  network := .absent
  stamp := ⟨"", .epoch⟩
  clientId := Id.client [0, 0, 0, 0]
  subscriptionId := ""

theorem load_emptyPlace_eq (url : String) :
    load emptyPlace none (some url) =
      ([], (withBroker emptyPlace (some url) ⟨none, .standard, []⟩).mapError .config) := by
  have hfile : chosenFile emptyPlace none = none := by rfl
  simp only [load, hfile, Config.load_empty]
  rfl

theorem load_emptyPlace {url : String} {settings : BrokerSettings}
    (h : BrokerSettings.ofUrl emptyPlace.clientId url = .ok settings) :
    load emptyPlace none (some url) = ([], .ok ⟨some settings, .standard, []⟩) := by
  have hbroker : withBroker emptyPlace (some url) ⟨none, .standard, []⟩ =
      .ok ⟨some settings, .standard, []⟩ := by
    simp only [withBroker, h]
  rw [load_emptyPlace_eq, hbroker]
  rfl

theorem load_emptyPlace_of_refused {url : String} {error : ConfigError}
    (h : BrokerSettings.ofUrl emptyPlace.clientId url = .error error) :
    load emptyPlace none (some url) = ([], .error (.config error)) := by
  have hbroker : withBroker emptyPlace (some url) ⟨none, .standard, []⟩ = .error error := by
    simp only [withBroker, h]
  rw [load_emptyPlace_eq, hbroker]
  rfl

/-- A URL with a user, and no port. -/
theorem load_valid_unless_portZero_user :
    ∃ config, load emptyPlace none (some "mqtts://u:p@h") = ([], .ok config) ∧
      config.broker.isSome = true ∧ config.validate = .ok () := by
  have hurl : ∃ settings, BrokerSettings.ofUrl emptyPlace.clientId "mqtts://u:p@h" =
      .ok settings := ⟨_, rfl⟩
  obtain ⟨settings, hsettings⟩ := hurl
  have hclient : emptyPlace.clientId = Id.client [0, 0, 0, 0] := rfl
  have hload := load_emptyPlace hsettings
  exact ⟨_, hload, rfl, load_valid_unless_portZero hclient hload⟩

/-- Port zero of a URL is loaded, and the checks refuse it. -/
theorem load_portZero :
    ∃ config, load emptyPlace none (some "mqtt://h:0") = ([], .ok config) ∧
      config.validate = .error .portZero ∧
      checkConfig config true = ([], .error (.failed (.config (.invalid .portZero)))) := by
  have hurl : ∃ settings, BrokerSettings.ofUrl emptyPlace.clientId "mqtt://h:0" =
      .ok settings ∧ settings.validate = .error .portZero := ⟨_, rfl, rfl⟩
  obtain ⟨settings, hsettings, hzero⟩ := hurl
  have hrefused : Config.validate ⟨some settings, .standard, []⟩ = .error .portZero := by
    rw [Config.validate, Option.elim_some, hzero]
  refine ⟨_, load_emptyPlace hsettings, hrefused, ?_⟩
  rw [checkConfig, hrefused]

end Cli
end EventBus
