import EventBus.Connection.Credentials
import EventBus.Proofs.Cli.Load
import EventBus.Proofs.Url.Secrecy

namespace EventBus

namespace BrokerSettings

/-- Of the password of a URL only whether there is one gets into what is shown of its settings. -/
theorem redacted_ofUrl? {clientId u v : String}
    (h : (Url.read? u).map Url.masked = (Url.read? v).map Url.masked) :
    (ofUrl? clientId u).map redacted = (ofUrl? clientId v).map redacted := by
  cases hu : Url.read? u with
  | none =>
    rw [hu] at h
    have hv := Option.map_eq_none_iff.mp h.symm
    rw [ofUrl?, ofUrl?, hu, hv]
  | some parts =>
    rw [hu] at h
    obtain ⟨others, hv, hmasked⟩ := Option.map_eq_some_iff.mp h.symm
    obtain ⟨scheme, username, password, host, port⟩ := parts
    obtain ⟨scheme', username', password', host', port'⟩ := others
    simp only [Url.masked, Url.mk.injEq] at hmasked
    obtain ⟨rfl, rfl, hpassword, rfl, rfl⟩ := hmasked
    rw [ofUrl?, ofUrl?, hu, hv]
    simp only [Option.bind_eq_bind, Option.bind_some]
    cases encrypted? scheme' with
    | none => rfl
    | some useTls =>
      have hshown : password.map (fun _ => redaction) = password'.map fun _ => redaction := by
        cases password <;> cases password' <;> first | rfl | cases hpassword
      by_cases hanonymous : username' = ""
      · simp [redacted, hanonymous]
      · simp [redacted, hanonymous, hshown]

/-- Whether a URL is accepted does not depend on its password, nor does what is then shown. -/
theorem ofUrl_url (clientId : String) (frame : Url.Frame) (p q : Url.Secret) :
    (∃ settings others, ofUrl clientId (frame.url p) = .ok settings ∧
      ofUrl clientId (frame.url q) = .ok others ∧ settings.redacted = others.redacted) ∨
    (ofUrl clientId (frame.url p) = .error (.invalidUrl (frame.url p)) ∧
      ofUrl clientId (frame.url q) = .error (.invalidUrl (frame.url q))) := by
  have hredacted := @redacted_ofUrl? clientId _ _ (Url.read?_url frame p q)
  cases hp : ofUrl? clientId (frame.url p) with
  | some settings =>
    rw [hp] at hredacted
    obtain ⟨others, hq, hshown⟩ := Option.map_eq_some_iff.mp hredacted.symm
    exact .inl ⟨settings, others, by simp only [ofUrl, hp], by simp only [ofUrl, hq], hshown.symm⟩
  | none =>
    rw [hp] at hredacted
    have hq := Option.map_eq_none_iff.mp hredacted.symm
    exact .inr ⟨by simp only [ofUrl, hp], by simp only [ofUrl, hq]⟩

end BrokerSettings

namespace Error

variable {α : Type}

/-- What is shown of an outcome: a copy without secrets, or the messages of the failure. -/
def shown (redact : α → α) (outcome : Except Error α) : Except (List String) α :=
  (outcome.map redact).mapError chain

theorem shown_invalidUrl {redact : α → α} {frame : Url.Frame} {p q : Url.Secret} :
    shown redact (.error (.config (.invalidUrl (frame.url p)))) =
      shown redact (.error (.config (.invalidUrl (frame.url q)))) ↔ p = q := by
  constructor
  · intro h
    have hinner := (List.cons.inj (List.cons.inj (Except.error.inj h)).2).1
    exact Url.Frame.url_inj ((String.append_right_inj _).mp hinner)
  · rintro rfl
    rfl

end Error

namespace BrokerSettings

theorem shown_ofUrl (clientId : String) (frame : Url.Frame) (p q : Url.Secret) :
    Error.shown redacted ((ofUrl clientId (frame.url p)).mapError .config) =
        Error.shown redacted ((ofUrl clientId (frame.url q)).mapError .config) ↔
      p = q ∨ (ofUrl clientId (frame.url p)).isOk = true := by
  rcases ofUrl_url clientId frame p q with ⟨settings, others, hp, hq, hshown⟩ | ⟨hp, hq⟩
  · rw [hp, hq]
    exact iff_of_true (congrArg Except.ok hshown) (.inr rfl)
  · rw [hp, hq]
    exact Error.shown_invalidUrl.trans (or_iff_left Bool.false_ne_true).symm

end BrokerSettings

namespace Cli

/-- Settings that look the same still do so under the client id and base topic of a file. -/
theorem shown_withBroker (host : Host) (config : Config) (frame : Url.Frame) (p q : Url.Secret) :
    Error.shown Config.redacted ((withBroker host (some (frame.url p)) config).mapError .config) =
        Error.shown Config.redacted
          ((withBroker host (some (frame.url q)) config).mapError .config) ↔
      p = q ∨ (BrokerSettings.ofUrl host.clientId (frame.url p)).isOk = true := by
  rcases BrokerSettings.ofUrl_url host.clientId frame p q with
    ⟨settings, others, hp, hq, hshown⟩ | ⟨hp, hq⟩
  · refine iff_of_true ?_ (.inr (by rw [hp]; rfl))
    simp only [withBroker, hp, hq]
    cases config.broker with
    | none => exact congrArg (fun s => Except.ok { config with broker := some s }) hshown
    | some existing =>
      exact congrArg (fun s : BrokerSettings => Except.ok { config with
        broker := some { s with
          topicPrefix := existing.topicPrefix, clientId := existing.clientId } }) hshown
  · simp only [withBroker, hp, hq]
    exact Error.shown_invalidUrl.trans (or_iff_left Bool.false_ne_true).symm

theorem exists_load (host : Host) (file : Option String) :
    ∃ lines loaded, ∀ url, load host file url =
      (lines, (loaded >>= withBroker host url).mapError .config) := by
  cases hfile : chosenFile host file with
  | none =>
    refine ⟨[], Config.load host.environment host.clientId "", ?_⟩
    intro url
    simp only [load, hfile]
  | some path =>
    refine ⟨[Log.info .program ("Loading configuration from: " ++ path)], readFile host path, ?_⟩
    intro url
    simp only [load, hfile]

theorem shown_load (host : Host) (file : Option String) (frame : Url.Frame) (p q : Url.Secret) :
    (load host file (some (frame.url p))).1 = (load host file (some (frame.url q))).1 ∧
      (Error.shown Config.redacted (load host file (some (frame.url p))).2 =
          Error.shown Config.redacted (load host file (some (frame.url q))).2 ↔
        p = q ∨ (BrokerSettings.ofUrl host.clientId (frame.url p)).isOk = true ∨
          (load host file none).2.isOk = false) := by
  obtain ⟨lines, loaded, hload⟩ := exists_load host file
  simp only [hload, true_and]
  cases loaded with
  | error error =>
    have hstop (url : Option String) : Except.error error >>= withBroker host url =
        .error error := rfl
    simp only [hstop, true_iff]
    exact .inr (.inr rfl)
  | ok config =>
    have hnext (url : Option String) : Except.ok config >>= withBroker host url =
        withBroker host url config := rfl
    have hfile : ((withBroker host none config).mapError Error.config).isOk = true := rfl
    simp only [hnext, hfile, shown_withBroker, Bool.true_eq_false, or_false]

/-- What is shown is the same for all passwords and tokens, unless it is the message about a URL
that is refused: that tells them apart. -/
theorem shown_same_iff_accepted (settings : BrokerSettings) (username : String)
    (expiresAt : Timestamp) (valid : Option Timestamp) (s t : String) (clientId : String)
    (host : Host) (file : Option String) (frame : Url.Frame) (p q : Url.Secret) :
    { settings with password := some s }.redacted =
        { settings with password := some t }.redacted ∧
      Connection.Credentials.text ⟨username, s, valid⟩ =
        Connection.Credentials.text ⟨username, t, valid⟩ ∧
      Connection.AccessToken.text ⟨s, expiresAt⟩ = Connection.AccessToken.text ⟨t, expiresAt⟩ ∧
      (Error.shown BrokerSettings.redacted
            ((BrokerSettings.ofUrl clientId (frame.url p)).mapError .config) =
          Error.shown BrokerSettings.redacted
            ((BrokerSettings.ofUrl clientId (frame.url q)).mapError .config) ↔
        p = q ∨ (BrokerSettings.ofUrl clientId (frame.url p)).isOk = true) ∧
      (load host file (some (frame.url p))).1 = (load host file (some (frame.url q))).1 ∧
      (Error.shown Config.redacted (load host file (some (frame.url p))).2 =
          Error.shown Config.redacted (load host file (some (frame.url q))).2 ↔
        p = q ∨ (BrokerSettings.ofUrl host.clientId (frame.url p)).isOk = true ∨
          (load host file none).2.isOk = false) := by
  have hurl := BrokerSettings.shown_ofUrl clientId frame p q
  have hload := shown_load host file frame p q
  exact ⟨rfl, rfl, rfl, hurl, hload⟩

/-- The port of these URLs is out of range. -/
theorem refused_url_tells_password :
    ∃ (frame : Url.Frame) (p q : Url.Secret),
      (∀ c ∈ p.text ++ q.text, Text.isAlphanumeric c = true) ∧
      frame.url p = "mqtt://u:s3cret@h:70000" ∧ frame.url q = "mqtt://u:other@h:70000" ∧
      Error.shown Config.redacted (load emptyPlace none (some (frame.url p))).2 =
        .error ["Configuration error: Invalid broker URL: mqtt://u:s3cret@h:70000",
          "Invalid broker URL: mqtt://u:s3cret@h:70000"] ∧
      Error.shown Config.redacted (load emptyPlace none (some (frame.url q))).2 =
        .error ["Configuration error: Invalid broker URL: mqtt://u:other@h:70000",
          "Invalid broker URL: mqtt://u:other@h:70000"] := by
  have hp : ∀ c ∈ "s3cret".toList, Text.isAlphanumeric c = true :=
    List.all_eq_true.mp (by decide +kernel)
  have hq : ∀ c ∈ "other".toList, Text.isAlphanumeric c = true :=
    List.all_eq_true.mp (by decide +kernel)
  have hurlp : BrokerSettings.ofUrl emptyPlace.clientId "mqtt://u:s3cret@h:70000" =
      .error (.invalidUrl "mqtt://u:s3cret@h:70000") := by rfl
  have hurlq : BrokerSettings.ofUrl emptyPlace.clientId "mqtt://u:other@h:70000" =
      .error (.invalidUrl "mqtt://u:other@h:70000") := by rfl
  refine ⟨⟨"mqtt://u".toList, "h:70000".toList⟩, .ofAlphanumeric "s3cret".toList (by decide) hp,
    .ofAlphanumeric "other".toList (by decide) hq, ?_, rfl, rfl, ?_, ?_⟩
  · intro c hc
    exact (List.mem_append.mp hc).elim (hp c) (hq c)
  · change Error.shown _ (load emptyPlace none (some "mqtt://u:s3cret@h:70000")).2 = _
    rw [load_emptyPlace_of_refused hurlp]
    rfl
  · change Error.shown _ (load emptyPlace none (some "mqtt://u:other@h:70000")).2 = _
    rw [load_emptyPlace_of_refused hurlq]
    rfl

end Cli
end EventBus
