import EventBus.Config.Url
import EventBus.Connection.Credentials
import EventBus.Proofs.Url.Authority

namespace EventBus.Connection.Credentials

open BrokerSettings (ofUrl standard)
open Url (Percent.encodeAll Percent.isUnreserved)

/-- A name or a password as it can stand in a URL. -/
def encoded (text : String) : String := String.ofList (Percent.encodeAll text.toList)

/-- The URL of a broker with a user. -/
def urlOf (name password : String) : String :=
  String.join ["mqtt://", encoded name, ":", encoded password, "@broker.local"]

theorem encoded_ne_empty {text : String} (h : text ≠ "") : encoded text ≠ "" := by
  have hne : text.toList ≠ [] := by simpa using h
  simpa [encoded] using Url.Percent.encodeAll_ne_nil hne

theorem encoded_eq_self {text : String} :
    encoded text = text ↔ ∀ c ∈ text.toList, Percent.isUnreserved c = true := by
  rw [← Url.Percent.encodeAll_eq_self, encoded]
  constructor
  · intro h
    have hlist := congrArg String.toList h
    rwa [String.toList_ofList] at hlist
  · intro h
    rw [h, String.ofList_toList]

theorem toList_urlOf (name password : String) :
    (urlOf name password).toList = "mqtt://".toList ++
      ((Percent.encodeAll name.toList ++ ':' :: Percent.encodeAll password.toList) ++
        '@' :: "broker.local".toList) := by
  simp [urlOf, encoded]

theorem read?_urlOf (name : String) {password : String} (h : password ≠ "") :
    Url.read? (urlOf name password) =
      some ⟨"mqtt", encoded name, some (encoded password), "broker.local", none⟩ := by
  have hne : password.toList ≠ [] := by simpa using h
  have hencoded : ∀ text, ∀ c ∈ Percent.encodeAll text, ' ' < c ∧ Url.endsAuthority c = false := by
    intro text c hc
    have hplain := Url.Percent.encoded_of_mem_encodeAll hc
    have hrange := hplain.range
    refine ⟨show (' ').toNat < c.toNat from Nat.lt_of_lt_of_le (by decide) hrange.1, ?_⟩
    simp only [Url.endsAuthority, Bool.or_eq_false_iff, decide_eq_false_iff_not]
    exact ⟨⟨hplain.ne (by decide), hplain.ne (by decide)⟩, hplain.ne (by decide)⟩
  have hmarks : ∀ c ∈ ':' :: '@' :: "broker.local".toList,
      ' ' < c ∧ Url.endsAuthority c = false := List.all_iff_forall_prop.mp (by decide)
  have hvisible : ∀ c ∈ (Percent.encodeAll name.toList ++
      ':' :: Percent.encodeAll password.toList) ++ '@' :: "broker.local".toList,
      ' ' < c ∧ Url.endsAuthority c = false := by
    intro c hc
    simp only [List.mem_append, List.mem_cons] at hc
    rcases hc with (hc | rfl | hc) | hc
    · exact hencoded _ c hc
    · exact hmarks _ (by simp)
    · exact hencoded _ c hc
    · exact hmarks c (List.mem_cons_of_mem _ (List.mem_cons.mpr hc))
  have hsplit : Url.splitHost false "broker.local".toList = ("broker.local".toList, []) := by rfl
  have hhost : Url.host? "broker.local".toList = some "broker.local".toList := by rfl
  rw [← String.ofList_toList (s := urlOf name password), toList_urlOf,
    Url.read?_of_user hvisible (by decide) hsplit hhost rfl, Url.credentials_encodeAll hne,
    String.ofList_toList, encoded, encoded]

/-- The settings of a URL with a user. -/
def settingsOf (clientId name password : String) : BrokerSettings :=
  { standard clientId with
    host := "broker.local"
    username := some (encoded name)
    password := some (encoded password) }

theorem ofUrl_urlOf (clientId : String) {name password : String} (hname : name ≠ "")
    (hpassword : password ≠ "") :
    ofUrl clientId (urlOf name password) = .ok (settingsOf clientId name password) := by
  have hread := read?_urlOf name hpassword
  have hencoded := encoded_ne_empty hname
  simp [ofUrl, BrokerSettings.ofUrl?, hread, BrokerSettings.encrypted?, hencoded, settingsOf,
    BrokerSettings.defaultPort, standard]

/-- A user of a URL is who the client says it is, name and password as they stand in the URL. So
they are sent as they are meant just if they hold nothing that is encoded there. -/
theorem resolve_ofUrl (clientId : String) {name password : String} (hname : name ≠ "")
    (hpassword : password ≠ "") :
    let settings := settingsOf clientId name password
    ofUrl clientId (urlOf name password) = .ok settings ∧
      resolve settings none = .ok (some ⟨encoded name, encoded password, none⟩) ∧
      (settings.username = some name ↔ ∀ c ∈ name.toList, Percent.isUnreserved c = true) ∧
      (settings.password = some password ↔
        ∀ c ∈ password.toList, Percent.isUnreserved c = true) ∧
      (resolve settings none = .ok (some ⟨name, password, none⟩) ↔
        ∀ c ∈ name.toList ++ password.toList, Percent.isUnreserved c = true) := by
  intro settings
  have hresolve : resolve settings none = .ok (some ⟨encoded name, encoded password, none⟩) := rfl
  refine ⟨ofUrl_urlOf clientId hname hpassword, hresolve, ?_, ?_, ?_⟩
  · rw [← encoded_eq_self]
    exact Option.some_inj
  · rw [← encoded_eq_self]
    exact Option.some_inj
  · rw [hresolve, List.forall_mem_append, ← encoded_eq_self, ← encoded_eq_self]
    simp

/-- Marks that mean nothing in a URL, and a name with one that does. -/
theorem resolve_ofUrl_marks :
    "a-b" ≠ "" ∧ "é/" ≠ "" ∧ "p_1" ≠ "" ∧
      ofUrl "c" (urlOf "a-b" "p_1") = .ok (settingsOf "c" "a-b" "p_1") ∧
      resolve (settingsOf "c" "a-b" "p_1") none = .ok (some ⟨"a-b", "p_1", none⟩) ∧
      (settingsOf "c" "é/" "p_1").username ≠ some "é/" := by
  have hplain : ∀ c ∈ "a-b".toList ++ "p_1".toList, Percent.isUnreserved c = true :=
    List.all_eq_true.mp (by decide)
  have hmarks : ¬∀ c ∈ "é/".toList, Percent.isUnreserved c = true :=
    mt List.all_eq_true.mpr (by decide)
  have hdash : "a-b" ≠ "" := by decide
  have hslash : "é/" ≠ "" := by decide
  have hpassword : "p_1" ≠ "" := by decide
  obtain ⟨hurl, -, -, -, hsent⟩ := resolve_ofUrl "c" hdash hpassword
  obtain ⟨-, -, hname, -⟩ := resolve_ofUrl "c" hslash hpassword
  exact ⟨hdash, hslash, hpassword, hurl, hsent.mpr hplain, mt hname.mp hmarks⟩

/-- The at sign of a name is sent as it is encoded. -/
theorem resolve_not_faithful :
    ofUrl "c" "mqtt://a%40b:p@broker.local" = .ok (settingsOf "c" "a@b" "p") ∧
      urlOf "a@b" "p" = "mqtt://a%40b:p@broker.local" ∧
      (settingsOf "c" "a@b" "p").username = some "a%40b" ∧
      resolve (settingsOf "c" "a@b" "p") none ≠ .ok (some ⟨"a@b", "p", none⟩) := by
  have hurl : urlOf "a@b" "p" = "mqtt://a%40b:p@broker.local" := by decide
  have hname : encoded "a@b" = "a%40b" := by decide
  refine ⟨?_, hurl, congrArg some hname, ?_⟩
  · rw [← hurl]
    exact ofUrl_urlOf "c" (by decide) (by decide)
  · intro h
    have hcredentials := Option.some.inj (Except.ok.inj h)
    have hsame : encoded "a@b" = "a@b" := congrArg Credentials.username hcredentials
    rw [hname] at hsame
    exact absurd hsame (by decide)

end EventBus.Connection.Credentials
