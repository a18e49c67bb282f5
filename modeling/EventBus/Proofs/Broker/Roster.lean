import EventBus.Broker.Directory
import EventBus.Proofs.Entries

namespace EventBus.Broker.Roster

variable {β : Type u} {ω : Type v} {α : Type w}

inductive Call (β : Type u) where
  | register (name : String) (broker : β)
  | registerDefault (name : String) (broker : β)

namespace Call

def name : Call β → String
  | .register name _ | .registerDefault name _ => name

def broker : Call β → β
  | .register _ broker | .registerDefault _ broker => broker

/-- Whether its broker is to be the default, whoever is that now. -/
def overrides : Call β → Bool
  | .register _ _ => false
  | .registerDefault _ _ => true

def answer (r : Roster β) : Call β → Except Error (Roster β)
  | .register name broker => r.register name broker
  | .registerDefault name broker => r.registerDefault name broker

/-- A call that is refused leaves the roster as it was. -/
def apply (r : Roster β) (call : Call β) : Roster β :=
  match call.answer r with
  | .ok after => after
  | .error _ => r

end Call

def after (calls : List (Call β)) : Roster β := calls.foldl Call.apply {}

/-- The calls that are not refused, the first one first. -/
def granted (r : Roster β) : List (Call β) → List (Call β)
  | [] => []
  | call :: rest => (if (call.answer r).toBool then [call] else []) ++ granted (call.apply r) rest

/-- The name that the last call made the default, or else the first name. -/
def chosen (calls : List (Call β)) : Option String :=
  ((calls.reverse.find? (·.overrides)).or calls.head?).map (·.name)

variable {r : Roster β} {calls : List (Call β)}

theorem answer_of_taken {call : Call β} {old : β} (h : r.brokers.get? call.name = some old) :
    call.answer r = .error (.duplicate call.name) := by
  have hcontains : r.brokers.contains call.name = true := congrArg Option.isSome h
  cases call with
  | register name broker => exact if_pos hcontains
  | registerDefault name broker =>
    have hrefused : r.register name broker = .error (.duplicate name) := if_pos hcontains
    rw [Call.answer, registerDefault, hrefused]
    rfl

theorem answer_of_free {call : Call β} (h : r.brokers.get? call.name = none) :
    call.answer r = .ok ⟨r.brokers.insert call.name call.broker,
      if call.overrides then some call.name else r.default.or (some call.name)⟩ := by
  have hcontains : ¬r.brokers.contains call.name = true := by
    rw [show r.brokers.contains call.name = _ from congrArg Option.isSome h]
    exact Bool.false_ne_true
  cases call with
  | register name broker =>
    refine (if_neg hcontains).trans ?_
    simp [Call.name, Call.broker, Call.overrides]
  | registerDefault name broker =>
    have hgranted : r.register name broker = .ok _ := if_neg hcontains
    rw [Call.answer, registerDefault, hgranted]
    rfl

theorem chosen_append (calls : List (Call β)) (call : Call β) :
    chosen (calls ++ [call]) =
      if call.overrides then some call.name else (chosen calls).or (some call.name) := by
  cases h : call.overrides with
  | true => simp [chosen, h]
  | false =>
    simp only [chosen, List.reverse_append, List.reverse_singleton, List.singleton_append,
      List.find?_cons, h, List.head?_append]
    cases calls.reverse.find? (·.overrides) <;> cases calls.head? <;> simp

theorem exists_of_chosen {name : String} (h : chosen calls = some name) :
    ∃ call ∈ calls, call.name = name := by
  obtain ⟨call, hcall, hname⟩ := Option.map_eq_some_iff.mp h
  refine ⟨call, ?_, hname⟩
  rcases Option.or_eq_some_iff.mp hcall with hlast | ⟨-, hfirst⟩
  · exact List.mem_reverse.mp (List.mem_of_find?_eq_some hlast)
  · exact List.mem_of_head? hfirst

theorem chosen_eq_none : chosen calls = none ↔ calls = [] := by
  cases calls with
  | nil => simp [chosen]
  | cons call rest => simp [chosen]

/-- A roster as the calls that were granted make it. -/
structure Made (granted : List (Call β)) (r : Roster β) : Prop where
  brokers : ∀ name, r.brokers.get? name = (granted.find? (·.name = name)).map (·.broker)
  default : r.default = chosen granted

theorem Made.step (h : Made calls r) (call : Call β) :
    Made (calls ++ if (call.answer r).toBool then [call] else []) (call.apply r) := by
  cases hget : r.brokers.get? call.name with
  | some old =>
    rw [Call.apply, answer_of_taken hget]
    simpa [Except.toBool] using h
  | none =>
    rw [Call.apply, answer_of_free hget]
    refine ⟨fun name => ?_, ?_⟩
    · have hnone : calls.find? (·.name = call.name) = none := by
        simpa [h.brokers] using hget
      by_cases hname : call.name = name
      · subst hname
        simp [Except.toBool, hnone]
      · simp [Except.toBool, hname, h.brokers]
    · simp only [Except.toBool, if_true, chosen_append, h.default]

theorem Made.run (h : Made calls r) (more : List (Call β)) :
    Made (calls ++ granted r more) (more.foldl Call.apply r) := by
  induction more generalizing r calls with
  | nil => simpa [granted] using h
  | cons call rest ih =>
    have hrest := ih (h.step call)
    rwa [List.append_assoc] at hrest

theorem made_after (calls : List (Call β)) : Made (granted {} calls) (after calls) := by
  have hempty : Made [] ({} : Roster β) := ⟨fun _ => rfl, rfl⟩
  exact hempty.run calls

theorem Made.isEmpty_iff (h : Made calls r) : r.brokers.isEmpty = true ↔ calls = [] := by
  constructor
  · intro hempty
    cases calls with
    | nil => rfl
    | cons call rest =>
      have hget := h.brokers call.name
      rw [SortedMap.eq_empty_of_isEmpty hempty] at hget
      simp at hget
  · rintro rfl
    refine List.isEmpty_iff.mpr (List.eq_nil_iff_forall_not_mem.mpr fun e he => ?_)
    have hget : r.brokers.get? e.1 = some e.2 := Entries.find?_of_mem r.brokers.ascending he
    rw [h.brokers] at hget
    cases hget

theorem Made.exists_default (h : Made calls r) {name : String} (hdefault : r.default = some name) :
    ∃ broker, r.brokers.get? name = some broker := by
  obtain ⟨call, hcall, hname⟩ := exists_of_chosen (h.default.symm.trans hdefault)
  have hfound : (calls.find? (·.name = name)).isSome = true :=
    List.find?_isSome.mpr ⟨call, hcall, by simpa using hname⟩
  obtain ⟨first, hfirst⟩ := Option.isSome_iff_exists.mp hfound
  exact ⟨first.broker, by rw [h.brokers, hfirst, Option.map_some]⟩

/-- What is done through the broker of a name, or through the default: that broker does it, and
nothing else happens. -/
structure Routes (r : Roster β) (act : β → ω → ω × PublishResult)
    (through : Option String → ω → ω × PublishResult) : Prop where
  named : ∀ name broker, r.brokers.get? name = some broker → through (some name) = act broker
  unknown : ∀ name, r.brokers.get? name = none → ∀ world,
    through (some name) world = (world, .failed (Error.unknown name).message)
  default : ∀ name broker, r.default = some name → r.brokers.get? name = some broker →
    through none = act broker
  empty : r.default = none → ∀ world,
    through none world = (world, .failed Error.noBrokers.message)

theorem find_of_get? {name : Option String} {key : String} {broker : β}
    (hname : name.or r.default = some key) (h : r.brokers.get? key = some broker) :
    r.find name = .ok (key, broker) := by
  simp [find, hname, h]

theorem find_none_eq_noBrokers : r.find none = .error .noBrokers ↔ r.default = none := by
  cases h : r.default with
  | none => simp [find, h]
  | some name => cases hget : r.brokers.get? name <;> simp [find, h, hget]

theorem routes_throughOne (r : Roster β) (act : β → ω → ω × PublishResult) :
    Routes r act (r.throughOne act) where
  named name broker h := by
    funext world
    simp [throughOne, find_of_get? (Option.some_or ..) h]
  unknown name h world := by simp [throughOne, find, h]
  default name broker hdefault h := by
    funext world
    simp [throughOne, find_of_get? (Option.none_or.trans hdefault) h]
  empty h world := by simp [throughOne, find_none_eq_noBrokers.mpr h]

/-- The world when these brokers have had their turns. -/
def passed (act : β → ω → ω × α) (entries : Entries β) (world : ω) : ω :=
  entries.foldl (fun world entry => (act entry.2 world).1) world

/-- What each of them answers at its turn. -/
def answers (act : β → ω → ω × α) : Entries β → ω → Entries α
  | [], _ => []
  | (name, broker) :: rest, world =>
    (name, (act broker world).2) :: answers act rest (act broker world).1

theorem keys_answers (act : β → ω → ω × α) (entries : Entries β) (world : ω) :
    (answers act entries world).keys = entries.keys := by
  induction entries generalizing world with
  | nil => rfl
  | cons entry rest ih => exact congrArg (entry.1 :: ·) (ih _)

theorem answers_append (act : β → ω → ω × α) (front back : Entries β) (world : ω) :
    answers act (front ++ back) world =
      answers act front world ++ answers act back (passed act front world) := by
  induction front generalizing world with
  | nil => rfl
  | cons entry rest ih => exact congrArg (_ :: ·) (ih _)

theorem ascending_answers (act : β → ω → ω × α) {entries : Entries β} (h : entries.Ascending)
    (world : ω) : (answers act entries world).Ascending := by
  have hkeys : (answers act entries world).keys.Pairwise (· < ·) := by
    rw [keys_answers]
    exact List.pairwise_map.mpr h
  exact List.pairwise_map.mp hkeys

theorem foldl_turn (act : β → ω → ω × α) (entries : Entries β) (world : ω) (noted : SortedMap α) :
    entries.foldl (turn act) (world, noted) = (passed act entries world,
      (answers act entries world).foldl (fun m e => m.insert e.1 e.2) noted) := by
  induction entries generalizing world noted with
  | nil => rfl
  | cons entry rest ih => exact ih _ _

theorem throughAll_eq (r : Roster β) (act : β → ω → ω × α) (world : ω) :
    r.throughAll act world =
      (passed act r.brokers.entries world, .ofList (answers act r.brokers.entries world)) :=
  foldl_turn act _ world .empty

theorem entries_throughAll (r : Roster β) (act : β → ω → ω × α) (world : ω) :
    (r.throughAll act world).2.entries = answers act r.brokers.entries world := by
  rw [throughAll_eq, SortedMap.entries_ofList,
    Entries.ofList_of_ascending (ascending_answers act r.brokers.ascending world)]

/-- The brokers do something in order of their names, and of what each answers something is noted
under its name. If those before it do not change what a broker answers, it is as if it was alone. -/
structure Visits (r : Roster β) (act : β → ω → ω × α) (note : α → γ)
    (all : ω → ω × SortedMap γ) : Prop where
  world : ∀ world, (all world).1 = passed act r.brokers.entries world
  keys : ∀ world, (all world).2.keys = r.brokers.keys
  own : ∀ world front name broker back, r.brokers.entries = front ++ (name, broker) :: back →
    (all world).2.get? name = some (note (act broker (passed act front world)).2)
  apart : ∀ world front name broker back, r.brokers.entries = front ++ (name, broker) :: back →
    (∀ other ∈ front, ∀ world, (act broker (act other.2 world).1).2 = (act broker world).2) →
    (all world).2.get? name = some (note (act broker world).2)

theorem answer_passed {act : β → ω → ω × α} {broker : β} {front : Entries β}
    (h : ∀ other ∈ front, ∀ world, (act broker (act other.2 world).1).2 = (act broker world).2)
    (world : ω) : (act broker (passed act front world)).2 = (act broker world).2 := by
  induction front generalizing world with
  | nil => rfl
  | cons other rest ih =>
    have hrest := ih fun another hanother => h another (List.mem_cons_of_mem other hanother)
    exact (hrest _).trans (h other List.mem_cons_self world)

theorem visits_throughAll (r : Roster β) (act : β → ω → ω × α) (note : α → γ) :
    Visits r act note fun world =>
      let (world, answers) := r.throughAll act world
      (world, answers.mapValues fun _ answer => note answer) := by
  have hown : ∀ world front name broker back,
      r.brokers.entries = front ++ (name, broker) :: back →
      ((r.throughAll act world).2.mapValues fun _ answer => note answer).get? name =
        some (note (act broker (passed act front world)).2) := by
    intro world front name broker back hsplit
    have hmem : (name, (act broker (passed act front world)).2) ∈
        (r.throughAll act world).2.entries := by
      rw [entries_throughAll, hsplit, answers_append]
      exact List.mem_append_right _ List.mem_cons_self
    have hget := Entries.find?_of_mem (r.throughAll act world).2.ascending hmem
    rw [SortedMap.get?_mapValues, SortedMap.get?, hget]
    rfl
  refine ⟨fun world => ?_, fun world => ?_, hown,
    fun world front name broker back hsplit hapart => ?_⟩
  · exact congrArg Prod.fst (r.throughAll_eq act world)
  · have hkeys := keys_answers act r.brokers.entries world
    rw [← entries_throughAll] at hkeys
    refine Eq.trans ?_ hkeys
    simp [SortedMap.keys, SortedMap.mapValues, Entries.keys]
  · rw [← answer_passed hapart world]
    exact hown world front name broker back hsplit

variable [Transport β ω]

theorem visits_connectAll (r : Roster β) :
    Visits r (Transport.connect (ω := ω)) Except.toBool r.connectAll :=
  visits_throughAll r _ _

theorem visits_publishToAll (r : Roster β) (message : Message) :
    Visits r (Transport.publish (ω := ω) · message) id (r.publishToAll message) := by
  have hvisits := visits_throughAll r (Transport.publish (ω := ω) · message) id
  simp only [id, SortedMap.mapValues_id] at hvisits
  exact hvisits

/-- Calls that register brokers, refused ones among them, leave a default just if they leave any
broker: the one of the last call that was to make it the default and was not refused, or else the
first one. A name that is taken is refused and changes nothing. So whoever publishes without a name
reaches the default if there is any broker, and no broker is unknown to it. What is published
through one broker is published by it alone, and what is done through all has an answer of each. -/
theorem routes_exactly (calls : List (Call β)) :
    let r := after calls
    (∀ name, r.brokers.get? name =
      ((granted {} calls).find? (·.name = name)).map (·.broker)) ∧
    r.default = chosen (granted {} calls) ∧
    (r.default = none ↔ r.brokers.isEmpty = true) ∧
    (∀ name, r.default = some name → ∃ broker, r.brokers.get? name = some broker) ∧
    (∀ (call : Call β) old, r.brokers.get? call.name = some old →
      call.answer r = .error (.duplicate call.name) ∧ call.apply r = r) ∧
    (∀ call : Call β, r.brokers.get? call.name = none →
      call.answer r = .ok (call.apply r) ∧
        (call.apply r).brokers.get? call.name = some call.broker) ∧
    (r.find none = .error .noBrokers ↔ r.brokers.isEmpty = true) ∧
    (∀ name, r.find none ≠ .error (.unknown name)) ∧
    (∀ message, Routes r (Transport.publish (ω := ω) · message) (r.publish · message)) ∧
    (∀ event topic qos retain,
      Routes r (Transport.publishEvent (ω := ω) · event topic qos retain)
        (r.publishEvent · event topic qos retain)) ∧
    Visits r (Transport.connect (ω := ω)) Except.toBool r.connectAll ∧
    ∀ message, Visits r (Transport.publish (ω := ω) · message) id (r.publishToAll message) := by
  intro r
  have hmade : Made (granted {} calls) r := made_after calls
  have hempty : r.default = none ↔ r.brokers.isEmpty = true := by
    rw [hmade.default, chosen_eq_none, hmade.isEmpty_iff]
  refine ⟨hmade.brokers, hmade.default, hempty, fun _ => hmade.exists_default, ?_, ?_,
    find_none_eq_noBrokers.trans hempty, ?_, fun message => routes_throughOne r _,
    fun event topic qos retain => routes_throughOne r _, visits_connectAll r,
    visits_publishToAll r⟩
  · intro call old hold
    have hrefused := answer_of_taken hold
    exact ⟨hrefused, by rw [Call.apply, hrefused]⟩
  · intro call hfree
    have hgranted := answer_of_free hfree
    rw [Call.apply, hgranted]
    exact ⟨rfl, by simp⟩
  · intro name hunknown
    cases hdefault : r.default with
    | none =>
      rw [find_none_eq_noBrokers.mpr hdefault] at hunknown
      cases hunknown
    | some default =>
      obtain ⟨broker, hget⟩ := hmade.exists_default hdefault
      rw [find_of_get? (Option.none_or.trans hdefault) hget] at hunknown
      cases hunknown

theorem visit_apart {slot other : Slot} (h : other.name ≠ slot.name) (m : Memories)
    (act : Memory → Memory × α) (absent absent' : α) :
    ((m.visit other act absent').1.visit slot act absent).2 = (m.visit slot act absent).2 := by
  cases hother : m.brokers.get? other.name with
  | none => simp [Memories.visit, hother]
  | some broker =>
    simp only [Memories.visit, hother, SortedMap.get?_insert, if_neg h]
    cases m.brokers.get? slot.name <;> rfl

/-- A default that was put over the first broker, a name that is taken, and a broker that cannot be
connected before one that can. -/
theorem routes_exactly_failing :
    let calls : List (Call Slot) :=
      [.register "b" ⟨"b"⟩, .registerDefault "b" ⟨"c"⟩, .registerDefault "a" ⟨"a"⟩]
    let r := after calls
    let world : Memories :=
      { brokers := .ofList [("a", { failing := true }), ("b", { failing := false })] }
    r.default = some "a" ∧ r.brokers.get? "b" = some ⟨"b"⟩ ∧
      (Call.registerDefault "b" ⟨"c"⟩).answer r = .error (.duplicate "b") ∧
      (∀ message, r.publish none message world =
        Transport.publish (⟨"a"⟩ : Slot) message world) ∧
      (r.connectAll world).2.keys = ["a", "b"] ∧
      (r.connectAll world).2.get? "a" = some false ∧
      (r.connectAll world).2.get? "b" = some true := by
  intro calls r world
  obtain ⟨hbrokers, hdefault, -, -, htaken, -, -, -, hpublish, -, hconnect, -⟩ :=
    routes_exactly (ω := Memories) calls
  have hb : r.brokers.get? "b" = some ⟨"b"⟩ := (hbrokers "b").trans rfl
  have hentries : r.brokers.entries = [("a", ⟨"a"⟩), ("b", ⟨"b"⟩)] := rfl
  refine ⟨hdefault.trans rfl, hb, (htaken (.registerDefault "b" ⟨"c"⟩) _ hb).1, fun message => ?_,
    (hconnect.keys world).trans rfl, (hconnect.own world [] _ _ _ hentries).trans rfl,
    (hconnect.apart world [_] _ _ [] hentries fun other hother m => ?_).trans rfl⟩
  · exact congrFun ((hpublish message).default "a" ⟨"a"⟩ (hdefault.trans rfl) rfl) world
  · rw [List.mem_singleton.mp hother]
    exact visit_apart (by decide) m ..

end EventBus.Broker.Roster
