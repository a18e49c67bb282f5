import EventBus.Json.Basic

namespace EventBus

inductive Qos where
  | atMostOnce
  | atLeastOnce
  | exactlyOnce
  deriving DecidableEq, Repr, Inhabited

namespace Qos

def standard : Qos := .atLeastOnce

def level : Qos → Nat
  | .atMostOnce => 0
  | .atLeastOnce => 1
  | .exactlyOnce => 2

def ofLevel? : Nat → Option Qos
  | 0 => some .atMostOnce
  | 1 => some .atLeastOnce
  | 2 => some .exactlyOnce
  | _ => none

def name : Qos → String
  | .atMostOnce => "AtMostOnce"
  | .atLeastOnce => "AtLeastOnce"
  | .exactlyOnce => "ExactlyOnce"

def invalidLevelMessage (level : Nat) : String :=
  s!"Invalid QoS level {level}: expected 0, 1 or 2"

def toJson (qos : Qos) : Json :=
  .ofInteger ⟨qos.level, by omega, by cases qos <;> decide⟩

end Qos
end EventBus
