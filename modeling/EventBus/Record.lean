import EventBus.Entries
import EventBus.Json.Basic

namespace EventBus.Record

variable {σ : Type u} {α : Type v}

def required (read : σ → Option α) (slot : Option σ) : Option α := slot.bind read

def withDefault (default : α) (read : σ → Option α) : Option σ → Option α
  | none => some default
  | some value => read value

/-- How the values of a format are read as those of a field. -/
class Format (σ : Type u) where
  text? : σ → Option String
  bool? : σ → Option Bool
  natural? (limit : Nat) : σ → Option Nat
  double? : σ → Option Double
  texts? : σ → Option (List String)
  map? : σ → Option (SortedMap Json)
  isNull : σ → Bool

def optionalText [Format σ] : Option σ → Option (Option String) :=
  withDefault none fun value =>
    if Format.isNull value then some none else (Format.text? value).map some

end EventBus.Record
