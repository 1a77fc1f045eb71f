import BrokerGuard.Json.Basic
/-!
# Reading values of other types

`decode?` reads a JSON value as a text, a number, a list or an option.  An integer type takes integers in its range only,
never fractions, and an option reads null as nothing.
-/
namespace BrokerGuard
namespace Json

/-- A type that JSON values can be read as. -/
class Decode (α : Type) where
  decode? : Json → Option α

export Decode (decode?)

variable {α : Type}

instance : Decode String := ⟨string?⟩
instance : Decode Bool := ⟨bool?⟩
instance : Decode UInt8 := ⟨fun j => (j.integer? 0 (Int.ofNat (UInt8.size - 1))).map fun n => UInt8.ofNat n.toNat⟩
instance : Decode UInt32 := ⟨fun j => (j.integer? 0 (Int.ofNat (UInt32.size - 1))).map fun n => UInt32.ofNat n.toNat⟩
instance : Decode UInt64 := ⟨fun j => (j.integer? 0 (Int.ofNat (UInt64.size - 1))).map fun n => UInt64.ofNat n.toNat⟩
instance : Decode Int32 := ⟨fun j => (j.integer? Int32.minValue.toInt Int32.maxValue.toInt).map Int32.ofInt⟩
instance : Decode Int64 := ⟨fun j => (j.integer? Int64.minValue.toInt Int64.maxValue.toInt).map Int64.ofInt⟩
instance [Decode α] : Decode (List α) := ⟨fun
  | array items => items.mapM decode?
  | _ => none⟩
instance [Decode α] : Decode (Option α) := ⟨fun
  | null => some none
  | value => (decode? value).map some⟩

end Json
end BrokerGuard
