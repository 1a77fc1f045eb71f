import BrokerGuard.Json.Basic
/-!
# Values of other types

`encode` writes texts, numbers, lists and options as JSON values, and an outcome as its result or its error.
-/
namespace BrokerGuard
namespace Json

/-- A type whose values have a JSON form. -/
class Encode (α : Type) where
  encode : α → Json

export Encode (encode)

variable {ε α : Type}

instance : Encode Json := ⟨id⟩
instance : Encode String := ⟨string⟩
instance : Encode Bool := ⟨bool⟩
instance : Encode Int := ⟨fun n => number (.integer n)⟩
instance : Encode Nat := ⟨fun n => number (.integer n)⟩
instance : Encode UInt8 := ⟨fun n => number (.integer n.toNat)⟩
instance : Encode UInt32 := ⟨fun n => number (.integer n.toNat)⟩
instance : Encode UInt64 := ⟨fun n => number (.integer n.toNat)⟩
instance : Encode Int32 := ⟨fun n => number (.integer n.toInt)⟩
instance : Encode Int64 := ⟨fun n => number (.integer n.toInt)⟩
instance [Encode α] : Encode (List α) := ⟨fun xs => array (xs.map encode)⟩
instance [Encode α] : Encode (Option α) := ⟨fun
  | some x => encode x
  | none => null⟩
instance [Encode ε] [Encode α] : Encode (Except ε α) := ⟨fun
  | .ok x => encode x
  | .error e => encode e⟩

instance [Encode α] : CoeHead α Json := ⟨encode⟩

end Json
end BrokerGuard
