import ParameterTemplates.Resolution.Error
import ParameterTemplates.Value.Scalar

/-! Results that carry the records written on the way to them. -/
namespace ParameterTemplates

inductive Level where
  | warn
  | debug
  | trace
  deriving DecidableEq, Repr

def Level.name : Level → Text
  | .warn => "WARN".toList
  | .debug => "DEBUG".toList
  | .trace => "TRACE".toList

/-- What is worth a record during resolution. -/
inductive Record where
  | classified (expression : Text) (kind : Template.ShapeKind)
  | severalTypes (name : Text) (legal : List ValueType) (chosen : ValueType)
  | comparedLiteral (name rhs : Text) (left right : Scalar)
  | comparedParameters (leftName rightName : Text) (left right : Scalar)
  | tookTernaryBranch (name branch : Text)
  | tookLiteralTernaryBranch (name branch : Text)
  | resolved (kind : Template.ShapeKind) (expression : Text) (value : Scalar)
  | failed (kind : Template.ShapeKind) (expression : Text) (error : ResolveError)
  deriving DecidableEq

namespace Record
open Template (referTo)

def level : Record → Level
  | .severalTypes _ _ _ => .warn
  | .resolved _ _ _ => .debug
  | .failed _ _ _ => .debug
  | _ => .trace

def message : Record → Text
  | .classified expression kind =>
    "classified '".toList ++ expression ++ "' as ".toList ++ kind.name
  | .severalTypes name legal chosen =>
    referTo name ++ " has several legal types (".toList ++ ValueType.describe legal ++
      "); comparing as ".toList ++ chosen.name
  | .comparedLiteral name rhs left right =>
    referTo name ++ " == ".toList ++ rhs ++ ": ".toList ++ left.debug ++ " vs ".toList ++ right.debug
  | .comparedParameters leftName rightName left right =>
    referTo leftName ++ " == ".toList ++ referTo rightName ++ ": ".toList ++ left.debug ++
      " vs ".toList ++ right.debug
  | .tookTernaryBranch name branch =>
    "ternary on ".toList ++ referTo name ++ " took '".toList ++ branch ++ ['\'']
  | .tookLiteralTernaryBranch name branch =>
    "literal ternary on ".toList ++ referTo name ++ " took '".toList ++ branch ++ ['\'']
  | .resolved kind expression value =>
    "resolved ".toList ++ kind.name ++ " '".toList ++ expression ++ "' to ".toList ++ value.debug
  | .failed kind expression error =>
    "failed to resolve ".toList ++ kind.name ++ " '".toList ++ expression ++ "': ".toList ++
      error.message

end Record

/-- An outcome and the records of the work done for it, in order. A failure keeps the records
written before it. -/
structure Traced (α : Type) where
  outcome : Except ResolveError α
  records : List Record

namespace Traced

variable {α β : Type}

def bind (x : Traced α) (f : α → Traced β) : Traced β :=
  match x.outcome with
  | .ok a => ⟨(f a).outcome, x.records ++ (f a).records⟩
  | .error e => ⟨.error e, x.records⟩

instance : Monad Traced where
  pure a := ⟨.ok a, []⟩
  bind := bind

@[simp] theorem outcome_pure (a : α) : (pure a : Traced α).outcome = .ok a := rfl

@[simp] theorem records_pure (a : α) : (pure a : Traced α).records = [] := rfl

theorem bind_of_ok {x : Traced α} {a : α} (h : x.outcome = .ok a) (f : α → Traced β) :
    x >>= f = ⟨(f a).outcome, x.records ++ (f a).records⟩ := by
  change x.bind f = _
  rw [bind, h]

theorem bind_of_error {x : Traced α} {e : ResolveError} (h : x.outcome = .error e)
    (f : α → Traced β) : x >>= f = ⟨.error e, x.records⟩ := by
  change x.bind f = _
  rw [bind, h]

def ofExcept (r : Except ResolveError α) : Traced α := ⟨r, []⟩

def fail (e : ResolveError) : Traced α := ⟨.error e, []⟩

/-- Writes one record. -/
def note (r : Record) : Traced Unit := ⟨.ok (), [r]⟩

end Traced
end ParameterTemplates
