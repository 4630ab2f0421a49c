import RestContract.Error

/-!
# Runs with notes

A computation that can fail and that leaves notes on its way. The notes up to the failure are kept,
so they are part of the value of a run and not of its result. Taking the result of a run is the same
as running without notes: it turns every step into a step of computations that can only fail.
-/

namespace RestContract

/-- The part of the program that a note comes from. -/
inductive Origin where
  | reading
  | schemas
  | operations
  | context
  | compiler
  | contract
  | emission
  | formatter
  deriving DecidableEq, Repr

/-- The name under which the notes of a part are recorded. -/
def Origin.name : Origin → String
  | .reading => "tsrestgen.parser.loader"
  | .schemas => "tsrestgen.parser.schemas"
  | .operations => "tsrestgen.parser.extractor"
  | .context => "tsrestgen.context"
  | .compiler => "tsrestgen.generator.compiler"
  | .contract => "tsrestgen.generator.contract"
  | .emission => "tsrestgen.generator.emitter"
  | .formatter => "tsrestgen.generator.formatter"

/-- Something worth knowing when a run is looked into. -/
structure Note where
  origin : Origin
  message : String
  deriving DecidableEq, Repr

/-- A computation with its notes, the first one first. -/
structure Traced (α : Type) where
  notes : List Note
  result : Except Error α

namespace Traced

variable {α β : Type}

/-- The computation that only returns a value. -/
def pure (a : α) : Traced α := ⟨[], .ok a⟩

/-- One computation after another; what follows a failure leaves no notes. -/
def bind (x : Traced α) (f : α → Traced β) : Traced β :=
  match x.result with
  | .ok a =>
    let y := f a
    ⟨x.notes ++ y.notes, y.result⟩
  | .error e => ⟨x.notes, .error e⟩

instance : Monad Traced where
  pure := Traced.pure
  bind := Traced.bind

/-- A computation without notes. -/
def lift (x : Except Error α) : Traced α := ⟨[], x⟩

instance : MonadLift (Except Error) Traced := ⟨Traced.lift⟩

/-- The computation that fails. -/
def fail (e : Error) : Traced α := ⟨[], .error e⟩

/-- The computation that leaves a note. -/
def note (origin : Origin) (message : String) : Traced Unit := ⟨[⟨origin, message⟩], .ok ()⟩

@[simp] theorem result_pure (a : α) : (Pure.pure a : Traced α).result = .ok a := rfl

@[simp] theorem result_fail (e : Error) : (fail e : Traced α).result = .error e := rfl

@[simp] theorem result_lift (x : Except Error α) : (lift x).result = x := rfl

@[simp] theorem result_note (origin : Origin) (message : String) :
    (note origin message).result = .ok () := rfl

@[simp] theorem result_bind (x : Traced α) (f : α → Traced β) :
    (x >>= f).result = x.result >>= fun a => (f a).result := by
  show (Traced.bind x f).result = _
  unfold Traced.bind
  cases x.result <;> rfl

end Traced
end RestContract
