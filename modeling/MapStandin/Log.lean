/-! # Narrated computations

A computation that tells what it does while it goes: the events are part of its answer, also when it
fails. -/

namespace MapStandin

inductive Level
  | trace
  | debug
  | info
  | warn
  | error
  deriving DecidableEq, Repr

def Level.name : Level → String
  | .trace => "TRACE"
  | .debug => "DEBUG"
  | .info => "INFO"
  | .warn => "WARN"
  | .error => "ERROR"

structure Event where
  level : Level
  text : String
  deriving DecidableEq, Repr

def Event.line (e : Event) : String :=
  e.level.name ++ " " ++ e.text

/-- The result of a computation and the events it told, in order. -/
structure Narrated (ε α : Type) where
  result : Except ε α
  events : List Event

namespace Narrated

/-- Goes on after a success; a failure ends the computation. -/
def andThen (x : Narrated ε α) (f : α → Narrated ε β) : Narrated ε β :=
  match x.result with
  | .error e => ⟨.error e, x.events⟩
  | .ok a => ⟨(f a).result, x.events ++ (f a).events⟩

instance : Monad (Narrated ε) where
  pure a := ⟨.ok a, []⟩
  bind := andThen

def of (r : Except ε α) : Narrated ε α := ⟨r, []⟩

def say (level : Level) (text : String) : Narrated ε Unit := ⟨.ok (), [⟨level, text⟩]⟩

def sayAll (level : Level) (texts : List String) : Narrated ε Unit :=
  ⟨.ok (), texts.map fun t => ⟨level, t⟩⟩

def fail (e : ε) : Narrated ε α := ⟨.error e, []⟩

def mapError (f : ε → δ) (x : Narrated ε α) : Narrated δ α := ⟨x.result.mapError f, x.events⟩

/-- A computation that hands on its failure as a value. -/
def settled (x : Narrated ε α) : Narrated δ (Except ε α) := ⟨.ok x.result, x.events⟩

instance : MonadLift (Except ε) (Narrated ε) where
  monadLift := of

/-! ## The result by itself -/

@[simp]
theorem result_pure (a : α) : (pure a : Narrated ε α).result = .ok a := rfl

@[simp]
theorem result_bind (x : Narrated ε α) (f : α → Narrated ε β) :
    (x >>= f).result = x.result.bind fun a => (f a).result := by
  show (andThen x f).result = _
  unfold andThen
  cases h : x.result <;> simp [Except.bind]

@[simp]
theorem result_of (r : Except ε α) : (of r).result = r := rfl

@[simp]
theorem result_say (level : Level) (text : String) :
    (say level text : Narrated ε Unit).result = .ok () := rfl

@[simp]
theorem result_sayAll (level : Level) (texts : List String) :
    (sayAll level texts : Narrated ε Unit).result = .ok () := rfl

@[simp]
theorem result_fail (e : ε) : (fail e : Narrated ε α).result = .error e := rfl

@[simp]
theorem result_mapError (f : ε → δ) (x : Narrated ε α) :
    (x.mapError f).result = x.result.mapError f := rfl

@[simp]
theorem result_settled (x : Narrated ε α) :
    (x.settled : Narrated δ (Except ε α)).result = .ok x.result := rfl

end Narrated

end MapStandin
