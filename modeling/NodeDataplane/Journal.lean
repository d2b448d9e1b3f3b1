/-!
# The journal

What happens on the way is noted in a journal of entries, in order. `Logged` is a result together
with the entries that were noted while it came about: the result of a sequence of steps never
depends on what they note.
-/

namespace NodeDataplane

inductive Level where
  | debug
  | info
  | warning
  | error
  deriving DecidableEq, Repr

def Level.rank : Level → Nat
  | debug => 0
  | info => 1
  | warning => 2
  | error => 3

def Level.name : Level → String
  | debug => "DEBUG"
  | info => "INFO"
  | warning => "WARNING"
  | error => "ERROR"

inductive Source where
  | fields
  | ledger
  | processor
  | registry
  | watcher
  | agent
  deriving DecidableEq, Repr

def Source.name : Source → String
  | fields => "node_translator.fields"
  | ledger => "node_translator.tracker"
  | processor => "node_translator.processor"
  | registry => "node_syncer.registry"
  | watcher => "node_agent.watchers.file"
  | agent => "node_agent.main"

inductive FailureClass where
  /-- A value of the right type that is not allowed. -/
  | invalidValue
  | wrongType
  | unknownKey
  /-- A place in a text that is behind its end. -/
  | indexOutOfRange
  /-- A value without the operation that is asked of it. -/
  | missingAttribute
  | overflow
  /-- A component that fails on its own account, or what goes deeper than there is room for. -/
  | runtime
  | keyMismatch
  | valueMismatch
  | fileNotFound
  | isDirectory
  | notDirectory
  /-- A path or a name of more bytes than there may be. -/
  | nameTooLong
  | unknownOption
  | unknownGroup
  | badOptionValue
  | malformedYaml
  | malformedJson
  | undecodableText
  deriving DecidableEq, Repr

/-- An entry of the journal, with the class of the failure it reports, if any. -/
structure Entry where
  level : Level
  source : Source
  message : String
  failure : Option FailureClass := none
  deriving DecidableEq, Repr

structure Logged (α : Type) where
  value : α
  log : List Entry
  deriving DecidableEq, Repr

namespace Logged

instance : Monad Logged where
  pure a := ⟨a, []⟩
  bind x f := ⟨(f x.value).value, x.log ++ (f x.value).log⟩

def note (level : Level) (source : Source) (message : String) : Logged Unit :=
  ⟨(), [⟨level, source, message, none⟩]⟩

@[simp] theorem value_pure {α : Type} (a : α) : (pure a : Logged α).value = a := rfl

@[simp] theorem value_bind {α β : Type} (x : Logged α) (f : α → Logged β) :
    (x >>= f).value = (f x.value).value := rfl

@[simp] theorem value_map {α β : Type} (g : α → β) (x : Logged α) :
    (g <$> x).value = g x.value := rfl

@[simp] theorem log_bind {α β : Type} (x : Logged α) (f : α → Logged β) :
    (x >>= f).log = x.log ++ (f x.value).log := rfl

instance : LawfulMonad Logged :=
  LawfulMonad.mk' Logged
    (fun x => by cases x; simp [Functor.map])
    (fun a f => by simp [bind, pure])
    (fun x f g => by simp [bind])

/-- A step through a list gives, as values, the values of the single steps. -/
@[simp] theorem value_mapM {α β : Type} (f : α → Logged β) (xs : List α) :
    (xs.mapM f).value = xs.map fun x => (f x).value := by
  induction xs with
  | nil => rfl
  | cons x xs ih => simp [List.mapM_cons, ih]

end Logged

def atLeast (threshold : Level) (log : List Entry) : List Entry :=
  log.filter fun entry => threshold.rank ≤ entry.level.rank

end NodeDataplane
