import VaultModels.Schema.Query

/-!
# Sessions

A session is what a run does towards the outside, step by step: it asks the schema backend, tells
the host, and ends with a value or an error. It is a tree with one branch per possible answer, so
which queries are made, in which order and depending on what, can be read off it. `run` follows one
path through the tree with the answers of a given backend.
-/
namespace VaultModels

inductive Channel where
  | info
  | warning
  | verbose
  deriving DecidableEq, Repr

/-- One line to the user. -/
structure Message where
  channel : Channel
  text : String
  deriving DecidableEq, Repr

inductive Session (ε α : Type) where
  | done (value : α)
  | fail (error : ε)
  | ask (query : Schema.Query) (next : Except Schema.Error query.Answer → Session ε α)
  | tell (message : Message) (rest : Session ε α)

namespace Session

variable {ε ε' α β σ : Type}

def bind : Session ε α → (α → Session ε β) → Session ε β
  | .done value, f => f value
  | .fail error, _ => .fail error
  | .ask query next, f => .ask query fun answer => bind (next answer) f
  | .tell message rest, f => .tell message (bind rest f)

instance : Monad (Session ε) where
  pure := .done
  bind := bind

/-- The same session with its error renamed. -/
def mapError (f : ε → ε') : Session ε α → Session ε' α
  | .done value => .done value
  | .fail error => .fail (f error)
  | .ask query next => .ask query fun answer => mapError f (next answer)
  | .tell message rest => .tell message (mapError f rest)

/-- The same session with its error as a value. -/
def outcome : Session ε α → Session ε' (Except ε α)
  | .done value => .done (.ok value)
  | .fail error => .done (.error error)
  | .ask query next => .ask query fun answer => outcome (next answer)
  | .tell message rest => .tell message (outcome rest)

/-- Asks, and ends the session with the converted error if there is no answer. -/
def fetch (convert : Schema.Error → ε) (query : Schema.Query) : Session ε query.Answer :=
  .ask query fun
    | .ok answer => .done answer
    | .error error => .fail (convert error)

/-- Asks, and takes any error as no answer. -/
def tryFetch (query : Schema.Query) : Session ε (Option query.Answer) :=
  .ask query fun
    | .ok answer => .done (some answer)
    | .error _ => .done none

def ofExcept : Except ε α → Session ε α
  | .ok value => .done value
  | .error error => .fail error

def warn (text : String) : Session ε Unit := .tell ⟨.warning, text⟩ (.done ())

def verbose (text : String) : Session ε Unit := .tell ⟨.verbose, text⟩ (.done ())

end Session

/-- What a finished run leaves: its result, what the host was told, and the backend's last state. -/
structure Finished (ε α σ : Type) where
  result : Except ε α
  messages : List Message
  state : σ

def Session.run {ε α σ : Type} (backend : Schema.Backend σ) :
    Session ε α → σ → Finished ε α σ
  | .done value, s => ⟨.ok value, [], s⟩
  | .fail error, s => ⟨.error error, [], s⟩
  | .ask query next, s =>
    let (answer, s') := backend query s
    run backend (next answer) s'
  | .tell message rest, s =>
    let finished := run backend rest s
    { finished with messages := message :: finished.messages }

end VaultModels
