import VaultModels.Proofs.Session.Paths

/-!
# Sessions that only ask

`Ends` speaks about the tree of a session: it tells the host nothing, no path through it fails, and
every value that it can end with satisfies `post`. So it ends with such a value against every backend,
in every state. What is asked on the way is not the subject here.
-/
namespace VaultModels.Session

open Schema

variable {ε ε' α β σ : Type} {post : α → Prop} {session : Session ε α}

/-- Every path through the session is made of queries and ends with a value that satisfies `post`. -/
inductive Ends (post : α → Prop) : Session ε α → Prop
  | done {value : α} (holds : post value) : Ends post (.done value)
  | ask (query : Query) {next : Except Error query.Answer → Session ε α}
      (each : ∀ answer, Ends post (next answer)) : Ends post (.ask query next)

theorem Ends.bind {after : β → Prop} {next : α → Session ε β} (first : session.Ends post)
    (second : ∀ value, post value → (next value).Ends after) : (session >>= next).Ends after := by
  induction first with
  | done holds => exact second _ holds
  | ask query _ ih => exact .ask query ih

theorem ends_tryFetch (query : Query) :
    (tryFetch query : Session ε (Option query.Answer)).Ends fun _ => True := by
  refine .ask query fun answer => ?_
  cases answer with
  | error error => exact .done trivial
  | ok value => exact .done trivial

/-- An error that is taken as a value does not end the session. -/
theorem ends_outcome (silent : session.Tells fun _ => False) :
    (session.outcome : Session ε' (Except ε α)).Ends fun _ => True := by
  induction silent with
  | done _ => exact .done trivial
  | fail error => exact .done trivial
  | ask query _ ih => exact .ask query ih
  | tell fits _ _ => exact fits.elim

theorem Ends.tells {allowed : Message → Prop} (ends : session.Ends post) :
    session.Tells allowed := by
  induction ends with
  | done _ => exact .done trivial
  | ask query _ ih => exact .ask query ih

theorem Ends.run (ends : session.Ends post) (backend : Backend σ) (state : σ) :
    ∃ value, (session.run backend state).result = .ok value ∧ post value := by
  induction ends generalizing state with
  | done holds => exact ⟨_, rfl, holds⟩
  | ask query _ ih => exact ih _ _

end VaultModels.Session
