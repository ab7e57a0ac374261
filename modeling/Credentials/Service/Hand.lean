import Credentials.Service.Operation
import Mathlib.Data.Set.Basic

/-!
# Tokens in hand

A party that has some tokens trades them in for others, by exchanging companions
and by requesting keys, and may use whatever it gets from then on. Between its
calls others do what they like to the backends, and these need not behave in the
same way at every call.
-/

namespace Credentials

variable {σ : Type}

/-- The texts of the tokens that an answer hands out. -/
def Answer.tokens : Answer → List String
  | .token t => t.accessToken :: t.refreshToken.toList
  | _ => []

/-- Whether a policy agent says within a time that a relationship holds. -/
def Agent.Affirms (agent : Agent σ) (limit : Duration) (s : σ) (r : Relationship) : Prop :=
  ∃ t, agent.evaluate r limit s = (.value true, t)

/-- The state of the backends, and the tokens that a party has in hand. -/
structure Hand (σ : Type) where
  state : σ
  tokens : Set String

/-- A step of a run in which a party trades in tokens. -/
inductive Move (σ : Type) where
  /-- A call of the party, with the backends as they behave this time. -/
  | ask (b : Backend σ) (clock : Clock) (op : Operation)
  /-- Whatever others do to the backends. -/
  | others (change : σ → σ)

/-- The backends of a call. -/
def Move.backend? : Move σ → Option (Backend σ)
  | .ask b _ _ => some b
  | .others _ => none

/-- Whether a move is open to the party: it exchanges a token in hand, or requests any key but
that of a login with one. Others may always move. -/
def Hand.Allows (h : Hand σ) : Move σ → Prop
  | .ask _ _ (.refresh token) => token ∈ h.tokens
  | .ask _ _ (.issue token key) => token ∈ h.tokens ∧ key.keyType ≠ .access
  | .ask _ _ _ => False
  | .others _ => True

namespace Service

/-- The answer to a move, if it is a call that succeeds, and what the party has in hand then. -/
def move (svc : Service) (h : Hand σ) : Move σ → Option Answer × Hand σ
  | .ask b clock op =>
    match svc.perform b clock op h.state with
    | .ok a state => (some a, { state, tokens := h.tokens ∪ { token | token ∈ a.tokens } })
    | .error _ state => (none, { h with state })
  | .others change => (none, { h with state := change h.state })

/-- The answers to moves in their order. -/
def play (svc : Service) (h : Hand σ) : List (Move σ) → List Answer
  | [] => []
  | m :: moves => (svc.move h m).1.toList ++ svc.play (svc.move h m).2 moves

/-- Whether all moves are open to the party when it makes them. -/
def AllAllowed (svc : Service) (h : Hand σ) : List (Move σ) → Prop
  | [] => True
  | m :: moves => h.Allows m ∧ svc.AllAllowed (svc.move h m).2 moves

/-- Whether the backends of every call of a run and their state then meet a condition. -/
def Throughout (svc : Service) (condition : Backend σ → σ → Prop) (h : Hand σ) :
    List (Move σ) → Prop
  | [] => True
  | m :: moves => (∀ b ∈ m.backend?, condition b h.state) ∧
      svc.Throughout condition (svc.move h m).2 moves

/-- The tokens that moves bring in. -/
def gains (svc : Service) (h : Hand σ) (moves : List (Move σ)) : Set String :=
  { token | ∃ a ∈ svc.play h moves, token ∈ a.tokens }

end Service

end Credentials
