import Credentials.Policy.Agent
import Credentials.Policy.Relations
import Credentials.Store.KeyStore
import Credentials.Store.Vault

/-!
# Backends

The key store and the policy agent of a service, as one: in general, and both in
memory.
-/

namespace Credentials

/-- The backends of a service, with state `σ` between them. -/
structure Backend (σ : Type) where
  vault : Vault σ
  agent : Agent σ

/-- A key store and a policy agent in memory. -/
structure World where
  keys : KeyStore := {}
  relations : Relations := {}
deriving DecidableEq

namespace World

/-- The backends in memory, of which the key store draws `drawn` as the next
fresh id. -/
def backend (drawn : String) : Backend World where
  vault := (KeyStore.vault drawn).onPart keys fun w keys => { w with keys }
  agent := Relations.agent.onPart relations fun w relations => { w with relations }

end World

end Credentials
