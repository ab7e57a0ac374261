import Credentials.Backend.Basic
import Mathlib.Logic.Function.Basic

/-!
# Scenes

What backends in memory hold, as far as anybody can tell: the record under each
id, the ids whose records were removed, the relationships, and whether the policy
agent is there to be asked. In which order a list holds them does not show.
-/

namespace Credentials

/-- What backends in memory hold. -/
structure Scene where
  /-- The record that is live under an id. -/
  live : String → Option Key
  /-- Whether the record under an id was removed. -/
  removed : String → Bool
  /-- Whether a relationship holds. -/
  holds : Relationship → Bool
  /-- Whether the policy agent answers. -/
  available : Bool

namespace Scene

/-- The scene with one more live record. -/
def gain (s : Scene) (id : String) (record : Key) : Scene :=
  { s with live := Function.update s.live id (some record) }

/-- The scene with the record under an id moved to the removed ones. -/
def retire (s : Scene) (id : String) : Scene :=
  { s with
    live := Function.update s.live id none
    removed := Function.update s.removed id true }

/-- The scene in which a relationship holds, or does not. -/
def declare (s : Scene) (r : Relationship) (holds : Bool) : Scene :=
  { s with holds := Function.update s.holds r holds }

end Scene

/-- What the backends in memory hold. -/
def World.scene (w : World) : Scene where
  live := w.keys.find?
  removed := w.keys.isRemoved
  holds := w.relations.holds
  available := w.relations.available

end Credentials
