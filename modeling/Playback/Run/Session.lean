import Playback.InputStore
import Playback.Run.Execution

/-!
This module contains the requests that share a store: a plain run puts its input there, and a trace
that is given no input takes the one that its requester used last.
-/

namespace Playback

/--
Run a program without tracing it and remember its input. A request that is refused is not remembered,
nor is one of nobody.
-/
def executeRemembered (store : InputStore) (now : Rat) (requester? : Option String)
    (around : Surroundings) (settings : Settings) (name source stdin : String)
    (judge? : Option Judge := none) :
    InputStore × (Except Mishap ExecutionResult × List Event) :=
  match requester?, admitted settings name source with
  | some requester, .ok (_, none) =>
    let store := store.put now requester stdin
    if store.canHold then (store, execute around settings name source stdin judge?)
    else (store, (.error .emptyStore, []))
  | _, _ => (store, execute around settings name source stdin judge?)

/--
Trace a program with the given input, or else with the one that its requester used last, or else
without any.
-/
def visualize (store : InputStore) (now : Rat) (requester? : Option String)
    (around : Surroundings) (settings : Settings) (name source : String) (stdin? : Option String)
    (judge? : Option Judge := none) :
    InputStore × (Except Mishap TraceResult × List Event) :=
  let (stdin?, store) :=
    match stdin?, requester? with
    | none, some requester => store.get now requester
    | _, _ => (stdin?, store)
  (store, trace around settings name source (stdin?.getD "") judge?)

end Playback
