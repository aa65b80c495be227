import JobQueue.Store.Basic

/-! A client of a store in memory. Some kinds of commands may be refused for good, and some may time
out for a while. -/

namespace JobQueue

structure Client where
  store : Store
  /-- The kinds of commands that the store refuses. -/
  refused : Verb → Bool
  /-- How many of the next commands of a kind time out before they reach the store. -/
  stalled : Verb → Nat
  /-- The commands that reached the store, the last one first. -/
  calls : List (Verb × String)

namespace Client

def empty : Client :=
  ⟨.empty, fun _ => false, fun _ => 0, []⟩

/-- Refuses all commands of a kind from now on. -/
def refuse (client : Client) (verb : Verb) : Client :=
  { client with refused := fun v => v == verb || client.refused v }

/-- Lets the next commands of a kind time out. -/
def stall (client : Client) (verb : Verb) (times : Nat) : Client :=
  { client with stalled := fun v => if v = verb then times else client.stalled v }

/-- How many commands of a kind have reached the store. -/
def callCount (client : Client) (verb : Verb) : Nat :=
  client.calls.countP (·.1 == verb)

/-- What a client gets for a command at time `now`. A refused command leaves no trace but its
call. -/
def run (now : Nat) (client : Client) (c : Command) : Client × Except Panic c.Result :=
  match client.stalled c.verb with
  | left + 1 => (client.stall c.verb left, .ok (.error .timeout))
  | 0 =>
    let client := { client with calls := (c.verb, c.key) :: client.calls }
    if client.refused c.verb then (client, .ok (.error (.redis .refused)))
    else match client.store.run now c with
      | .error p => (client, .error p)
      | .ok (a, store) => ({ client with store }, .ok (.ok a))

end Client

end JobQueue
