import JobQueue.World
import Mathlib.Logic.Relation

/-! Clients that share a world. Every call of a client is a program, and calls take turns between
their effects in any order. A scene records all that has happened so far, so that statements about
runs are statements about the scenes that can be reached. -/

namespace JobQueue

/-! ### What the surroundings may do -/

/-- The conditions under which clients run. -/
structure Conditions where
  /-- Whether any command may fail at any time. -/
  failing : Prop
  /-- Whether the wall clock may go from one reading to another while some time passes. -/
  clock : (before : Int) → (nanos : Nat) → (after : Int) → Prop

namespace Conditions

/-- Commands may fail, and the wall clock may be set to anything. -/
def any : Conditions := ⟨True, fun _ _ _ => True⟩

/-- No command fails, and the wall clock may be set to anything. -/
def reliable : Conditions := ⟨False, fun _ _ _ => True⟩

/-- Commands may fail, and the wall clock does not go back. -/
def forward : Conditions := ⟨True, fun before _ after => before ≤ after⟩

/-- No command fails, and the wall clock does not go back. -/
def steady : Conditions := ⟨False, fun before _ after => before ≤ after⟩

end Conditions

/-- What can come of an effect: what the world does, or for a command an error in its place. -/
inductive Happens (failing : Prop) (world : World) :
    (e : Effect) → World → Except Panic e.Answer → Prop where
  | performed (e : Effect) : Happens failing world e (world.perform e).1 (world.perform e).2
  | failed (site : Site) (c : Command) (error : StoreError) (h : failing) :
      Happens failing world (.command site c) world (.ok (.error error))

/-- What changes in a world by itself: time passes, the clock is set, and the service treats requests
in another way. -/
inductive World.Drifts (K : Conditions) (world : World) : World → Prop where
  | mk (wall : Int) (nanos : Nat) (rules : List ServiceRule) (h : K.clock world.wall nanos wall) :
      Drifts K world { world with wall := wall, elapsed := world.elapsed + nanos, rules := rules }

/-! ### Clients and their calls -/

/-- A kind of clients. Some operations use up a thing in hand, and some replies put one there. -/
structure Clients where
  Op : Type
  Reply : Type
  Thing : Type
  program : Op → Program Reply
  needs : Op → Option Thing
  gains : Op → Reply → Option Thing

/-- A call that has begun, and what it has yet to do. -/
structure Call (C : Clients) where
  number : Nat
  op : C.Op
  rest : Program C.Reply

/-- Something that a call did. -/
inductive Event (C : Clients) where
  | began (number : Nat) (op : C.Op)
  /-- An effect with its answer, and the two clocks at that time. -/
  | did (number : Nat) (op : C.Op) (time : Nat) (wall : Int) (e : Effect) (a : e.Answer)
  | ended (number : Nat) (op : C.Op) (reply : C.Reply)
  | panicked (number : Nat) (op : C.Op) (p : Panic)
  | abandoned (number : Nat) (op : C.Op)

structure Scene (C : Clients) where
  world : World
  calls : List (Call C)
  hands : List C.Thing
  /-- How many calls have begun. -/
  begun : Nat
  /-- What has happened, the last event first. -/
  history : List (Event C)

namespace Scene

variable {C : Clients}

/-- Nothing has happened in a world yet. -/
def start (world : World) : Scene C :=
  ⟨world, [], [], 0, []⟩

/-- One step of one of the calls, or of the surroundings. -/
inductive Step (K : Conditions) : Scene C → Scene C → Prop where
  | begins {world calls hands begun history} (op : C.Op) (h : C.needs op = none) :
      Step K ⟨world, calls, hands, begun, history⟩
        ⟨world, ⟨begun, op, C.program op⟩ :: calls, hands, begun + 1, .began begun op :: history⟩
  | takes {world calls begun history} (op : C.Op) (thing : C.Thing) (left right)
      (h : C.needs op = some thing) :
      Step K ⟨world, calls, left ++ thing :: right, begun, history⟩
        ⟨world, ⟨begun, op, C.program op⟩ :: calls, left ++ right, begun + 1,
          .began begun op :: history⟩
  | acts {world hands begun history world'} (n : Nat) (op : C.Op) (e : Effect)
      (next : e.Answer → Program C.Reply) (a : e.Answer) (left right)
      (h : Happens K.failing world e world' (.ok a)) :
      Step K ⟨world, left ++ ⟨n, op, .step e next⟩ :: right, hands, begun, history⟩
        ⟨world', left ++ ⟨n, op, next a⟩ :: right, hands, begun,
          .did n op world.elapsed world.wall e a :: history⟩
  | breaks {world hands begun history world'} (n : Nat) (op : C.Op) (e : Effect)
      (next : e.Answer → Program C.Reply) (p : Panic) (left right)
      (h : Happens K.failing world e world' (.error p)) :
      Step K ⟨world, left ++ ⟨n, op, .step e next⟩ :: right, hands, begun, history⟩
        ⟨world', left ++ ⟨n, op, .panic p⟩ :: right, hands, begun, history⟩
  | ends {world hands begun history} (n : Nat) (op : C.Op) (reply : C.Reply) (left right) :
      Step K ⟨world, left ++ ⟨n, op, .done reply⟩ :: right, hands, begun, history⟩
        ⟨world, left ++ right, (C.gains op reply).toList ++ hands, begun,
          .ended n op reply :: history⟩
  | panics {world hands begun history} (n : Nat) (op : C.Op) (p : Panic) (left right) :
      Step K ⟨world, left ++ ⟨n, op, .panic p⟩ :: right, hands, begun, history⟩
        ⟨world, left ++ right, hands, begun, .panicked n op p :: history⟩
  /-- A call can be given up at any time. -/
  | abandons {world hands begun history} (call : Call C) (left right) :
      Step K ⟨world, left ++ call :: right, hands, begun, history⟩
        ⟨world, left ++ right, hands, begun, .abandoned call.number call.op :: history⟩
  | drifts {world calls hands begun history world'} (h : World.Drifts K world world') :
      Step K ⟨world, calls, hands, begun, history⟩ ⟨world', calls, hands, begun, history⟩

/-- Any number of steps. -/
abbrev Run (K : Conditions) : Scene C → Scene C → Prop :=
  Relation.ReflTransGen (Step K)

/-- What a run from a fresh scene can lead to. -/
abbrev Reachable (K : Conditions) (world : World) (s : Scene C) : Prop :=
  Run K (start world) s

end Scene

end JobQueue
