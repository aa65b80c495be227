/-! Total maps from keys. A key that was never written has the initial value. -/

namespace JobQueue

/-- What every key holds. -/
structure Keyspace (α : Type) where
  get : String → α

namespace Keyspace

variable {α : Type}

/-- The same value under every key. -/
def const (a : α) : Keyspace α :=
  ⟨fun _ => a⟩

def put (m : Keyspace α) (key : String) (a : α) : Keyspace α :=
  ⟨fun k => if k = key then a else m.get k⟩

theorem ext {m n : Keyspace α} (h : ∀ k, m.get k = n.get k) : m = n := by
  cases m; cases n; congr; exact funext h

@[simp] theorem get_const (a : α) (k : String) : (const a).get k = a := rfl

theorem get_put (m : Keyspace α) (key : String) (a : α) (k : String) :
    (m.put key a).get k = if k = key then a else m.get k := rfl

@[simp] theorem get_put_self (m : Keyspace α) (key : String) (a : α) :
    (m.put key a).get key = a := by
  simp [get_put]

theorem get_put_of_ne (m : Keyspace α) {key k : String} (a : α) (h : k ≠ key) :
    (m.put key a).get k = m.get k := by
  simp [get_put, h]

end Keyspace

end JobQueue
