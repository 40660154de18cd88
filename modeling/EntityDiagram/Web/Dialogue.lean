/-! # Questions to a service

A program that posts requests is a dialogue: it is done with a value, or it asks and goes on with
what comes back. A client carries the requests; it answers each with a response, or with the reason
why there is none. A run of a dialogue with a client gives the value together with the requests that
were made for it, so neither can be stated without the other.
-/

namespace EntityDiagram

structure Post where
  url : String
  contentType : String := "application/json"
  body : String
  deriving DecidableEq, Repr

/-- The status of an answer, and its body as text unless that breaks off. -/
structure Response where
  status : Nat
  text : Except String String

abbrev Client := Post → Except String Response

/-- A client that reaches nobody. -/
def Client.offline : Client := fun _ => .error "the service cannot be reached"

/-- How many seconds a client waits for a whole exchange, and for a connection. -/
structure Limits where
  whole : Nat
  connection : Nat := 10
  deriving DecidableEq, Repr

inductive Dialogue (α : Type) where
  | done (value : α)
  | ask (post : Post) (next : Except String Response → Dialogue α)

/-- A value and the requests that were made for it, in order. -/
structure Sent (α : Type) where
  value : α
  posts : List Post := []

namespace Dialogue

variable {α β : Type}

def bind : Dialogue α → (α → Dialogue β) → Dialogue β
  | done value, further => further value
  | ask post next, further => ask post fun answer => (next answer).bind further

instance : Monad Dialogue where
  pure := done
  bind := bind

def send (post : Post) : Dialogue (Except String Response) := ask post done

def run (client : Client) : Dialogue α → Sent α
  | done value => { value }
  | ask post next =>
    let rest := (next (client post)).run client
    { rest with posts := post :: rest.posts }

@[simp] theorem run_pure (client : Client) (value : α) :
    (pure value : Dialogue α).run client = { value } := rfl

@[simp] theorem run_send (client : Client) (post : Post) :
    (send post).run client = { value := client post, posts := [post] } := rfl

/-- Whatever follows in a dialogue is asked of the same client, behind what was asked before. -/
@[simp] theorem run_bind (client : Client) (first : Dialogue α) (further : α → Dialogue β) :
    (first >>= further).run client =
      { value := ((further (first.run client).value).run client).value
        posts := (first.run client).posts ++
          ((further (first.run client).value).run client).posts } := by
  change (first.bind further).run client = _
  induction first with
  | done value => rfl
  | ask post next ih =>
    rw [bind, run, ih]
    rfl

end Dialogue

end EntityDiagram
