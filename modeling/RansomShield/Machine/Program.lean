import RansomShield.Machine.Basic

/-!
# Programs that send requests

A client is a `Program`: it has ended with a result, or it sends a request and goes on with the
response.  `Program.run` lets it run against a server without interruption, and `Program.bind` puts
one client after another.

What a client does to a server is determined by the requests it sends, and these are described by
`Program.Follows`: the client sends a list of requests one after another, and stops early only after
a response that is not in order.  When every response is in order, the server has handled all of
the requests, and the result is a good one (`Program.run_of_follows`).
-/

namespace RansomShield

universe u v w

/-- A client that sends requests `Q`, gets responses `R`, and ends with a result `A`. -/
inductive Program (Q : Type u) (R : Type v) (A : Type w)
  | done (a : A)
  | request (q : Q) (next : R → Program Q R A)

namespace Program

variable {Q : Type u} {R : Type v} {A : Type w} {S : Type*}

/-- The client has ended. -/
def IsDone : Program Q R A → Prop
  | .done _ => True
  | .request _ _ => False

/-- The client and a server, without interruption. -/
def run (serve : S → Q → S × R) : S → Program Q R A → S × A
  | s, .done a => (s, a)
  | s, .request q next => (next (serve s q).2).run serve (serve s q).1

@[simp] theorem run_request (serve : S → Q → S × R) (s : S) (q : Q) (next : R → Program Q R A) :
    (request q next).run serve s = (next (serve s q).2).run serve (serve s q).1 := rfl

/-- One client after another, which continues with the result of the first. -/
def bind {B : Type*} : Program Q R A → (A → Program Q R B) → Program Q R B
  | .done a, f => f a
  | .request q next, f => .request q fun r => (next r).bind f

theorem run_bind {B : Type*} (serve : S → Q → S × R) (p : Program Q R A) (f : A → Program Q R B)
    (s : S) : (p.bind f).run serve s = (f (p.run serve s).2).run serve (p.run serve s).1 := by
  induction p generalizing s with
  | done a => rfl
  | request q next ih => exact ih _ _

section Follows

variable (ok fails : R → Prop) (good : A → Prop)

/-- The client sends the requests one after another.  It stops early only after a response that is
not `ok`, and it does stop after one that `fails`; when it has sent them all, its result is
`good`. -/
def Follows : List Q → Program Q R A → Prop
  | [], .done a => good a
  | [], .request _ _ => False
  | _ :: _, .done _ => False
  | q :: qs, .request q' next =>
    q' = q ∧ ∀ r, (Follows qs (next r) ∨ (next r).IsDone ∧ ¬ ok r) ∧ (fails r → (next r).IsDone)

variable {ok fails good} {qs : List Q} {p : Program Q R A}

theorem Follows.eq_nil (h : Follows ok fails good qs p) (hp : p.IsDone) : qs = [] := by
  cases p with
  | request q next => exact hp.elim
  | done a =>
    cases qs with
    | nil => rfl
    | cons q qs => exact h.elim

theorem Follows.request {q : Q} {next : R → Program Q R A}
    (h : Follows ok fails good qs (.request q next)) :
    ∃ rest, qs = q :: rest ∧ ∀ r,
      (Follows ok fails good rest (next r) ∨ (next r).IsDone ∧ ¬ ok r) ∧
        (fails r → (next r).IsDone) := by
  cases qs with
  | nil => exact h.elim
  | cons q' rest =>
    obtain ⟨rfl, hnext⟩ := h
    exact ⟨rest, rfl, hnext⟩

/-- **When every response is in order**, the server has handled all of the requests, and the result
is a good one. -/
theorem run_of_follows {serve : S → Q → S × R} (h : Follows ok fails good qs p)
    (hok : ∀ s, ∀ q ∈ qs, ok (serve s q).2) (s : S) :
    (p.run serve s).1 = exec (fun s q => (serve s q).1) s qs ∧ good (p.run serve s).2 := by
  induction qs generalizing p s with
  | nil =>
    cases p with
    | done a => exact ⟨rfl, h⟩
    | request q next => exact h.elim
  | cons q qs ih =>
    cases p with
    | done a => exact h.elim
    | request q' next =>
      obtain ⟨rfl, hnext⟩ := h
      rw [run_request, exec_cons]
      rcases (hnext (serve s q').2).1 with hfollows | ⟨-, hbad⟩
      · exact ih hfollows (fun s q hq => hok s q (List.mem_cons_of_mem _ hq)) _
      · exact absurd (hok s q' List.mem_cons_self) hbad

end Follows

end Program

end RansomShield
