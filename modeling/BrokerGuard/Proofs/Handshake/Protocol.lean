import BrokerGuard.Handshake.Basic
/-!
# The protocol of a handshake — what a chain calls, and in which order

To see the calls of a handshake, every interceptor is given a trace in which it notes its calls (`tracedFrom`); what it does
besides is not touched.  `run_follows_protocol` says which calls end up in the trace, for every chain, every request and
whatever the interceptors do, and that the traced chain answers and leaves behind what the chain itself does.

A chain is called from the inside out: what the rest of the chain calls stands between the two calls of its first interceptor.
`Protocol.cons` brings this into the order of the protocol, all calls on the way in before all calls on the way out.
-/
namespace BrokerGuard

variable {ω α : Type}

/-- A call that a handshake makes.  Interceptors are known by their places in the chain. -/
inductive HandshakeCall where
  | before (place : Nat) (request : HttpRequest) (attributes : SessionAttributes)
  | after (place : Nat) (request : HttpRequest) (error : Option HandshakeError)

/-! ## Traced chains -/

/-- The exchange with a trace beside the application's state. -/
def Exchange.withTrace (s : Exchange ω) (trace : List HandshakeCall) : Exchange (ω × List HandshakeCall) where
  ambient := s.ambient
  world := (s.world, trace)
  session := s.session
  secrets := s.secrets

/-- The exchange without its trace. -/
def Exchange.untraced (s : Exchange (ω × List HandshakeCall)) : Exchange ω where
  ambient := s.ambient
  world := s.world.1
  session := s.session
  secrets := s.secrets

/-- Makes a call that is noted in the trace. -/
def HandshakeCall.noting (call : HandshakeCall) (action : StateM (Exchange ω) α) :
    StateM (Exchange (ω × List HandshakeCall)) α := fun s =>
  let (result, t) := action s.untraced
  (result, t.withTrace (s.world.2 ++ [call]))

def HandshakeInterceptor.traced (place : Nat) (i : HandshakeInterceptor ω) :
    HandshakeInterceptor (ω × List HandshakeCall) where
  name := i.name
  before request attributes := (HandshakeCall.before place request attributes).noting (i.before request attributes)
  after request error := (HandshakeCall.after place request error).noting (i.after request error)

namespace Handshake

def tracedFrom : Nat → List (HandshakeInterceptor ω) → List (HandshakeInterceptor (ω × List HandshakeCall))
  | _, [] => []
  | place, i :: rest => i.traced place :: tracedFrom (place + 1) rest

/-! ## The protocol -/

variable (request : HttpRequest)

/-- All interceptors accept the request, in order, each from the attributes and the exchange that the one before left; `seen`
are the attributes that they saw. -/
inductive Admits : List (HandshakeInterceptor ω) → SessionAttributes → Exchange ω → (seen : List SessionAttributes) →
    SessionAttributes → Exchange ω → Prop
  | nil (attributes : SessionAttributes) (s : Exchange ω) : Admits [] attributes s [] attributes s
  | cons {i rest attributes s accepted t seen answer u} (hi : i.before request attributes s = (.accept accepted, t))
    (h : Admits rest accepted t seen answer u) : Admits (i :: rest) attributes s (attributes :: seen) answer u

/-- The interceptor does not accept the request: it rejects it, and the error tells its name, or it fails with an error of its
own. -/
inductive Refuses (i : HandshakeInterceptor ω) (attributes : SessionAttributes) (s : Exchange ω) : HandshakeError → Prop
  | rejects {t} (h : i.before request attributes s = (.reject, t)) : Refuses i attributes s (.rejected i.name)
  | fails {e t} (h : i.before request attributes s = (.fail e, t)) : Refuses i attributes s e

/-- The calls on the way in: one for each interceptor, with the attributes that it sees. -/
def entering (place : Nat) (seen : List SessionAttributes) : List HandshakeCall :=
  (seen.zipIdx place).map fun x => .before x.2 request x.1

/-- The calls on the way out: one for each of the interceptors, the last of them first. -/
def leaving (place count : Nat) (error : Option HandshakeError) : List HandshakeCall :=
  (List.range' place count).reverse.map fun place => .after place request error

/-- The calls of a chain whose first interceptor has the given place, and its outcome.  Either all interceptors accept the
request, and all are told so; or one of them does not, and the ones before it are told the error. -/
inductive Protocol (place : Nat) (chain : List (HandshakeInterceptor ω)) (attributes : SessionAttributes) (s : Exchange ω) :
    List HandshakeCall → Except HandshakeError SessionAttributes → Prop
  | accepted {seen answer t} (hpass : Admits request chain attributes s seen answer t) :
    Protocol place chain attributes s (entering request place seen ++ leaving request place chain.length none) (.ok answer)
  | refused {before i rest seen reached t e} (hchain : chain = before ++ i :: rest)
    (hpass : Admits request before attributes s seen reached t) (hrefuses : Refuses request i reached t e) :
    Protocol place chain attributes s
      (entering request place (seen ++ [reached]) ++ leaving request place before.length (some e)) (.error e)

theorem entering_cons (place : Nat) (attributes : SessionAttributes) (seen : List SessionAttributes) :
    entering request place (attributes :: seen) = .before place request attributes :: entering request (place + 1) seen := rfl

theorem leaving_succ (place count : Nat) (error : Option HandshakeError) :
    leaving request place (count + 1) error = leaving request (place + 1) count error ++ [.after place request error] := by
  unfold leaving
  rw [List.range'_succ, List.reverse_cons, List.map_append]
  rfl

section Chain

variable {request} {place : Nat} {i : HandshakeInterceptor ω} {rest : List (HandshakeInterceptor ω)}
  {attributes accepted : SessionAttributes} {s t : Exchange ω} {calls : List HandshakeCall}
  {outcome : Except HandshakeError SessionAttributes}

/-- The calls of the rest of a chain stand between the two calls of an interceptor that accepts. -/
theorem Protocol.cons (hi : i.before request attributes s = (.accept accepted, t))
    (h : Protocol request (place + 1) rest accepted t calls outcome) :
    Protocol request place (i :: rest) attributes s
      (.before place request attributes :: calls ++ [.after place request (error? outcome)]) outcome := by
  cases h with
  | @accepted seen answer u hpass =>
    have hall : Protocol request place (i :: rest) attributes s _ (.ok answer) := .accepted (.cons hi hpass)
    rwa [entering_cons, List.length_cons, leaving_succ, List.cons_append, ← List.append_assoc, ← List.cons_append] at hall
  | @refused before j rest' seen reached u e hchain hpass hrefuses =>
    have hsplit : i :: rest = (i :: before) ++ j :: rest' := congrArg (i :: ·) hchain
    have hsome : Protocol request place (i :: rest) attributes s _ (.error e) := .refused hsplit (.cons hi hpass) hrefuses
    rwa [List.cons_append, entering_cons, List.length_cons, leaving_succ, List.cons_append, ← List.append_assoc,
      ← List.cons_append] at hsome

theorem Protocol.of_refuses {e : HandshakeError} (h : Refuses request i attributes s e) :
    Protocol request place (i :: rest) attributes s [.before place request attributes] (.error e) := by
  have hchain : i :: rest = [] ++ i :: rest := rfl
  exact .refused hchain (.nil attributes s) h

/-! ## The calls of a traced chain -/

theorem runFrom_cons_of_accept (hi : i.before request attributes s = (.accept accepted, t)) :
    runFrom request (i :: rest) attributes s =
      ((runFrom request rest accepted t).1,
        (i.after request (error? (runFrom request rest accepted t).1) (runFrom request rest accepted t).2).2) := by
  rw [runFrom]
  simp only [bind, StateT.bind, hi]
  rfl

theorem runFrom_cons_of_reject (hi : i.before request attributes s = (.reject, t)) :
    runFrom request (i :: rest) attributes s = (.error (.rejected i.name), t) := by
  rw [runFrom]
  simp only [bind, StateT.bind, hi]
  rfl

theorem runFrom_cons_of_fail {e : HandshakeError} (hi : i.before request attributes s = (.fail e, t)) :
    runFrom request (i :: rest) attributes s = (.error e, t) := by
  rw [runFrom]
  simp only [bind, StateT.bind, hi]
  rfl

theorem before_traced {verdict : HandshakeVerdict} (hi : i.before request attributes s = (verdict, t)) (place : Nat)
    (trace : List HandshakeCall) :
    (i.traced place).before request attributes (s.withTrace trace) =
      (verdict, t.withTrace (trace ++ [.before place request attributes])) := by
  have htraced : (i.traced place).before request attributes (s.withTrace trace) =
      ((i.before request attributes s).1,
        (i.before request attributes s).2.withTrace (trace ++ [.before place request attributes])) := rfl
  rw [htraced, hi]

theorem after_traced (i : HandshakeInterceptor ω) (error : Option HandshakeError) (s : Exchange ω) (place : Nat)
    (trace : List HandshakeCall) :
    ((i.traced place).after request error (s.withTrace trace)).2 =
      (i.after request error s).2.withTrace (trace ++ [.after place request error]) := rfl

variable (request place) in
/-- The traced chain notes the calls behind what its trace holds already, and does what the chain does besides. -/
def Notes (chain : List (HandshakeInterceptor ω)) (attributes : SessionAttributes) (s : Exchange ω)
    (calls : List HandshakeCall) : Prop :=
  ∀ trace, runFrom request (tracedFrom place chain) attributes (s.withTrace trace) =
    ((runFrom request chain attributes s).1, (runFrom request chain attributes s).2.withTrace (trace ++ calls))

theorem notes_nil (attributes : SessionAttributes) (s : Exchange ω) : Notes request place [] attributes s [] := by
  intro trace
  rw [List.append_nil]
  rfl

theorem Notes.cons (hi : i.before request attributes s = (.accept accepted, t))
    (h : Notes request (place + 1) rest accepted t calls) :
    Notes request place (i :: rest) attributes s
      (.before place request attributes :: calls ++
        [.after place request (error? (runFrom request rest accepted t).1)]) := by
  intro trace
  rw [tracedFrom, runFrom_cons_of_accept (before_traced hi place trace), h, runFrom_cons_of_accept hi]
  dsimp only
  rw [after_traced, List.append_assoc, List.append_assoc]
  rfl

theorem notes_of_reject (hi : i.before request attributes s = (.reject, t)) :
    Notes request place (i :: rest) attributes s [.before place request attributes] := by
  intro trace
  rw [runFrom_cons_of_reject hi]
  exact runFrom_cons_of_reject (before_traced hi place trace)

theorem notes_of_fail {e : HandshakeError} (hi : i.before request attributes s = (.fail e, t)) :
    Notes request place (i :: rest) attributes s [.before place request attributes] := by
  intro trace
  rw [runFrom_cons_of_fail hi]
  exact runFrom_cons_of_fail (before_traced hi place trace)

end Chain

/-- What a chain calls follows the protocol, and goes behind what the trace holds already. -/
theorem runFrom_traced : ∀ (chain : List (HandshakeInterceptor ω)) (place : Nat) (attributes : SessionAttributes)
    (s : Exchange ω), ∃ calls, Protocol request place chain attributes s calls (runFrom request chain attributes s).1 ∧
      Notes request place chain attributes s calls
  | [], place, attributes, s => ⟨[], .accepted (.nil attributes s), notes_nil attributes s⟩
  | i :: rest, place, attributes, s => by
    rcases hi : i.before request attributes s with ⟨accepted | _ | e, t⟩
    · obtain ⟨calls, hprotocol, hnotes⟩ := runFrom_traced rest (place + 1) accepted t
      rw [runFrom_cons_of_accept hi]
      exact ⟨_, hprotocol.cons hi, hnotes.cons hi⟩
    · rw [runFrom_cons_of_reject hi]
      exact ⟨_, .of_refuses (.rejects hi), notes_of_reject hi⟩
    · rw [runFrom_cons_of_fail hi]
      exact ⟨_, .of_refuses (.fails hi), notes_of_fail hi⟩

/-- **The protocol of a handshake.**  For every chain of interceptors, whatever they do to the attributes and whether they
accept, reject or fail, and for every request: the calls that the traced chain notes and the outcome of the chain follow the
protocol, and but for the trace the traced chain does what the chain does. -/
theorem run_follows_protocol (chain : List (HandshakeInterceptor ω)) (s : Exchange ω) :
    ∃ calls, Protocol request 0 chain {} s calls (run chain request s).1 ∧
      run (tracedFrom 0 chain) request (s.withTrace []) = ((run chain request s).1, (run chain request s).2.withTrace calls) := by
  obtain ⟨calls, hprotocol, hnotes⟩ := runFrom_traced request chain 0 {} s
  exact ⟨calls, hprotocol, hnotes []⟩

example (attributes : SessionAttributes) (e : HandshakeError) :
    entering request 0 [attributes, attributes, attributes] ++ leaving request 0 2 (some e) =
      [.before 0 request attributes, .before 1 request attributes, .before 2 request attributes,
        .after 1 request (some e), .after 0 request (some e)] := rfl

end Handshake
end BrokerGuard
