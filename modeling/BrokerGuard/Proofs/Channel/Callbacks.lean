import BrokerGuard.Proofs.Channel.Dispatch
/-!
# Callbacks — what a dispatch calls, and in which order

To see the calls of a dispatch, every callback is given a trace in which it notes its call (`tracedFrom`); what the callbacks
do besides is not touched.  `send_follows_protocol` says which calls end up in the trace of a channel, for every chain, every
message and every handler, and that the traced channel answers and leaves behind what the channel itself does.
-/
namespace BrokerGuard

variable {ω α : Type}

/-- A call that a dispatch makes.  Interceptors are known by their places in the chain. -/
inductive Callback where
  | preSend (place : Nat) (m : Message)
  | handle (m : Message)
  | afterSend (place : Nat) (m : Message) (sent : Bool)

/-! ## Traced chains -/

/-- The surroundings with a trace beside the application's state. -/
def Surroundings.withTrace (s : Surroundings ω) (trace : List Callback) : Surroundings (ω × List Callback) :=
  ⟨s.ambient, (s.world, trace)⟩

/-- Makes a call that is noted in the trace. -/
def Callback.noting (call : Callback) (action : StateM (Surroundings ω) α) :
    StateM (Surroundings (ω × List Callback)) α := fun s =>
  let (result, after) := action ⟨s.ambient, s.world.1⟩
  (result, after.withTrace (s.world.2 ++ [call]))

def ChannelInterceptor.traced (place : Nat) (i : ChannelInterceptor ω) : ChannelInterceptor (ω × List Callback) where
  name := i.name
  preSend m := (Callback.preSend place m).noting (i.preSend m)
  afterSend m sent := (Callback.afterSend place m sent).noting (i.afterSend m sent)

def MessageHandler.traced (handler : MessageHandler ω α) : MessageHandler (ω × List Callback) α :=
  fun m => (Callback.handle m).noting (handler m)

namespace InboundChannel

def tracedFrom : Nat → List (ChannelInterceptor ω) → List (ChannelInterceptor (ω × List Callback))
  | _, [] => []
  | place, i :: rest => i.traced place :: tracedFrom (place + 1) rest

/-! ## The protocol -/

/-- All interceptors let the message pass, in order, each as it came from the one before; `seen` are the messages that they
saw. -/
inductive Admits : List (ChannelInterceptor ω) → Message → Surroundings ω → (seen : List Message) → Message →
    Surroundings ω → Prop
  | nil (m : Message) (s : Surroundings ω) : Admits [] m s [] m s
  | cons {i rest m s m₁ s₁ seen m₂ s₂} (hi : i.preSend m s = ((m₁, .ok ()), s₁)) (h : Admits rest m₁ s₁ seen m₂ s₂) :
    Admits (i :: rest) m s (m :: seen) m₂ s₂

/-- The calls on the way in: one for each interceptor, with the message that it sees. -/
def entering (place : Nat) (seen : List Message) : List Callback :=
  (seen.zipIdx place).map fun x => .preSend x.2 x.1

/-- The calls on the way out: one for each of the interceptors, the last of them first. -/
def leaving (place count : Nat) (m : Message) (sent : Bool) : List Callback :=
  (List.range' place count).reverse.map fun place => .afterSend place m sent

/-- The calls of a dispatch and its outcome.  Either all interceptors let the message pass, it is handled once, and all are
told so; or one of them refuses it, and the ones before it are told so. -/
inductive Protocol (chain : List (ChannelInterceptor ω)) (handler : MessageHandler ω α) (m : Message)
    (s : Surroundings ω) : List Callback → Except MessageError α → Prop
  | handled {seen m₁ s₁} (hpass : Admits chain m s seen m₁ s₁) :
    Protocol chain handler m s (entering 0 seen ++ .handle m₁ :: leaving 0 chain.length m₁ true) (.ok (handler m₁ s₁).1)
  | refused {before i rest seen m₁ s₁ m₂ s₂ e} (hchain : chain = before ++ i :: rest)
    (hpass : Admits before m s seen m₁ s₁) (hrefuses : i.preSend m₁ s₁ = ((m₂, .error e), s₂)) :
    Protocol chain handler m s (entering 0 (seen ++ [m₁]) ++ leaving 0 before.length m₂ false) (.error e)

section Passing

variable {before chain rest : List (ChannelInterceptor ω)} {i : ChannelInterceptor ω} {m m₁ m₂ : Message}
  {s s₁ s₂ : Surroundings ω} {seen : List Message}

theorem Admits.length_seen (h : Admits chain m s seen m₁ s₁) : seen.length = chain.length := by
  induction h with
  | nil m s => rfl
  | cons hi h ih => rw [List.length_cons, List.length_cons, ih]

theorem Admits.pass_eq (h : Admits chain m s seen m₁ s₁) : pass chain m s = (⟨m₁, chain, none⟩, s₁) := by
  induction h with
  | nil m s => rfl
  | cons hi h ih => rw [pass_cons_of_ok hi, ih]

theorem Admits.pass_append (h : Admits before m s seen m₁ s₁) {e : MessageError}
    (hi : i.preSend m₁ s₁ = ((m₂, .error e), s₂)) :
    pass (before ++ i :: rest) m s = (⟨m₂, before, some e⟩, s₂) := by
  induction h with
  | nil m s => exact pass_cons_of_error hi
  | cons hj h ih => rw [List.cons_append, pass_cons_of_ok hj, ih hi]

theorem admits_or_refuses : ∀ (chain : List (ChannelInterceptor ω)) (m : Message) (s : Surroundings ω),
    (∃ seen m₁ s₁, Admits chain m s seen m₁ s₁) ∨
      ∃ before i rest seen m₁ s₁ m₂ e s₂, chain = before ++ i :: rest ∧ Admits before m s seen m₁ s₁ ∧
        i.preSend m₁ s₁ = ((m₂, .error e), s₂)
  | [], m, s => .inl ⟨[], m, s, .nil m s⟩
  | i :: rest, m, s => by
    rcases hi : i.preSend m s with ⟨⟨m', e | _⟩, s'⟩
    · exact .inr ⟨[], i, rest, [], m, s, m', e, s', rfl, .nil m s, hi⟩
    · rcases admits_or_refuses rest m' s' with ⟨seen, m₁, s₁, h⟩ | ⟨before, j, rest', seen, m₁, s₁, m₂, e, s₂, rfl, h, hj⟩
      · exact .inl ⟨m :: seen, m₁, s₁, .cons hi h⟩
      · exact .inr ⟨i :: before, j, rest', m :: seen, m₁, s₁, m₂, e, s₂, rfl, .cons hi h, hj⟩

end Passing

/-! ## The calls of a traced chain -/

theorem entering_cons (place : Nat) (m : Message) (seen : List Message) :
    entering place (m :: seen) = .preSend place m :: entering (place + 1) seen := rfl

theorem entering_concat (place : Nat) (seen : List Message) (m : Message) :
    entering place (seen ++ [m]) = entering place seen ++ [.preSend (place + seen.length) m] := by
  unfold entering
  rw [List.zipIdx_append, List.map_append]
  rfl

theorem leaving_succ (place count : Nat) (m : Message) (sent : Bool) :
    leaving place (count + 1) m sent = leaving (place + 1) count m sent ++ [.afterSend place m sent] := by
  unfold leaving
  rw [List.range'_succ, List.reverse_cons, List.map_append]
  rfl

section Traced

variable {before chain rest : List (ChannelInterceptor ω)} {i : ChannelInterceptor ω} {m m₁ m₂ : Message}
  {s s₁ s₂ : Surroundings ω} {seen : List Message}

theorem tracedFrom_append (place : Nat) :
    ∀ before : List (ChannelInterceptor ω), tracedFrom place (before ++ rest) =
      tracedFrom place before ++ tracedFrom (place + before.length) rest
  | [] => rfl
  | i :: before => by
    rw [List.cons_append, tracedFrom, tracedFrom, tracedFrom_append (place + 1) before, List.length_cons, List.cons_append,
      Nat.add_right_comm, Nat.add_assoc]

theorem preSend_traced (place : Nat) (trace : List Callback) {verdict : Except MessageError Unit}
    (hi : i.preSend m s = ((m₁, verdict), s₁)) :
    (i.traced place).preSend m (s.withTrace trace) =
      ((m₁, verdict), s₁.withTrace (trace ++ [.preSend place m])) := by
  have htraced : (i.traced place).preSend m (s.withTrace trace) =
      ((i.preSend m s).1, (i.preSend m s).2.withTrace (trace ++ [.preSend place m])) := rfl
  rw [htraced, hi]

theorem Admits.traced (h : Admits chain m s seen m₁ s₁) (place : Nat) (trace : List Callback) :
    Admits (tracedFrom place chain) m (s.withTrace trace) seen m₁ (s₁.withTrace (trace ++ entering place seen)) := by
  induction h generalizing place trace with
  | nil m s =>
    rw [show entering place [] = [] from rfl, List.append_nil]
    exact .nil m _
  | @cons i rest m s m₁ s₁ seen m₂ s₂ hi h ih =>
    have hrest := ih (place + 1) (trace ++ [.preSend place m])
    rw [List.append_assoc, List.singleton_append, ← entering_cons] at hrest
    exact .cons (preSend_traced place trace hi) hrest

theorem release_tracedFrom (m : Message) (sent : Bool) (s : Surroundings ω) (trace : List Callback) :
    ∀ (place : Nat) (chain : List (ChannelInterceptor ω)),
      release (tracedFrom place chain) m sent (s.withTrace trace) =
        (release chain m sent s).withTrace (trace ++ leaving place chain.length m sent)
  | place, [] => by
    rw [show leaving place ([] : List (ChannelInterceptor ω)).length m sent = [] from rfl, List.append_nil]
    rfl
  | place, i :: rest => by
    have hrest := release_tracedFrom m sent s trace (place + 1) rest
    have hstep : release (tracedFrom place (i :: rest)) m sent (s.withTrace trace) =
        ((i.traced place).afterSend m sent (release (tracedFrom (place + 1) rest) m sent (s.withTrace trace))).2 := rfl
    rw [hstep, hrest, List.length_cons, leaving_succ, ← List.append_assoc]
    rfl

end Traced

/-- The scope in which a channel dispatches, without a user. -/
def inScope (s : Surroundings ω) : Surroundings ω := { s with ambient := some ⟨none, []⟩ }

theorem send_eq_dispatch (chain : List (ChannelInterceptor ω)) (handler : MessageHandler ω α) (m : Message)
    (s : Surroundings ω) :
    send ⟨chain⟩ handler m s = ((dispatch handler chain m (inScope s)).1.2,
      { s with world := (dispatch handler chain m (inScope s)).2.world }) := rfl

section Sent

variable {before chain rest : List (ChannelInterceptor ω)} {i : ChannelInterceptor ω} {m m₁ m₂ : Message}
  {s s₁ s₂ : Surroundings ω} {seen : List Message} (handler : MessageHandler ω α)

theorem dispatch_traced_of_admits (h : Admits chain m s seen m₁ s₁) :
    dispatch (MessageHandler.traced handler) (tracedFrom 0 chain) m (s.withTrace []) =
      ((dispatch handler chain m s).1, (dispatch handler chain m s).2.withTrace
        (entering 0 seen ++ .handle m₁ :: leaving 0 chain.length m₁ true)) ∧
    (dispatch handler chain m s).1.2 = .ok (handler m₁ s₁).1 := by
  have htraced := (h.traced 0 []).pass_eq
  have hhandle : MessageHandler.traced handler m₁ (s₁.withTrace ([] ++ entering 0 seen)) =
      ((handler m₁ s₁).1, (handler m₁ s₁).2.withTrace ([] ++ entering 0 seen ++ [.handle m₁])) := rfl
  rw [dispatch_of_passed handler chain m s (by rw [h.pass_eq]),
    dispatch_of_passed (MessageHandler.traced handler) _ m _ (by rw [htraced]), h.pass_eq, htraced]
  dsimp only
  rw [hhandle, release_tracedFrom, List.nil_append, List.append_assoc, List.singleton_append]
  exact ⟨rfl, rfl⟩

theorem dispatch_traced_of_refuses (h : Admits before m s seen m₁ s₁) {e : MessageError}
    (hi : i.preSend m₁ s₁ = ((m₂, .error e), s₂)) :
    dispatch (MessageHandler.traced handler) (tracedFrom 0 (before ++ i :: rest)) m (s.withTrace []) =
      ((dispatch handler (before ++ i :: rest) m s).1, (dispatch handler (before ++ i :: rest) m s).2.withTrace
        (entering 0 (seen ++ [m₁]) ++ leaving 0 before.length m₂ false)) ∧
    (dispatch handler (before ++ i :: rest) m s).1.2 = .error e := by
  have htraced : pass (tracedFrom 0 (before ++ i :: rest)) m (s.withTrace []) = (⟨m₂, tracedFrom 0 before, some e⟩,
      s₂.withTrace ([] ++ entering 0 seen ++ [.preSend (0 + before.length) m₁])) := by
    rw [tracedFrom_append, tracedFrom]
    exact (h.traced 0 []).pass_append (preSend_traced _ _ hi)
  rw [dispatch_of_refused handler _ m s (by rw [h.pass_append hi]),
    dispatch_of_refused (MessageHandler.traced handler) _ m _ (by rw [htraced]), h.pass_append hi, htraced]
  dsimp only
  rw [release_tracedFrom, entering_concat, h.length_seen, List.nil_append]
  exact ⟨rfl, rfl⟩

end Sent

/-- **The protocol of a dispatch.**  For every chain of interceptors, whatever they do to the message and whether they refuse
it, for every message and every handler: the calls that the traced channel notes and the outcome of the channel follow the
protocol, and but for the trace the traced channel does what the channel does. -/
theorem send_follows_protocol (chain : List (ChannelInterceptor ω)) (handler : MessageHandler ω α) (m : Message)
    (s : Surroundings ω) :
    ∃ calls, Protocol chain handler m (inScope s) calls (send ⟨chain⟩ handler m s).1 ∧
      send ⟨tracedFrom 0 chain⟩ (MessageHandler.traced handler) m (s.withTrace []) =
        ((send ⟨chain⟩ handler m s).1, (send ⟨chain⟩ handler m s).2.withTrace calls) := by
  have hscope : inScope (s.withTrace []) = (inScope s).withTrace [] := rfl
  rw [send_eq_dispatch, send_eq_dispatch, hscope]
  rcases admits_or_refuses chain m (inScope s) with
    ⟨seen, m₁, s₁, hpass⟩ | ⟨before, i, rest, seen, m₁, s₁, m₂, e, s₂, rfl, hpass, hrefuses⟩
  · obtain ⟨htraced, houtcome⟩ := dispatch_traced_of_admits handler hpass
    rw [htraced, houtcome]
    exact ⟨_, .handled hpass, rfl⟩
  · obtain ⟨htraced, houtcome⟩ := dispatch_traced_of_refuses handler hpass hrefuses
    rw [htraced, houtcome]
    exact ⟨_, .refused rfl hpass hrefuses, rfl⟩

example (m : Message) : entering 0 [m, m] ++ .handle m :: leaving 0 2 m true =
    [.preSend 0 m, .preSend 1 m, .handle m, .afterSend 1 m true, .afterSend 0 m true] := rfl

end InboundChannel
end BrokerGuard
