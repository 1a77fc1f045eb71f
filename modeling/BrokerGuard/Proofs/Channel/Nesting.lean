import BrokerGuard.Proofs.Channel.Callbacks
/-!
# Nesting — whose identity a callback sees

A chain may make the message's user the ambient identity at any places (`ChainLink.identity`), between interceptors that
change the message or refuse it.  Every callback then sees the user that the message had at the nearest such place before
it; on the way out an interceptor sees again what it left behind on the way in; and the caller finds its own identity
untouched (`send_well_nested`).

To see this, the callbacks keep a record of the ambient user (`watchedFrom`), which changes nothing else.  The record of a
dispatch has the shape of the dispatch itself, brackets around brackets (`Nested`), so that the proof is an induction on
the chain; `scopeAfter` is the scope that holds between two callbacks.
-/
namespace BrokerGuard

variable {ω α β : Type}

/-! ## Actions that keep the identity -/

/-- The action leaves the ambient identity as it found it. -/
def Surroundings.KeepsIdentity (action : StateM (Surroundings ω) β) : Prop := ∀ s, (action s).2.ambient = s.ambient

open Surroundings (KeepsIdentity)

theorem Surroundings.KeepsIdentity.bind {γ : Type} {action : StateM (Surroundings ω) β}
    {next : β → StateM (Surroundings ω) γ} (h : KeepsIdentity action) (hnext : ∀ b, KeepsIdentity (next b)) :
    KeepsIdentity (action >>= next) := by
  intro s
  have hbind : (action >>= next) s = next (action s).1 (action s).2 := rfl
  rw [hbind, hnext, h]

/-- Sending keeps the identity of the sender, whatever the channel and its handler do. -/
theorem InboundChannel.keepsIdentity_send (channel : InboundChannel ω) (handler : MessageHandler ω α) (m : Message) :
    KeepsIdentity (channel.send handler m) := fun _ => rfl

/-- The interceptor may do anything to the message, but does not write to the ambient identity. -/
structure ChannelInterceptor.LeavesIdentity (i : ChannelInterceptor ω) : Prop where
  preSend : ∀ m, KeepsIdentity (i.preSend m)
  afterSend : ∀ m sent, KeepsIdentity (i.afterSend m sent)

/-! ## Links of a chain -/

/-- A place in a chain: the message's user becomes the ambient identity there, or something else happens. -/
inductive ChainLink (ω : Type) where
  | identity
  | other (i : ChannelInterceptor ω)

namespace ChainLink

def interceptor : ChainLink ω → ChannelInterceptor ω
  | identity => .identity
  | other i => i

/-- The identity changes at the places that are there for it only. -/
def Orderly : ChainLink ω → Prop
  | identity => True
  | other i => i.LeavesIdentity

/-- The user that the message had at the nearest place of the identity.  The links that the message passed stand with the
message that each of them saw, the latest first. -/
def nearest : List (ChainLink ω × Message) → Option User
  | [] => none
  | (identity, m) :: _ => m.user
  | (other _, _) :: earlier => nearest earlier

/-- The scope after the message passed the links. -/
def scopeAfter : List (ChainLink ω × Message) → Scope
  | [] => ⟨none, []⟩
  | (identity, m) :: earlier => ⟨m.user, (scopeAfter earlier).current :: (scopeAfter earlier).saved⟩
  | (other _, _) :: earlier => scopeAfter earlier

theorem current_scopeAfter : ∀ passed : List (ChainLink ω × Message), (scopeAfter passed).current = nearest passed
  | [] => rfl
  | (identity, _) :: _ => rfl
  | (other _, _) :: earlier => current_scopeAfter earlier

section Step

variable {link : ChainLink ω} {passed : List (ChainLink ω × Message)} {m m' : Message} {s s' : Surroundings ω}

theorem user?_of_ambient (hs : s.ambient = some (scopeAfter passed)) : s.ambient.user? = nearest passed := by
  rw [hs]
  exact current_scopeAfter passed

theorem ambient_of_passed (hlink : link.Orderly) (hs : s.ambient = some (scopeAfter passed))
    (hi : link.interceptor.preSend m s = ((m', .ok ()), s')) : s'.ambient = some (scopeAfter ((link, m) :: passed)) := by
  cases link with
  | identity =>
    have hpush : s' = { s with ambient := s.ambient.push m.user } := (congrArg Prod.snd hi).symm
    rw [hpush, hs]
    rfl
  | other i =>
    have hkeeps := hlink.preSend m s
    have hsame : i.preSend m s = ((m', .ok ()), s') := hi
    rw [hsame] at hkeeps
    exact hkeeps.trans hs

theorem ambient_of_refused (hlink : link.Orderly) {e : MessageError}
    (hi : link.interceptor.preSend m s = ((m', .error e), s')) : s'.ambient = s.ambient := by
  cases link with
  | identity =>
    have hpasses : (.ok () : Except MessageError Unit) = .error e := congrArg (fun answer => answer.1.2) hi
    cases hpasses
  | other i =>
    have hkeeps := hlink.preSend m s
    have hsame : i.preSend m s = ((m', .error e), s') := hi
    rw [hsame] at hkeeps
    exact hkeeps

theorem ambient_afterSend (hlink : link.Orderly) (hs : s.ambient = some (scopeAfter ((link, m) :: passed)))
    (m' : Message) (sent : Bool) : (link.interceptor.afterSend m' sent s).2.ambient = some (scopeAfter passed) := by
  cases link with
  | identity =>
    have hpop : (interceptor identity).afterSend m' sent s = ((), { s with ambient := s.ambient.pop }) := rfl
    rw [hpop, hs]
    rfl
  | other i => exact (hlink.afterSend m' sent s).trans hs

end Step

end ChainLink

/-! ## Watched chains -/

/-- What a callback sees of the ambient identity.  Interceptors are known by their places in the chain; of those on the way
in, the record has the user before and after. -/
inductive Sighting where
  | preSend (place : Nat) (m : Message) (before after : Option User)
  | handle (m : Message) (user : Option User)
  | afterSend (place : Nat) (user : Option User)

/-- The surroundings with a record beside the application's state. -/
def Surroundings.withRecord (s : Surroundings ω) (record : List Sighting) : Surroundings (ω × List Sighting) :=
  ⟨s.ambient, (s.world, record)⟩

/-- Runs an action and records what was seen, given the ambient user before and after it. -/
def Surroundings.watching (sighting : Option User → Option User → Sighting) (action : StateM (Surroundings ω) β) :
    StateM (Surroundings (ω × List Sighting)) β := fun s =>
  let (result, after) := action ⟨s.ambient, s.world.1⟩
  (result, after.withRecord (s.world.2 ++ [sighting s.ambient.user? after.ambient.user?]))

def ChannelInterceptor.watched (place : Nat) (i : ChannelInterceptor ω) : ChannelInterceptor (ω × List Sighting) where
  name := i.name
  preSend m := Surroundings.watching (.preSend place m) (i.preSend m)
  afterSend m sent := Surroundings.watching (fun user _ => .afterSend place user) (i.afterSend m sent)

theorem ChannelInterceptor.preSend_watched (place : Nat) (i : ChannelInterceptor ω) (m : Message) (s : Surroundings ω)
    (record : List Sighting) :
    (i.watched place).preSend m (s.withRecord record) =
      ((i.preSend m s).1, (i.preSend m s).2.withRecord
        (record ++ [.preSend place m s.ambient.user? (i.preSend m s).2.ambient.user?])) := rfl

theorem ChannelInterceptor.afterSend_watched (place : Nat) (i : ChannelInterceptor ω) (m : Message) (sent : Bool)
    (s : Surroundings ω) (record : List Sighting) :
    (i.watched place).afterSend m sent (s.withRecord record) =
      ((i.afterSend m sent s).1, (i.afterSend m sent s).2.withRecord
        (record ++ [.afterSend place s.ambient.user?])) := rfl

def MessageHandler.watched (handler : MessageHandler ω α) : MessageHandler (ω × List Sighting) α :=
  fun m => Surroundings.watching (fun user _ => .handle m user) (handler m)

namespace InboundChannel

open ChainLink (nearest scopeAfter)

def watchedFrom : Nat → List (ChainLink ω) → List (ChannelInterceptor (ω × List Sighting))
  | _, [] => []
  | place, link :: rest => link.interceptor.watched place :: watchedFrom (place + 1) rest

/-- The record of a dispatch, from the links that were passed on.  Each callback sees the user of the message at the nearest
place of the identity, and on the way out an interceptor sees the user again that it left behind on the way in, provided
that the handler kept the identity. -/
inductive Nested (kept : Prop) : List (ChainLink ω × Message) → List (ChainLink ω) → Message → List Sighting → Prop
  | handled (passed : List (ChainLink ω × Message)) (m : Message) : Nested kept passed [] m [.handle m (nearest passed)]
  | refused (passed : List (ChainLink ω × Message)) (link : ChainLink ω) (rest : List (ChainLink ω)) (m : Message)
    (after : Option User) : Nested kept passed (link :: rest) m [.preSend passed.length m (nearest passed) after]
  | around {passed link rest m m' record user} (inner : Nested kept ((link, m) :: passed) rest m' record)
    (hkept : kept → user = nearest ((link, m) :: passed)) :
    Nested kept passed (link :: rest) m
      (.preSend passed.length m (nearest passed) (nearest ((link, m) :: passed)) ::
        (record ++ [.afterSend passed.length user]))

/-- The handler leaves the identity as it found it, or it does not get to see the message. -/
def Kept (handler : MessageHandler ω α) (result : Except MessageError α) : Prop :=
  (∀ m, KeepsIdentity (handler m)) ∨ ∃ e, result = .error e

/-- The dispatch through watched links, whatever links were passed before. -/
theorem nested_dispatch (handler : MessageHandler ω α) :
    ∀ (links : List (ChainLink ω)), (∀ link ∈ links, link.Orderly) →
      ∀ (passed : List (ChainLink ω × Message)) (m : Message) (s : Surroundings ω) (record : List Sighting),
        s.ambient = some (scopeAfter passed) → ∃ sightings,
          dispatch (MessageHandler.watched handler) (watchedFrom passed.length links) m (s.withRecord record) =
            ((dispatch handler (links.map ChainLink.interceptor) m s).1,
              (dispatch handler (links.map ChainLink.interceptor) m s).2.withRecord (record ++ sightings)) ∧
          Nested (Kept handler (dispatch handler (links.map ChainLink.interceptor) m s).1.2) passed links m sightings ∧
          (Kept handler (dispatch handler (links.map ChainLink.interceptor) m s).1.2 →
            (dispatch handler (links.map ChainLink.interceptor) m s).2.ambient = s.ambient)
  | [], _, passed, m, s, record, hs => by
    refine ⟨[.handle m (nearest passed)], ?_, .handled passed m, ?_⟩
    · rw [← ChainLink.user?_of_ambient hs]
      rfl
    · rintro (hkeeps | ⟨e, he⟩)
      · exact hkeeps m s
      · cases he
  | link :: rest, hlinks, passed, m, s, record, hs => by
    have hlink : link.Orderly := hlinks link List.mem_cons_self
    have hbefore := ChainLink.user?_of_ambient hs
    rw [List.map_cons, watchedFrom]
    rcases hi : link.interceptor.preSend m s with ⟨⟨m', e | _⟩, s'⟩
    · have hwatched : (link.interceptor.watched passed.length).preSend m (s.withRecord record) =
          ((m', .error e), s'.withRecord (record ++ [.preSend passed.length m (nearest passed) s'.ambient.user?])) := by
        rw [ChannelInterceptor.preSend_watched, hi, hbefore]
      rw [dispatch_cons_of_error handler hi, dispatch_cons_of_error _ hwatched]
      exact ⟨_, rfl, .refused passed link rest m _, fun _ => ChainLink.ambient_of_refused hlink hi⟩
    · have hpassed := ChainLink.ambient_of_passed hlink hs hi
      have hafter := ChainLink.user?_of_ambient hpassed
      have hwatched : (link.interceptor.watched passed.length).preSend m (s.withRecord record) =
          ((m', .ok ()), s'.withRecord
            (record ++ [.preSend passed.length m (nearest passed) (nearest ((link, m) :: passed))])) := by
        rw [ChannelInterceptor.preSend_watched, hi, hbefore, hafter]
      obtain ⟨sightings, hrun, hnested, hambient⟩ := nested_dispatch handler rest
        (fun l hl => hlinks l (List.mem_cons_of_mem link hl)) ((link, m) :: passed) m' s'
        (record ++ [.preSend passed.length m (nearest passed) (nearest ((link, m) :: passed))]) hpassed
      rw [List.length_cons] at hrun
      rw [dispatch_cons_of_ok handler hi, dispatch_cons_of_ok _ hwatched, hrun]
      generalize dispatch handler (rest.map ChainLink.interceptor) m' s' = inner at hnested hambient ⊢
      obtain ⟨⟨m₁, result⟩, t⟩ := inner
      refine ⟨_ :: (sightings ++ [.afterSend passed.length t.ambient.user?]), ?_, .around hnested fun hkept => ?_,
        fun hkept => ?_⟩
      · rw [ChannelInterceptor.afterSend_watched]
        simp only [List.append_assoc, List.cons_append, List.nil_append]
      · rw [hambient hkept]
        exact hafter
      · rw [hs]
        exact ChainLink.ambient_afterSend hlink ((hambient hkept).trans hpassed) m₁ _

/-- **The ambient identity is well nested.**  For every chain in which the identity is set at any places and nothing else
writes to it, every message and every handler: what the callbacks see is nested as the dispatch is, and the caller's
identity, with the users saved in it, is after the dispatch what it was before.  Only on the way out it matters what the
handler did; a handler that sends messages itself, and their handlers in turn, keeps the identity
(`keepsIdentity_send`). -/
theorem send_well_nested {links : List (ChainLink ω)} (hlinks : ∀ link ∈ links, link.Orderly)
    (handler : MessageHandler ω α) (m : Message) (s : Surroundings ω) :
    ∃ record,
      send ⟨watchedFrom 0 links⟩ (MessageHandler.watched handler) m (s.withRecord []) =
        ((send ⟨links.map ChainLink.interceptor⟩ handler m s).1,
          (send ⟨links.map ChainLink.interceptor⟩ handler m s).2.withRecord record) ∧
      Nested (Kept handler (send ⟨links.map ChainLink.interceptor⟩ handler m s).1) [] links m record ∧
      (send ⟨links.map ChainLink.interceptor⟩ handler m s).2.ambient = s.ambient := by
  obtain ⟨sightings, hrun, hnested, -⟩ := nested_dispatch handler links hlinks [] m (inScope s) [] rfl
  have hscope : inScope (s.withRecord []) = (inScope s).withRecord [] := rfl
  rw [List.length_nil, List.nil_append] at hrun
  refine ⟨sightings, ?_, hnested, rfl⟩
  rw [send_eq_dispatch, send_eq_dispatch, hscope, hrun]
  rfl

/-- Puts another user on every message. -/
def replacing (user : Option User) : ChannelInterceptor Nat where
  name := "replacing"
  preSend m := pure (m.setUser user, .ok ())

/-- The identity is set twice, each time after a change of the user. -/
def twice : List (ChainLink Nat) :=
  [.other (replacing (some (.named "bob"))), .identity, .other (replacing none), .identity]

/-- Sends the message again, counts what arrives, and from there sends it once more. -/
def relaying : MessageHandler Nat (Option User) := fun m => do
  let _ ← send ⟨twice.map ChainLink.interceptor⟩ (fun inner => do
    Surroundings.modifyWorld (· + 1)
    send ⟨twice.map ChainLink.interceptor⟩ (fun _ => Surroundings.currentUser) inner) m
  Surroundings.currentUser

theorem send_well_nested_twice :
    (∀ link ∈ twice, link.Orderly) ∧ (∀ m, KeepsIdentity (relaying m)) ∧
      ∀ (m : Message) (s : Surroundings Nat), ∃ record,
        send ⟨watchedFrom 0 twice⟩ (MessageHandler.watched relaying) m (s.withRecord []) =
          ((send ⟨twice.map ChainLink.interceptor⟩ relaying m s).1,
            (send ⟨twice.map ChainLink.interceptor⟩ relaying m s).2.withRecord record) ∧
        Nested (Kept relaying (send ⟨twice.map ChainLink.interceptor⟩ relaying m s).1) [] twice m record ∧
        (send ⟨twice.map ChainLink.interceptor⟩ relaying m s).2.ambient = s.ambient := by
  have hreplacing : ∀ user, (replacing user).LeavesIdentity := fun _ => ⟨fun _ _ => rfl, fun _ _ _ => rfl⟩
  have hlinks : ∀ link ∈ twice, link.Orderly := by
    simp only [twice, List.forall_mem_cons, ChainLink.Orderly, hreplacing, List.not_mem_nil, false_implies, implies_true,
      and_self]
  have hrelaying : ∀ m, KeepsIdentity (relaying m) := fun m =>
    (keepsIdentity_send _ _ m).bind fun _ _ => rfl
  exact ⟨hlinks, hrelaying, send_well_nested hlinks relaying⟩

example (m : Message) (caller : User) :
    (send ⟨watchedFrom 0 twice⟩ (MessageHandler.watched fun _ => pure ()) m
      (Surroundings.withRecord ⟨some ⟨some caller, []⟩, 0⟩ [])).2 =
    Surroundings.withRecord ⟨some ⟨some caller, []⟩, 0⟩
      [.preSend 0 m none none,
        .preSend 1 (m.setUser (some (.named "bob"))) none (some (.named "bob")),
        .preSend 2 (m.setUser (some (.named "bob"))) (some (.named "bob")) (some (.named "bob")),
        .preSend 3 (m.setUser none) (some (.named "bob")) none,
        .handle (m.setUser none) none,
        .afterSend 3 none, .afterSend 2 (some (.named "bob")), .afterSend 1 (some (.named "bob")), .afterSend 0 none] := rfl

end InboundChannel
end BrokerGuard
