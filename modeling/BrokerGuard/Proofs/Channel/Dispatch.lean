import BrokerGuard.Channel.Security
/-!
# Dispatch — what a chain of interceptors does to a message

A dispatch has three parts.  Going in, the message passes interceptors until one refuses it (`pass`).  If none does, it is
handled.  Coming out, the interceptors that let it pass are told, the latest first (`release`).  `dispatch_of_refused` and
`dispatch_of_passed` put a dispatch together from these parts.  An interceptor that only checks (`Checks`) is a test in
front of the rest of the chain (`dispatch_checks`).
-/
namespace BrokerGuard
namespace InboundChannel

variable {ω α : Type}

/-- How far a message came: the interceptors that let it pass, in order, and the refusal that ended the way. -/
structure Passage (ω : Type) where
  message : Message
  passed : List (ChannelInterceptor ω) := []
  refusal : Option MessageError := none

/-- The way in. -/
def pass : List (ChannelInterceptor ω) → Message → Surroundings ω → Passage ω × Surroundings ω
  | [], m, s => (⟨m, [], none⟩, s)
  | i :: rest, m, s =>
    match i.preSend m s with
    | ((m, .error e), s) => (⟨m, [], some e⟩, s)
    | ((m, .ok ()), s) =>
      let (p, s) := pass rest m s
      ({ p with passed := i :: p.passed }, s)

/-- The way out: the interceptors are told whether the message was handled, the latest first. -/
def release (passed : List (ChannelInterceptor ω)) (m : Message) (sent : Bool) (s : Surroundings ω) : Surroundings ω :=
  passed.foldr (fun i s => (i.afterSend m sent s).2) s

section Chain

variable (handler : MessageHandler ω α) {i : ChannelInterceptor ω} {rest : List (ChannelInterceptor ω)} {m m' : Message}
  {s s' : Surroundings ω}

theorem dispatch_cons_of_error {e : MessageError} (h : i.preSend m s = ((m', .error e), s')) :
    dispatch handler (i :: rest) m s = ((m', .error e), s') := by
  unfold dispatch
  simp only [bind, StateT.bind, h]
  rfl

theorem dispatch_cons_of_ok (h : i.preSend m s = ((m', .ok ()), s')) :
    dispatch handler (i :: rest) m s =
      ((dispatch handler rest m' s').1, (i.afterSend (dispatch handler rest m' s').1.1
        (succeeded (dispatch handler rest m' s').1.2) (dispatch handler rest m' s').2).2) := by
  rw [dispatch]
  simp only [bind, StateT.bind, h]
  rfl

theorem pass_cons_of_error {e : MessageError} (h : i.preSend m s = ((m', .error e), s')) :
    pass (i :: rest) m s = (⟨m', [], some e⟩, s') := by
  simp only [pass, h]

theorem pass_cons_of_ok (h : i.preSend m s = ((m', .ok ()), s')) :
    pass (i :: rest) m s =
      ({ (pass rest m' s').1 with passed := i :: (pass rest m' s').1.passed }, (pass rest m' s').2) := by
  simp only [pass, h]

end Chain

/-- **A refused message is not handled.**  The interceptors that let it pass are told so. -/
theorem dispatch_of_refused (handler : MessageHandler ω α) {e : MessageError} :
    ∀ (chain : List (ChannelInterceptor ω)) (m : Message) (s : Surroundings ω), (pass chain m s).1.refusal = some e →
      dispatch handler chain m s = (((pass chain m s).1.message, .error e),
        release (pass chain m s).1.passed (pass chain m s).1.message false (pass chain m s).2)
  | [], _, _, h => nomatch h
  | i :: rest, m, s, h => by
    rcases hi : i.preSend m s with ⟨⟨m', _ | _⟩, s'⟩
    · rw [pass_cons_of_error hi] at h ⊢
      cases h
      exact dispatch_cons_of_error handler hi
    · rw [pass_cons_of_ok hi] at h ⊢
      have ih := dispatch_of_refused handler rest m' s' h
      rw [dispatch_cons_of_ok handler hi, ih]
      rfl

/-- **A message that nothing refuses is handled once**, as the interceptors left it, and they are told so. -/
theorem dispatch_of_passed (handler : MessageHandler ω α) :
    ∀ (chain : List (ChannelInterceptor ω)) (m : Message) (s : Surroundings ω), (pass chain m s).1.refusal = none →
      dispatch handler chain m s =
        (((pass chain m s).1.message, .ok (handler (pass chain m s).1.message (pass chain m s).2).1),
          release (pass chain m s).1.passed (pass chain m s).1.message true
            (handler (pass chain m s).1.message (pass chain m s).2).2)
  | [], _, _, _ => rfl
  | i :: rest, m, s, h => by
    rcases hi : i.preSend m s with ⟨⟨m', _ | _⟩, s'⟩
    · rw [pass_cons_of_error hi] at h
      cases h
    · rw [pass_cons_of_ok hi] at h ⊢
      have ih := dispatch_of_passed handler rest m' s' h
      rw [dispatch_cons_of_ok handler hi, ih]
      rfl

/-- The interceptor does not touch the ambient identity on the way in. -/
def SparesIdentity (i : ChannelInterceptor ω) : Prop := ∀ m s, (i.preSend m s).2.ambient = s.ambient

theorem ambient_pass :
    ∀ (chain : List (ChannelInterceptor ω)), (∀ i ∈ chain, SparesIdentity i) → ∀ (m : Message) (s : Surroundings ω),
      (pass chain m s).2.ambient = s.ambient
  | [], _, _, _ => rfl
  | i :: rest, h, m, s => by
    have hspares := h i List.mem_cons_self m s
    rcases hi : i.preSend m s with ⟨⟨m', _ | _⟩, s'⟩
    · rw [hi] at hspares
      rw [pass_cons_of_error hi]
      exact hspares
    · rw [hi] at hspares
      have hrest := ambient_pass rest (fun j hj => h j (List.mem_cons_of_mem i hj)) m' s'
      rw [pass_cons_of_ok hi]
      exact hrest.trans hspares

/-- The interceptor leaves the message and its surroundings as they are, and passes by the verdict on the message for the
ambient user. -/
structure Checks (i : ChannelInterceptor ω) (verdict : Option User → Message → Except MessageError Unit) : Prop where
  preSend : ∀ m s, i.preSend m s = ((m, verdict s.ambient.user? m), s)
  afterSend : ∀ m sent s, i.afterSend m sent s = ((), s)

theorem checks_csrf : Checks (.csrf : ChannelInterceptor ω) fun _ => ChannelInterceptor.checkToken :=
  ⟨fun _ _ => rfl, fun _ _ _ => rfl⟩

theorem checks_security (security : ChannelSecurity) :
    Checks (security.interceptor : ChannelInterceptor ω) security.check :=
  ⟨fun _ _ => rfl, fun _ _ _ => rfl⟩

/-- A check in front of a chain, which is there on a condition. -/
theorem dispatch_checks (handler : MessageHandler ω α) {i : ChannelInterceptor ω}
    {verdict : Option User → Message → Except MessageError Unit} (h : Checks i verdict) (there : Bool)
    (rest : List (ChannelInterceptor ω)) (m : Message) (s : Surroundings ω) :
    dispatch handler ((if there then [i] else []) ++ rest) m s =
      match if there then verdict s.ambient.user? m else .ok () with
      | .ok () => dispatch handler rest m s
      | .error e => ((m, .error e), s) := by
  cases there with
  | false => rfl
  | true =>
    have hpre := h.preSend m s
    rw [if_pos rfl, if_pos rfl, List.singleton_append]
    cases hv : verdict s.ambient.user? m with
    | error e =>
      rw [hv] at hpre
      exact dispatch_cons_of_error handler hpre
    | ok _ =>
      rw [hv] at hpre
      rw [dispatch_cons_of_ok handler hpre, h.afterSend]
      rfl

/-- What stands behind `identity` runs on behalf of the message's user. -/
theorem dispatch_identity (handler : MessageHandler ω α) (rest : List (ChannelInterceptor ω)) (m : Message)
    (s : Surroundings ω) :
    dispatch handler (.identity :: rest) m s =
      ((dispatch handler rest m { s with ambient := s.ambient.push m.user }).1,
        { (dispatch handler rest m { s with ambient := s.ambient.push m.user }).2 with
          ambient := (dispatch handler rest m { s with ambient := s.ambient.push m.user }).2.ambient.pop }) :=
  dispatch_cons_of_ok handler rfl

end InboundChannel
end BrokerGuard
