import BrokerGuard.Handshake.Origin
import BrokerGuard.Handshake.Recorder
import BrokerGuard.Proofs.Handshake.Protocol
import BrokerGuard.Proofs.Message.Attributes
import Mathlib.Data.List.Forall2
/-!
# Transparency — the interceptor for the token changes nothing else

A chain is run twice on the same request: as it is, and behind the interceptor that copies the token.  The second run starts
from one attribute more.  `csrfToken_changes_nothing_else` says that an application whose interceptors ignore this attribute
cannot tell the two runs apart but by the attribute itself: they succeed or fail alike, make the same calls, and leave the
same exchange behind.

To ignore an attribute is said without looking inside an interceptor: on maps that agree but for the attribute it does the
same and says the same, and what it accepts still has the attribute as it was (`HandshakeInterceptor.Ignores`).  So the two
runs go in step, from attributes that agree but for one name to attributes that do (`runFrom_alike`).

A repository is any function of the session; one that also looks at the request is, for this request, such a function too.
-/
namespace BrokerGuard

open SessionAttributes (AgreesBut ordered_empty agreesBut_insert)

variable {ω : Type} {name : String} {a b a' b' a'' b'' : SessionAttributes}

/-! ## What goes in step -/

/-- From `a` to `a'` and from `b` to `b'` nothing happened to the attribute, and the new maps agree on all others. -/
structure SessionAttributes.Carried (name : String) (a b a' b' : SessionAttributes) : Prop where
  ordered : a'.Ordered
  ordered' : b'.Ordered
  agree : AgreesBut name a' b'
  kept : a'.get? name = a.get? name
  kept' : b'.get? name = b.get? name

namespace SessionAttributes

theorem Carried.refl (ha : a.Ordered) (hb : b.Ordered) (hagree : AgreesBut name a b) : Carried name a b a b :=
  ⟨ha, hb, hagree, rfl, rfl⟩

theorem Carried.trans (h : Carried name a b a' b') (h' : Carried name a' b' a'' b'') : Carried name a b a'' b'' :=
  ⟨h'.ordered, h'.ordered', h'.agree, h'.kept.trans h.kept, h'.kept'.trans h.kept'⟩

theorem Carried.insert (h : Carried name a b a' b') {other : String} (hne : other ≠ name) (value : Json) :
    Carried name a b (a'.insert other value) (b'.insert other value) where
  ordered := h.ordered.insert other value
  ordered' := h.ordered'.insert other value
  agree := h.agree.insert other value
  kept := (get?_insert_of_ne a' hne.symm value).trans h.kept
  kept' := (get?_insert_of_ne b' hne.symm value).trans h.kept'

theorem Carried.erase (h : Carried name a b a' b') {other : String} (hne : other ≠ name) :
    Carried name a b (a'.erase other) (b'.erase other) where
  ordered := h.ordered.erase other
  ordered' := h.ordered'.erase other
  agree := h.agree.erase other
  kept := (get?_erase_of_ne a' hne.symm).trans h.kept
  kept' := (get?_erase_of_ne b' hne.symm).trans h.kept'

/-- What carries over every step carries over all of them. -/
theorem Carried.foldl {ι : Type} {step : SessionAttributes → ι → SessionAttributes} : ∀ (items : List ι) {a' b'},
    (∀ i ∈ items, ∀ c d, Carried name a b c d → Carried name a b (step c i) (step d i)) → Carried name a b a' b' →
      Carried name a b (items.foldl step a') (items.foldl step b')
  | [], _, _, _, h => h
  | i :: rest, a', b', hstep, h => by
    have hrest : ∀ j ∈ rest, ∀ c d, Carried name a b c d → Carried name a b (step c j) (step d j) :=
      fun j hj => hstep j (List.mem_cons_of_mem i hj)
    exact Carried.foldl rest hrest (hstep i List.mem_cons_self a' b' h)

end SessionAttributes

open SessionAttributes (Carried)

/-- Two verdicts on maps that agree but for the attribute: they are the same, but for the attribute. -/
inductive HandshakeVerdict.Alike (name : String) (a b : SessionAttributes) : HandshakeVerdict → HandshakeVerdict → Prop
  | accept {c d : SessionAttributes} (h : Carried name a b c d) : Alike name a b (.accept c) (.accept d)
  | reject : Alike name a b .reject .reject
  | fail (e : HandshakeError) : Alike name a b (.fail e) (.fail e)

/-- Two calls of one interceptor that differ in the attribute at most. -/
inductive HandshakeCall.AgreesBut (name : String) : HandshakeCall → HandshakeCall → Prop
  | before (place : Nat) (request : HttpRequest) {c d : SessionAttributes} (h : SessionAttributes.AgreesBut name c d) :
    AgreesBut name (.before place request c) (.before place request d)
  | after (place : Nat) (request : HttpRequest) (error : Option HandshakeError) :
    AgreesBut name (.after place request error) (.after place request error)

namespace HandshakeInterceptor

/-- The interceptor neither reads nor writes the attribute, whatever it does otherwise. -/
def Ignores (i : HandshakeInterceptor ω) (name : String) : Prop :=
  ∀ (request : HttpRequest) (s : Exchange ω) {a b : SessionAttributes}, a.Ordered → b.Ordered → AgreesBut name a b →
    (i.before request b s).2 = (i.before request a s).2 ∧
      HandshakeVerdict.Alike name a b (i.before request a s).1 (i.before request b s).1

theorem ignores_origin (policy : OriginPolicy) (name : String) :
    (origin policy : HandshakeInterceptor ω).Ignores name := by
  intro request s a b ha hb hagree
  cases hcheck : policy.check request with
  | ok _ =>
    have hbefore (c : SessionAttributes) :
        (origin policy : HandshakeInterceptor ω).before request c s = (.accept c, s) := by
      simp only [origin, hcheck]
      rfl
    rw [hbefore, hbefore]
    exact ⟨rfl, .accept (.refl ha hb hagree)⟩
  | error e =>
    have hbefore (c : SessionAttributes) :
        (origin policy : HandshakeInterceptor ω).before request c s = (.fail e, s) := by
      simp only [origin, hcheck]
      rfl
    rw [hbefore, hbefore]
    exact ⟨rfl, .fail e⟩

end HandshakeInterceptor

namespace HandshakeRecorder

theorem carried_amend (r : HandshakeRecorder) (hinserted : ∀ m ∈ r.inserted, m.1 ≠ name) (herased : name ∉ r.erased)
    (h : Carried name a b a b) : Carried name a b (r.amend a) (r.amend b) := by
  have hinsert := Carried.foldl r.inserted (fun m hm _ _ h => h.insert (hinserted m hm) m.2) h
  exact Carried.foldl r.erased (fun n hn _ _ h => h.erase fun heq => herased (heq ▸ hn)) hinsert

/-- A recorder that does not set or remove the attribute ignores it. -/
theorem ignores_interceptor (r : HandshakeRecorder) (hinserted : ∀ m ∈ r.inserted, m.1 ≠ name) (herased : name ∉ r.erased)
    (hverdict : r.verdict = .accept) : r.interceptor.Ignores name := by
  intro request s a b ha hb hagree
  refine ⟨rfl, ?_⟩
  have hbefore (c : SessionAttributes) : (r.interceptor.before request c s).1 = .accept (r.amend c) := by
    rw [← hverdict]
    rfl
  rw [hbefore, hbefore]
  exact .accept (r.carried_amend hinserted herased (.refl ha hb hagree))

end HandshakeRecorder

namespace Handshake

variable {request : HttpRequest}

/-- Two outcomes of runs from maps that agree but for the attribute: they are the same, but for the attribute. -/
inductive Alike (name : String) (a b : SessionAttributes) :
    Except HandshakeError SessionAttributes → Except HandshakeError SessionAttributes → Prop
  | ok {c d : SessionAttributes} (h : Carried name a b c d) : Alike name a b (.ok c) (.ok d)
  | error (e : HandshakeError) : Alike name a b (.error e) (.error e)

section Outcomes

variable {x y : Except HandshakeError SessionAttributes}

theorem Alike.error?_eq (h : Alike name a b x y) : error? y = error? x := by
  cases h with
  | ok _ => rfl
  | error e => rfl

theorem Alike.of_carried (h : Carried name a b a' b') (hxy : Alike name a' b' x y) : Alike name a b x y := by
  cases hxy with
  | ok h' => exact .ok (h.trans h')
  | error e => exact .error e

theorem Alike.ok_iff (h : Alike name a b x y) : (∃ answer, y = .ok answer) ↔ ∃ answer, x = .ok answer := by
  cases h with
  | ok _ => exact ⟨fun _ => ⟨_, rfl⟩, fun _ => ⟨_, rfl⟩⟩
  | error e => exact ⟨fun ⟨_, h⟩ => (by cases h), fun ⟨_, h⟩ => (by cases h)⟩

theorem Alike.error_iff (h : Alike name a b x y) (e : HandshakeError) : y = .error e ↔ x = .error e := by
  cases h with
  | ok _ => exact ⟨nofun, nofun⟩
  | error e' => exact Iff.rfl

theorem Alike.exists_carried (h : Alike name a b x y) (hy : y = .ok b') : ∃ a', x = .ok a' ∧ Carried name a b a' b' := by
  cases h with
  | ok h =>
    cases hy
    exact ⟨_, rfl, h⟩
  | error e => cases hy

end Outcomes

/-- **Two runs of a chain that ignores the attribute go in step.** -/
theorem runFrom_alike : ∀ (chain : List (HandshakeInterceptor ω)) (place : Nat) {a b : SessionAttributes} (s : Exchange ω),
    (∀ i ∈ chain, i.Ignores name) → a.Ordered → b.Ordered → AgreesBut name a b →
      (runFrom request chain b s).2 = (runFrom request chain a s).2 ∧
      Alike name a b (runFrom request chain a s).1 (runFrom request chain b s).1 ∧
      ∃ calls calls', Notes request place chain a s calls ∧ Notes request place chain b s calls' ∧
        List.Forall₂ (HandshakeCall.AgreesBut name) calls calls'
  | [], place, a, b, s, _, ha, hb, hagree =>
    ⟨rfl, .ok (.refl ha hb hagree), [], [], notes_nil a s, notes_nil b s, .nil⟩
  | i :: rest, place, a, b, s, hignores, ha, hb, hagree => by
    obtain ⟨hstate, hverdict⟩ := hignores i List.mem_cons_self request s ha hb hagree
    rcases hi : i.before request a s with ⟨verdict, t⟩
    rcases hj : i.before request b s with ⟨verdict', t'⟩
    rw [hi, hj] at hstate hverdict
    -- the interceptor leaves one exchange behind in both runs, so only the attributes tell them apart from here on
    obtain rfl : t' = t := hstate
    have hcall := HandshakeCall.AgreesBut.before place request hagree
    cases hverdict with
    | @accept a' b' hcarried =>
      have hrest : ∀ j ∈ rest, j.Ignores name := fun j hj => hignores j (List.mem_cons_of_mem i hj)
      obtain ⟨hleft, houtcome, calls, calls', hcalls, hcalls', hpairs⟩ :=
        runFrom_alike rest (place + 1) t' hrest hcarried.ordered hcarried.ordered' hcarried.agree
      refine ⟨?_, ?_, _, _, hcalls.cons hi, hcalls'.cons hj, ?_⟩
      · rw [runFrom_cons_of_accept hi, runFrom_cons_of_accept hj, houtcome.error?_eq, hleft]
      · rw [runFrom_cons_of_accept hi, runFrom_cons_of_accept hj]
        exact houtcome.of_carried hcarried
      · rw [houtcome.error?_eq]
        exact .cons hcall (List.rel_append hpairs (.cons (.after place request _) .nil))
    | reject =>
      refine ⟨?_, ?_, _, _, notes_of_reject hi, notes_of_reject hj, .cons hcall .nil⟩
      · rw [runFrom_cons_of_reject hi, runFrom_cons_of_reject hj]
      · rw [runFrom_cons_of_reject hi, runFrom_cons_of_reject hj]
        exact .error _
    | fail e =>
      refine ⟨?_, ?_, _, _, notes_of_fail hi, notes_of_fail hj, .cons hcall .nil⟩
      · rw [runFrom_cons_of_fail hi, runFrom_cons_of_fail hj]
      · rw [runFrom_cons_of_fail hi, runFrom_cons_of_fail hj]
        exact .error e

/-! ## Behind the interceptor for the token -/

/-- The attributes with which a chain starts behind the interceptor for the token. -/
def copied (token? : Option CsrfToken) : SessionAttributes :=
  match token? with
  | some token => SessionAttributes.insert {} CsrfToken.attributeName token.toJson
  | none => {}

theorem ordered_copied (token? : Option CsrfToken) : (copied token?).Ordered := by
  cases token? with
  | none => exact ordered_empty
  | some token => exact ordered_empty.insert _ _

theorem agreesBut_copied (token? : Option CsrfToken) : AgreesBut CsrfToken.attributeName {} (copied token?) := by
  cases token? with
  | none => exact .refl _ _
  | some token => exact agreesBut_insert {} _ _

theorem isSome_get?_copied (token? : Option CsrfToken) :
    ((copied token?).get? CsrfToken.attributeName).isSome = token?.isSome := by
  cases token? with
  | none => rfl
  | some token =>
    have hget : (copied (some token)).get? CsrfToken.attributeName = some token.toJson :=
      SessionAttributes.get?_insert_self {} _ _
    rw [hget]
    rfl

theorem run_csrfToken_cons (repository : TokenRepository) (chain : List (HandshakeInterceptor ω)) (request : HttpRequest)
    (s : Exchange ω) :
    run (.csrfToken repository :: chain) request s =
      runFrom request chain (copied (HandshakeInterceptor.requestToken? repository request s.session)) s := by
  have hcopy : (HandshakeInterceptor.csrfToken repository).before request {} s =
      (.accept (copied (HandshakeInterceptor.requestToken? repository request s.session)), s) := by
    simp only [HandshakeInterceptor.csrfToken, copied]
    cases HandshakeInterceptor.requestToken? repository request s.session with
    | none => rfl
    | some token => rfl
  exact runFrom_cons_of_accept hcopy

theorem isSome_requestToken?_iff (repository : TokenRepository) (request : HttpRequest) (session : HttpSession) :
    (HandshakeInterceptor.requestToken? repository request session).isSome = true ↔
      request.token.isSome = true ∨ (repository.load session).isSome = true := by
  unfold HandshakeInterceptor.requestToken?
  cases request.token with
  | some token => simp
  | none => simp

/-- What a chain comes to behind the interceptor for the token, compared with the chain itself. -/
structure ChangesNothingElse (repository : TokenRepository) (chain : List (HandshakeInterceptor ω)) (request : HttpRequest)
    (s : Exchange ω) : Prop where
  /-- The handshake succeeds exactly when it succeeds without the interceptor. -/
  succeeds : (∃ answer, (run (.csrfToken repository :: chain) request s).1 = .ok answer) ↔
    ∃ answer, (run chain request s).1 = .ok answer
  /-- It fails exactly when it fails without it, and with the same error. -/
  fails : ∀ e, (run (.csrfToken repository :: chain) request s).1 = .error e ↔ (run chain request s).1 = .error e
  /-- Every attribute but the token is there with the same value, or is in neither. -/
  attributes : ∀ answer answer', (run chain request s).1 = .ok answer →
    (run (.csrfToken repository :: chain) request s).1 = .ok answer' →
      ∀ name, name ≠ CsrfToken.attributeName → answer'.get? name = answer.get? name
  /-- The token is there exactly when the request has one, or its repository has. -/
  token : ∀ answer, (run (.csrfToken repository :: chain) request s).1 = .ok answer →
    (answer.contains CsrfToken.attributeName = true ↔
      request.token.isSome = true ∨ (repository.load s.session).isSome = true)
  /-- The interceptors of the chain get the same calls in the same order, but for the token among the attributes. -/
  calls : ∃ calls calls',
    run (tracedFrom 0 chain) request (s.withTrace []) =
      ((run chain request s).1, (run chain request s).2.withTrace calls) ∧
    run (.csrfToken repository :: tracedFrom 0 chain) request (s.withTrace []) =
      ((run (.csrfToken repository :: chain) request s).1,
        (run (.csrfToken repository :: chain) request s).2.withTrace calls') ∧
    List.Forall₂ (HandshakeCall.AgreesBut CsrfToken.attributeName) calls calls'
  /-- And so the same is left behind. -/
  exchange : (run (.csrfToken repository :: chain) request s).2 = (run chain request s).2

/-- **The interceptor for the token changes nothing else.**  For every chain of interceptors that neither read nor write the
attribute of the token, whatever they do otherwise, for every repository and every request. -/
theorem csrfToken_changes_nothing_else {chain : List (HandshakeInterceptor ω)}
    (hignores : ∀ i ∈ chain, i.Ignores CsrfToken.attributeName) (repository : TokenRepository) (request : HttpRequest)
    (s : Exchange ω) : ChangesNothingElse repository chain request s := by
  have hstart := ordered_copied (HandshakeInterceptor.requestToken? repository request s.session)
  have hagree := agreesBut_copied (HandshakeInterceptor.requestToken? repository request s.session)
  obtain ⟨hexchange, houtcome, calls, calls', hcalls, hcalls', hpairs⟩ :=
    runFrom_alike chain 0 s hignores ordered_empty hstart hagree
  rw [← run_csrfToken_cons] at hexchange houtcome
  refine ⟨houtcome.ok_iff, houtcome.error_iff, fun answer answer' h h' name hne => ?_, fun answer h => ?_, ?_, hexchange⟩
  · obtain ⟨_, hanswer, hcarried⟩ := houtcome.exists_carried h'
    cases h.symm.trans hanswer
    exact (hcarried.agree name hne).symm
  · obtain ⟨_, -, hcarried⟩ := houtcome.exists_carried h
    rw [SessionAttributes.contains, hcarried.kept', isSome_get?_copied, isSome_requestToken?_iff]
  · refine ⟨calls, calls', hcalls [], ?_, hpairs⟩
    rw [run_csrfToken_cons, run_csrfToken_cons]
    exact hcalls' []

/-- Notes the language of every session and forgets its draft. -/
def languageRecorder : HandshakeRecorder where
  label := "language"
  inserted := [("language", .string "en")]
  erased := ["draft"]

/-- An exchange whose session holds a token. -/
def remembered : Exchange Journal where
  ambient := none
  world := []
  session := { members := [(SessionTokenSettings.key {}, .string "t0")] }
  secrets := .counted 0

theorem csrfToken_changes_nothing_else_recorded :
    ChangesNothingElse (.inSession {}) [languageRecorder.interceptor, .origin {}] {} remembered := by
  refine csrfToken_changes_nothing_else (fun i hi => ?_) _ _ _
  rcases List.mem_cons.1 hi with rfl | hi
  · exact languageRecorder.ignores_interceptor (by decide) (by decide) rfl
  · rw [List.mem_singleton.1 hi]
    exact HandshakeInterceptor.ignores_origin _ _

end Handshake
end BrokerGuard
