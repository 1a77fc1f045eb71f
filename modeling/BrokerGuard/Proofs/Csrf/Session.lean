import BrokerGuard.Csrf.Filter
import BrokerGuard.Proofs.Http.Arrivals
import BrokerGuard.Proofs.Message.Attributes
import BrokerGuard.Proofs.Pattern.Ant
/-!
# The CSRF filter over a session

A session has one token from its first request on (`session_has_one_token`): the text that it came with, else the secret
drawn for that request.  What a request has to repeat is said in terms of its header and of the pairs of its query
(`Submits`), and which requests reach the service follows (`Answered`), one by one over the run (`Handled`).
-/
namespace BrokerGuard

variable {ω : Type}

theorem HttpSession.get?_insert_self (s : HttpSession) (name : String) (value : Json) :
    (s.insert name value).get? name = some value :=
  Json.lookup_putMember_self name value s.members

theorem HttpSession.get?_insert_of_ne (s : HttpSession) {name other : String} (h : other ≠ name) (value : Json) :
    (s.insert name value).get? other = s.get? other :=
  Json.lookup_putMember_of_ne h value s.members

/-- The token with a given text. -/
def SessionTokenSettings.token (settings : SessionTokenSettings) (value : String) : CsrfToken :=
  ⟨value, settings.headerName, settings.parameterName⟩

namespace CsrfFilter

variable {c : CsrfConfig} {token : CsrfToken} {r : HttpRequest} {s : Exchange ω}

/-! ## The submitted token -/

theorem queryPairs_eq_splitOn : ∀ cs : List Char, queryPairs cs = cs.splitOn '&' := by
  have hpieces : ∀ cs : List Char, queryPairs cs = Pattern.pieces '&' cs := by
    intro cs
    induction cs with
    | nil => rfl
    | cons c cs ih =>
      unfold queryPairs
      rw [ih]
      rfl
  intro cs
  rw [hpieces, Pattern.pieces_eq_splitOn]

theorem after?_eq_some_iff {beginning cs rest : List Char} : after? beginning cs = some rest ↔ cs = beginning ++ rest := by
  unfold after?
  constructor
  · intro h
    split at h
    · rename_i hprefix
      obtain ⟨tail, rfl⟩ := List.isPrefixOf_iff_prefix.1 hprefix
      rw [List.drop_left, Option.some.injEq] at h
      rw [h]
    · cases h
  · rintro rfl
    rw [if_pos (List.isPrefixOf_iff_prefix.2 (List.prefix_append beginning rest)), List.drop_left]

theorem after?_eq_none_iff {beginning cs : List Char} : after? beginning cs = none ↔ ¬ beginning <+: cs := by
  simp [after?]

/-- The value is what follows the name and an equals sign in the first pair of the query that begins so. -/
def HasParameter (r : HttpRequest) (name value : String) : Prop :=
  ∃ before after, (r.uri.query.getD "").toList.splitOn '&' = before ++ (name.toList ++ '=' :: value.toList) :: after ∧
    ∀ pair ∈ before, ¬ name.toList ++ ['='] <+: pair

theorem parameter?_eq_some_iff {name value : String} : parameter? r name = some value ↔ HasParameter r name value := by
  have hpair (rest : List Char) : (name.toList ++ ['=']) ++ rest = name.toList ++ '=' :: rest := by
    rw [List.append_assoc, List.singleton_append]
  unfold parameter? HasParameter
  rw [queryPairs_eq_splitOn, Option.map_eq_some_iff]
  constructor
  · rintro ⟨rest, hfirst, rfl⟩
    obtain ⟨before, pair, after, hsplit, hrest, hbefore⟩ := List.findSome?_eq_some_iff.1 hfirst
    refine ⟨before, after, ?_, fun other hother => after?_eq_none_iff.1 (hbefore other hother)⟩
    rw [hsplit, after?_eq_some_iff.1 hrest, hpair, String.toList_ofList]
  · rintro ⟨before, after, hsplit, hbefore⟩
    refine ⟨value.toList, List.findSome?_eq_some_iff.2 ⟨before, _, after, hsplit, ?_, ?_⟩, String.ofList_toList⟩
    · exact after?_eq_some_iff.2 (hpair value.toList).symm
    · exact fun other hother => after?_eq_none_iff.2 (hbefore other hother)

/-- The request submits the value: the first value of the header reads as this text, or it reads as none, also because it
is not there, and the parameter of the query has the value. -/
def Submits (r : HttpRequest) (token : CsrfToken) (value : String) : Prop :=
  (∃ header, r.header? token.headerName = some header ∧ header.text? = some value) ∨
    (∀ header, r.header? token.headerName = some header → header.text? = none) ∧ HasParameter r token.parameterName value

theorem submitted?_eq_some_iff {value : String} : submitted? r token = some value ↔ Submits r token value := by
  unfold submitted? Submits HttpRequest.headerText?
  rw [← parameter?_eq_some_iff]
  cases r.header? token.headerName with
  | none => simp
  | some header =>
    cases htext : header.text? with
    | none => simp [htext]
    | some text => simp [htext]

theorem submitted?_eq_none_iff : submitted? r token = none ↔ ∀ value, ¬ Submits r token value := by
  rw [Option.eq_none_iff_forall_ne_some]
  exact forall_congr' fun value => not_congr submitted?_eq_some_iff

/-! ## One request -/

/-- The request needs no token: its method is not protected, or a pattern ignores its path. -/
def Exempt (c : CsrfConfig) (r : HttpRequest) : Prop :=
  r.method ∉ c.protectedMethods ∨ ∃ pattern ∈ c.ignoredPaths, pattern.matchesSomewhere r.path.toList = true

def Passes (c : CsrfConfig) (token : CsrfToken) (r : HttpRequest) : Prop := Exempt c r ∨ Submits r token token.value

theorem demandsToken_iff : c.demandsToken r = true ↔ ¬ Exempt c r := by
  simp [CsrfConfig.demandsToken, CsrfConfig.isIgnored, Exempt]

/-- What comes of a request when the token of the session is known. -/
inductive Answered (c : CsrfConfig) (token : CsrfToken) (inner : Service ω) (r : HttpRequest) (s : Exchange ω) :
    List Arrival → HttpResponse → Exchange ω → Prop where
  /-- The service answers, and finds the token at the request. -/
  | passed (h : Passes c token r) :
      Answered c token inner r s [⟨{ r with token := some token }, s.ambient.user?⟩]
        (inner { r with token := some token } s).1 (inner { r with token := some token } s).2
  | missing (h : ¬ Passes c token r) (hnone : ∀ value, ¬ Submits r token value) :
      Answered c token inner r s [] { status := 403, body := .text "CSRF token missing" } s
  | invalid (value : String) (h : ¬ Passes c token r) (hvalue : Submits r token value) :
      Answered c token inner r s [] { status := 403, body := .text "Invalid CSRF token" } s

/-- The filter with a known token. -/
def answer (c : CsrfConfig) (token : CsrfToken) (inner : Service ω) : Service ω := fun r =>
  match check c r token with
  | .error e => pure (refusal e)
  | .ok () => inner { r with token := some token }

theorem check_of_demands (h : ¬ Exempt c r) : check c r token =
    match submitted? r token with
    | some value => if token.accepts value then .ok () else .error .invalidToken
    | none => .error .missingToken := by
  unfold check
  exact if_pos (demandsToken_iff.2 h)

theorem check_of_passes (h : Passes c token r) : check c r token = .ok () := by
  by_cases hexempt : Exempt c r
  · unfold check
    rw [if_neg fun hdemands => demandsToken_iff.1 hdemands hexempt]
  · have hsubmits := h.resolve_left hexempt
    rw [check_of_demands hexempt, submitted?_eq_some_iff.2 hsubmits]
    exact if_pos (beq_self_eq_true token.value)

theorem check_of_missing (h : ¬ Passes c token r) (hnone : ∀ value, ¬ Submits r token value) :
    check c r token = .error .missingToken := by
  rw [check_of_demands fun hexempt => h (.inl hexempt), submitted?_eq_none_iff.2 hnone]

theorem check_of_invalid {value : String} (h : ¬ Passes c token r) (hvalue : Submits r token value) :
    check c r token = .error .invalidToken := by
  have hother : ¬ token.accepts value = true := by
    intro haccepts
    have heq : token.value = value := beq_iff_eq.1 haccepts
    exact h (.inr (heq ▸ hvalue))
  rw [check_of_demands fun hexempt => h (.inl hexempt), submitted?_eq_some_iff.2 hvalue]
  exact if_neg hother

/-- One request and all that comes of it, with and without a note of what arrives. -/
theorem exists_answered (c : CsrfConfig) (token : CsrfToken) (inner : Service ω) (r : HttpRequest) (s : Exchange ω) :
    ∃ arrivals response after, Answered c token inner r s arrivals response after ∧
      answer c token inner r s = (response, after) ∧
      ∀ earlier, answer c token (Service.noting inner) r (s.withArrivals earlier) =
        (response, after.withArrivals (earlier ++ arrivals)) := by
  have hrefused {e : CsrfError} (hcheck : check c r token = .error e) :
      answer c token inner r s = (refusal e, s) ∧
        ∀ earlier, answer c token (Service.noting inner) r (s.withArrivals earlier) =
          (refusal e, s.withArrivals (earlier ++ [])) := by
    unfold answer
    rw [hcheck]
    refine ⟨rfl, fun earlier => ?_⟩
    rw [List.append_nil]
    rfl
  by_cases hpasses : Passes c token r
  · refine ⟨_, _, _, .passed hpasses, ?_, fun earlier => ?_⟩
    · unfold answer
      rw [check_of_passes hpasses]
      rfl
    · unfold answer
      rw [check_of_passes hpasses]
      exact Service.noting_withArrivals inner _ s earlier
  · by_cases hsubmits : ∃ value, Submits r token value
    · obtain ⟨value, hvalue⟩ := hsubmits
      exact ⟨_, _, _, .invalid value hpasses hvalue, hrefused (check_of_invalid hpasses hvalue)⟩
    · have hnone := not_exists.1 hsubmits
      exact ⟨_, _, _, .missing hpasses hnone, hrefused (check_of_missing hpasses hnone)⟩

/-! ## The token of the session -/

section Session

variable {settings : SessionTokenSettings}

/-- The token of a session from its first request on, and the exchange in which the filter has it. -/
inductive Opens (settings : SessionTokenSettings) (s : Exchange ω) : CsrfToken → Exchange ω → Prop where
  | stored (value : String) (h : s.session.get? settings.key = some (.string value)) :
      Opens settings s (settings.token value) s
  /-- There is no text under the name: a secret is drawn and kept there. -/
  | generated (h : ∀ value, s.session.get? settings.key ≠ some (.string value)) :
      Opens settings s (settings.token s.secrets.next)
        { s with session := s.session.insert settings.key (.string s.secrets.next), secrets := s.secrets.rest }

theorem exists_opens (settings : SessionTokenSettings) (s : Exchange ω) : ∃ token start, Opens settings s token start := by
  by_cases h : ∃ value, s.session.get? settings.key = some (.string value)
  · obtain ⟨value, hvalue⟩ := h
    exact ⟨_, _, .stored value hvalue⟩
  · exact ⟨_, _, .generated (not_exists.1 h)⟩

/-- The session keeps the token. -/
def Keeps (settings : SessionTokenSettings) (token : CsrfToken) (s : Exchange ω) : Prop :=
  ∃ value, token = settings.token value ∧ s.session.get? settings.key = some (.string value)

theorem Keeps.opens (h : Keeps settings token s) : Opens settings s token s := by
  obtain ⟨value, rfl, hvalue⟩ := h
  exact .stored value hvalue

theorem Opens.keeps {start : Exchange ω} (h : Opens settings s token start) : Keeps settings token start := by
  cases h with
  | stored value hvalue => exact ⟨value, rfl, hvalue⟩
  | generated _ => exact ⟨s.secrets.next, rfl, s.session.get?_insert_self settings.key _⟩

theorem Opens.get?_of_ne {start : Exchange ω} (h : Opens settings s token start) {name : String} (hname : name ≠ settings.key) :
    start.session.get? name = s.session.get? name := by
  cases h with
  | stored _ _ => rfl
  | generated _ => exact s.session.get?_insert_of_ne hname _

theorem load_of_string {session : HttpSession} {value : String} (h : session.get? settings.key = some (.string value)) :
    (TokenRepository.inSession settings).load session = some (settings.token value) := by
  unfold TokenRepository.inSession
  dsimp only
  rw [h]
  rfl

theorem load_of_no_string {session : HttpSession} (h : ∀ value, session.get? settings.key ≠ some (.string value)) :
    (TokenRepository.inSession settings).load session = none := by
  have hnone : (session.get? settings.key).bind Json.string? = none := by
    cases hget : session.get? settings.key with
    | none => rfl
    | some json =>
      cases json with
      | string value => exact absurd hget (h value)
      | _ => rfl
  unfold TokenRepository.inSession
  dsimp only
  rw [hnone]

theorem loadOrGenerate_of_opens {start : Exchange ω} (h : Opens settings s token start) :
    (TokenRepository.inSession settings).loadOrGenerate s = (.ok token, start) := by
  unfold TokenRepository.loadOrGenerate
  cases h with
  | stored value hvalue =>
    simp only [bind, StateT.bind, get, getThe, MonadStateOf.get, StateT.get, pure, load_of_string hvalue]
    rfl
  | generated hnone =>
    simp only [bind, StateT.bind, get, getThe, MonadStateOf.get, StateT.get, pure, load_of_no_string hnone]
    rfl

theorem guard_of_opens (hrepository : c.repository = .inSession settings) (inner : Service ω) {start : Exchange ω}
    (h : Opens settings s token start) (r : HttpRequest) : guard c inner r s = answer c token inner r start := by
  unfold guard
  simp only [bind, StateT.bind, hrepository, loadOrGenerate_of_opens h]
  rfl

/-! ## The requests of the session -/

/-- What comes of requests one after the other, all with one token. -/
inductive Handled (c : CsrfConfig) (token : CsrfToken) (inner : Service ω) :
    List HttpRequest → Exchange ω → List Arrival → List HttpResponse → Exchange ω → Prop where
  | nil (s : Exchange ω) : Handled c token inner [] s [] [] s
  | cons {r : HttpRequest} {rest : List HttpRequest} {s after final : Exchange ω} {arrivals more : List Arrival}
      {response : HttpResponse} {responses : List HttpResponse}
      (head : Answered c token inner r s arrivals response after)
      (tail : Handled c token inner rest after more responses final) :
      Handled c token inner (r :: rest) s (arrivals ++ more) (response :: responses) final

/-- A run of the filter from `s`, in which it has the token since `start`. -/
structure Run (c : CsrfConfig) (settings : SessionTokenSettings) (inner : Service ω) (token : CsrfToken)
    (requests : List HttpRequest) (s start : Exchange ω) (arrivals : List Arrival) (responses : List HttpResponse)
    (final : Exchange ω) : Prop where
  handled : Handled c token inner requests start arrivals responses final
  kept : Keeps settings token final
  run : requests.mapM (guard c inner) s = (responses, final)
  noted : ∀ earlier, requests.mapM (guard c (Service.noting inner)) (s.withArrivals earlier) =
    (responses, final.withArrivals (earlier ++ arrivals))

theorem Opens.withArrivals {start : Exchange ω} (h : Opens settings s token start) (arrivals : List Arrival) :
    Opens settings (s.withArrivals arrivals) token (start.withArrivals arrivals) := by
  cases h with
  | stored value hvalue => exact .stored value hvalue
  | generated hnone => exact .generated hnone

theorem mapM_cons_eq (f : Service ω) (r : HttpRequest) (rest : List HttpRequest) (s : Exchange ω) :
    (r :: rest).mapM f s = ((f r s).1 :: (rest.mapM f (f r s).2).1, (rest.mapM f (f r s).2).2) := by
  rw [List.mapM_cons]
  rfl

variable {inner : Service ω}

theorem Answered.keeps (hkey : ∀ r s, (inner r s).2.session.get? settings.key = s.session.get? settings.key)
    {arrivals : List Arrival} {response : HttpResponse} {after : Exchange ω}
    (h : Answered c token inner r s arrivals response after) (hkeeps : Keeps settings token s) :
    Keeps settings token after := by
  obtain ⟨value, rfl, hvalue⟩ := hkeeps
  refine ⟨value, rfl, ?_⟩
  cases h with
  | passed _ => rw [hkey, hvalue]
  | missing _ _ => exact hvalue
  | invalid _ _ _ => exact hvalue

section Run

variable (hrepository : c.repository = .inSession settings)
  (hkey : ∀ r s, (inner r s).2.session.get? settings.key = s.session.get? settings.key)
include hrepository hkey

/-- The first request of a run.  The session keeps the token from then on, whether or not it came with it. -/
theorem exists_run_cons {start : Exchange ω} (hopens : Opens settings s token start) (r : HttpRequest)
    {rest : List HttpRequest} (hrest : ∀ after, Keeps settings token after →
      ∃ arrivals responses final, Run c settings inner token rest after after arrivals responses final) :
    ∃ arrivals responses final, Run c settings inner token (r :: rest) s start arrivals responses final := by
  obtain ⟨arrivals, response, after, hanswered, hanswer, hnoted⟩ := exists_answered c token inner r start
  obtain ⟨more, responses, final, htail⟩ := hrest after (hanswered.keeps hkey hopens.keeps)
  refine ⟨_, _, _, .cons hanswered htail.handled, htail.kept, ?_, fun earlier => ?_⟩
  · rw [mapM_cons_eq, guard_of_opens hrepository inner hopens, hanswer, htail.run]
  · rw [mapM_cons_eq, guard_of_opens hrepository (Service.noting inner) (hopens.withArrivals earlier), hnoted, htail.noted,
      List.append_assoc]

theorem exists_run (requests : List HttpRequest) : ∀ s, Keeps settings token s →
    ∃ arrivals responses final, Run c settings inner token requests s s arrivals responses final := by
  induction requests with
  | nil =>
    intro s hkeeps
    refine ⟨_, _, _, .nil s, hkeeps, rfl, fun earlier => ?_⟩
    rw [List.append_nil]
    rfl
  | cons r rest ih =>
    intro s hkeeps
    exact exists_run_cons hrepository hkey hkeeps.opens r ih

end Run

/-- **A session has one token.**  Whatever a session came with, the first request finds a text under the name of the
repository or draws one; with the token of this text every request is handled, those that reach the service carry it, and
nothing else in the session is changed by the filter. -/
theorem session_has_one_token (hrepository : c.repository = .inSession settings)
    (hkey : ∀ r s, (inner r s).2.session.get? settings.key = s.session.get? settings.key)
    (first : HttpRequest) (rest : List HttpRequest) (s : Exchange ω) :
    ∃ token start arrivals responses final, Opens settings s token start ∧
      (∀ name, name ≠ settings.key → start.session.get? name = s.session.get? name) ∧
      Run c settings inner token (first :: rest) s start arrivals responses final := by
  obtain ⟨token, start, hopens⟩ := exists_opens settings s
  obtain ⟨arrivals, responses, final, hrun⟩ := exists_run_cons hrepository hkey hopens first (exists_run hrepository hkey rest)
  exact ⟨token, start, arrivals, responses, final, hopens, fun _ hname => hopens.get?_of_ne hname, hrun⟩

end Session

/-- Other names than the usual ones. -/
def ownNames : SessionTokenSettings := { key := "XSRF", headerName := "X-Xsrf", parameterName := "xsrf" }

def postsOnly : CsrfConfig := { repository := .inSession ownNames, protectedMethods := ["POST"] }

/-- Counts its requests, in the session too. -/
def countingVisits : Service Nat := fun _ s =>
  ({ status := 200 }, { s with world := s.world + 1, session := s.session.insert "visits" (.string (toString s.world)) })

/-- A session with a value under the name that is no text. -/
def foreignSession : Exchange Nat := { ambient := none, world := 0, session := ⟨[("XSRF", .null)], false⟩, secrets := ⟨toString, 7⟩ }

def submitting (query : String) : HttpRequest := { method := "POST", uri := { path := "/orders", query := some query } }

theorem session_has_one_token_foreign :
    ∃ token start arrivals responses final, Opens ownNames foreignSession token start ∧
      (∀ name, name ≠ "XSRF" → start.session.get? name = foreignSession.session.get? name) ∧
      Run postsOnly ownNames countingVisits token [{}, submitting "id=1", submitting "id=1&xsrf=7&xsrf=8", submitting "xsrf=8"]
        foreignSession start arrivals responses final := by
  have hkey (r : HttpRequest) (s : Exchange Nat) :
      (countingVisits r s).2.session.get? ownNames.key = s.session.get? ownNames.key :=
    s.session.get?_insert_of_ne (by decide) _
  exact session_has_one_token rfl hkey _ _ foreignSession

example : (([{}, submitting "id=1", submitting "id=1&xsrf=7&xsrf=8", submitting "xsrf=8"].mapM (guard postsOnly countingVisits)
    foreignSession).1.map HttpResponse.status) = [200, 403, 200, 403] := rfl

end CsrfFilter
end BrokerGuard
