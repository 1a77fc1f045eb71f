import BrokerGuard.Proofs.Handshake.Origin
import BrokerGuard.Proofs.Handshake.WebOrigin
import Mathlib.Data.List.Forall2
/-!
# Allowed origins — what the list of a policy means

An entry of the list is a star, an origin, or a star in front of a domain (`OriginEntry`); what it admits is said of the
parts of an origin (`OriginEntry.Admits`).  The server welcomes its own origin and those that an entry admits
(`Welcomes`).

The comparison of texts decides this (`OriginPolicy.accepts_iff_welcomes`): no part of an origin is taken for another one.
The check as a whole follows the list where the value of the header can be read; a value that cannot is let pass unless an
origin is demanded, whatever the list means (`OriginPolicy.check_follows_list_iff`).
-/
namespace BrokerGuard

open OriginPolicy (trimSlashes entryAllows afterScheme? inDomain isOwn)

/-- An entry of the list of allowed origins. -/
inductive OriginEntry where
  | every
  | site (origin : WebOrigin)
  | under (domain : HostName)

namespace OriginEntry

/-- The text is a way to write the entry. -/
def Writes : OriginEntry → String → Prop
  | every, text => text = "*"
  | site origin, text => origin.Writes text
  | under domain, text => ∃ slashes, text.toList = '*' :: '.' :: (domain.text ++ List.replicate slashes '/')

/-- The entry admits the origin: every one, the same one, or one whose labels end with those of the domain and whose port
is missing or the default one. -/
def Admits (origin : WebOrigin) : OriginEntry → Prop
  | every => True
  | site other => origin.Same other
  | under domain => domain.lower.labels <:+ origin.host.lower.labels ∧
      (origin.port = none ∨ origin.port = defaultPort? origin.lower.scheme)

end OriginEntry

/-- The origins that the server welcomes: its own and those that an entry admits. -/
def Welcomes (own : WebOrigin) (entries : List OriginEntry) (origin : WebOrigin) : Prop :=
  origin.Same own ∨ ∃ entry ∈ entries, entry.Admits origin

/-! ## Entries -/

theorem afterScheme?_append {scheme : List Char} (h : ':' ∉ scheme) (rest : List Char) :
    afterScheme? (scheme ++ ':' :: '/' :: '/' :: rest) = some rest := by
  induction scheme with
  | nil => rfl
  | cons c scheme ih =>
    rw [List.mem_cons, not_or] at h
    rw [List.cons_append]
    unfold afterScheme?
    split
    · rename_i heq
      cases heq
    · rename_i heq
      exact absurd (List.cons.inj heq).1.symm h.1
    · rename_i heq
      obtain ⟨-, rfl⟩ := List.cons.inj heq
      exact ih h.2

theorem inDomain_iff {domain : HostName} {origin : WebOrigin} :
    inDomain domain.text origin.authority = true ↔ domain.labels <:+ origin.host.labels ∧ origin.port = none := by
  rw [inDomain, Bool.or_eq_true, beq_iff_eq, List.isSuffixOf_iff_suffix, WebOrigin.authority]
  cases hport : origin.port with
  | none =>
    rw [WebOrigin.portText, List.append_nil, HostName.suffix_iff]
    exact (and_iff_left rfl).symm
  | some digits =>
    -- no part of a port is taken for a label, and no domain has a colon
    refine iff_of_false ?_ (fun h => absurd h.2 (by simp))
    have hdot : '.' ∉ ':' :: digits := by
      rw [List.mem_cons, not_or]
      exact ⟨by decide, fun hmem => absurd ((origin.isPort digits hport).2 _ hmem) (by decide)⟩
    have hcolon : ':' ∉ '.' :: domain.text := by
      rw [List.mem_cons, not_or]
      exact ⟨by decide, domain.colon_not_mem_text⟩
    rintro (heq | hsuffix)
    · have hmem : ':' ∈ domain.text := heq ▸ List.mem_append_right _ List.mem_cons_self
      exact domain.colon_not_mem_text hmem
    · rcases List.suffix_or_suffix_of_suffix hsuffix (List.suffix_append _ _) with h | h
      · exact hdot (h.subset List.mem_cons_self)
      · exact hcolon (h.subset List.mem_cons_self)

theorem WebOrigin.canonical_port_eq_none_iff {origin : WebOrigin} :
    origin.canonical.port = none ↔ origin.port = none ∨ origin.port = defaultPort? origin.lower.scheme := by
  rw [canonical_port]
  split
  · rename_i hdefault
    exact iff_of_true rfl (.inr hdefault)
  · rename_i hdefault
    rw [or_iff_left hdefault]

theorem WebOrigin.text_ne_star (origin : WebOrigin) (cs : List Char) : origin.text ≠ '*' :: cs := by
  obtain ⟨c, rest, hscheme⟩ := List.exists_cons_of_ne_nil origin.scheme_ne_nil
  rw [text, hscheme, List.cons_append]
  intro heq
  have hstar : '*' ∈ origin.scheme := by
    rw [hscheme, (List.cons.inj heq).1]
    exact List.mem_cons_self
  exact absurd (origin.isAlphabetic _ hstar) (by decide)

/-- **An entry allows what it admits.** -/
theorem entryAllows_iff {entry : OriginEntry} {origin : WebOrigin} {text text' : String} (hentry : entry.Writes text)
    (horigin : origin.Writes text') : entryAllows (OriginPolicy.normalize text'.toList) text = true ↔ entry.Admits origin := by
  cases entry with
  | every =>
    rw [show text = "*" from hentry, entryAllows, if_pos rfl]
    exact iff_of_true rfl trivial
  | site other =>
    have hentry : other.Writes text := hentry
    have htrim := WebOrigin.trimSlashes_of_writes hentry
    have hne : text ≠ "*" := by
      rintro rfl
      exact other.text_ne_star [] htrim.symm
    rw [entryAllows, if_neg hne, htrim]
    split
    · rename_i domain heq
      exact absurd heq (other.text_ne_star _)
    · rw [beq_iff_eq, WebOrigin.normalize_eq_iff horigin hentry]
      rfl
  | under domain =>
    obtain ⟨slashes, htext⟩ := hentry
    have hne : text ≠ "*" := by
      rintro rfl
      cases htext
    have htrim : trimSlashes text.toList = '*' :: '.' :: domain.text := by
      rw [htext]
      exact OriginPolicy.trimSlashes_append ['*', '.'] domain.text_ne_nil domain.slash_not_mem_text slashes
    have hafter : afterScheme? origin.canonical.text = some origin.canonical.authority :=
      afterScheme?_append origin.canonical.colon_not_mem_scheme _
    rw [entryAllows, if_neg hne, htrim]
    simp only [horigin.normalize_eq, hafter, HostName.map_toLower_text]
    rw [inDomain_iff, WebOrigin.canonical_host, WebOrigin.canonical_port_eq_none_iff]
    rfl

/-! ## Hosts that only look like one of the domain -/

/-- The host looks as if it belonged to the domain: it has a text right in front of the first label of the domain, or a label
of its own behind the last one. -/
inductive HostName.Mimics (domain host : HostName) : Prop
  | extended {front rest : List (List Char)} {first extra : List Char} (hdomain : domain.lower.labels = first :: rest)
      (hhost : host.lower.labels = front ++ (extra ++ first) :: rest) (hextra : extra ≠ [])
  | followed {front : List (List Char)} {label : List Char}
      (hhost : host.lower.labels = front ++ domain.lower.labels ++ [label])
      (hlabel : label ∉ domain.lower.labels.getLast?)

/-- **No origin of such a host is admitted.** -/
theorem HostName.Mimics.not_admits {domain : HostName} {origin : WebOrigin} (h : domain.Mimics origin.host) :
    ¬ (OriginEntry.under domain).Admits origin := by
  rintro ⟨hsuffix, -⟩
  cases h with
  | @extended front rest first extra hdomain hhost hextra =>
    rw [hdomain, hhost] at hsuffix
    obtain ⟨before, heq⟩ := hsuffix
    -- both ends of the host have as many labels
    obtain ⟨-, hends⟩ := List.append_inj' heq rfl
    have hlength := congrArg List.length (List.cons.inj hends).1
    rw [List.length_append] at hlength
    have hpositive := List.length_pos_of_ne_nil hextra
    omega
  | @followed front label hhost hlabel =>
    rw [hhost] at hsuffix
    obtain ⟨before, heq⟩ := hsuffix
    obtain ⟨body, last, hdomain⟩ := (List.eq_nil_or_concat _).resolve_left domain.lower.ne_nil
    rw [hdomain, List.concat_eq_append, ← List.append_assoc] at heq
    have hlast := (List.append_inj' heq rfl).2
    rw [hdomain, List.concat_eq_append, List.getLast?_concat] at hlabel
    exact hlabel (by rw [(List.cons.inj hlast).1]; rfl)

namespace OriginPolicy

variable {p : OriginPolicy} {r : HttpRequest} {own origin : WebOrigin} {entries : List OriginEntry} {text : String}

theorem allows_iff (hentries : List.Forall₂ OriginEntry.Writes entries p.allowed) (horigin : origin.Writes text) :
    p.allows text = true ↔ ∃ entry ∈ entries, entry.Admits origin := by
  unfold allows
  generalize p.allowed = texts at hentries
  induction hentries with
  | nil => simp
  | cons hentry _ ih => rw [List.any_cons, Bool.or_eq_true, entryAllows_iff hentry horigin, ih, List.exists_mem_cons_iff]

/-- **The comparison of texts says which origins are welcome.** -/
theorem accepts_iff_welcomes (hentries : List.Forall₂ OriginEntry.Writes entries p.allowed)
    (hown : own.Writes (OwnOrigin.text r)) (horigin : origin.Writes text) :
    p.Accepts r text ↔ Welcomes own entries origin := by
  rw [Accepts, isOwn, beq_iff_eq, eq_comm, WebOrigin.normalize_eq_iff horigin hown, allows_iff hentries horigin]
  rfl

/-- **The check follows the list exactly where the value of the header is readable, or where the list happens to mean what
the check does with a value that is not.**  It lets such a value pass unless an origin is demanded.  What is readable and
not welcome is refused with its text, and no entry for a domain lets a host pass that only looks like one of it. -/
theorem check_follows_list_iff (hany : p.allowAny = false)
    (hentries : List.Forall₂ OriginEntry.Writes entries p.allowed) (hown : own.Writes (OwnOrigin.text r))
    (horigin : origin.Writes text) (hheader : r.header? "origin" = some (.ofText text)) :
    ((p.check r = .ok () ↔ Welcomes own entries origin) ↔
      HeaderValue.Readable text ∨ (p.requireOrigin = false ↔ Welcomes own entries origin)) ∧
    (HeaderValue.Readable text → ¬ Welcomes own entries origin → p.check r = .error (.invalidOrigin text)) ∧
    ∀ (domain : HostName) (entry : String), (OriginEntry.under domain).Writes entry → domain.Mimics origin.host →
      entryAllows (OriginPolicy.normalize text.toList) entry = false := by
  have haccepts := accepts_iff_welcomes hentries hown horigin
  have htext := HttpRequest.headerText?_of_header? hheader
  refine ⟨?_, fun hreadable hnot => ?_, fun domain entry hentry hmimics => ?_⟩
  · by_cases hreadable : HeaderValue.Readable text
    · refine iff_of_true ?_ (.inl hreadable)
      rw [HeaderValue.text?_ofText hreadable] at htext
      rcases check_of_text hany htext with ⟨hyes, hcheck⟩ | ⟨hno, hcheck⟩
      · exact iff_of_true hcheck (haccepts.1 hyes)
      · refine iff_of_false (fun hok => ?_) (fun h => hno (haccepts.2 h))
        rw [hcheck] at hok
        cases hok
    · rw [HeaderValue.text?_ofText_eq_none_iff.2 hreadable] at htext
      have hcheck : p.check r = .ok () ↔ p.requireOrigin = false := by
        rw [check_of_no_text hany htext]
        cases p.requireOrigin <;> simp
      rw [hcheck, or_iff_right hreadable]
  · rw [HeaderValue.text?_ofText hreadable] at htext
    rcases check_of_text hany htext with ⟨hyes, -⟩ | ⟨-, hcheck⟩
    · exact absurd (haccepts.1 hyes) hnot
    · exact hcheck
  · rw [Bool.eq_false_iff]
    exact fun h => hmimics.not_admits ((entryAllows_iff hentry horigin).1 h)

/-- The chat server under the name that its clients use. -/
def chatOrigin : WebOrigin where
  scheme := "http".toList
  host := ⟨["chat".toList, "example".toList, "com".toList], by decide, by decide⟩
  port := none
  scheme_ne_nil := by decide
  isAlphabetic := List.all_eq_true.1 (by decide)
  isPort := WebOrigin.isPort_none

theorem requestFrom_without (name : String) (hhost : HttpRequest.sameName "Host" name = false)
    (horigin : HttpRequest.sameName "Origin" name = false) (origin : String) :
    (requestFrom origin).headerValues name = [] ∧ (requestFrom origin).headerText? name = none := by
  simp [requestFrom, HttpRequest.headerValues, HttpRequest.headerText?, HttpRequest.header?, hhost, horigin]

theorem header?_requestFrom (origin : String) : (requestFrom origin).header? "origin" = some (.ofText origin) := by
  have hhost : HttpRequest.sameName "Host" "origin" = false := by decide
  have horigin : HttpRequest.sameName "Origin" "origin" = true := by decide
  simp [requestFrom, HttpRequest.header?, hhost, horigin]

theorem ownOrigin_requestFrom (origin : String) : OwnOrigin.text (requestFrom origin) = "http://chat.example.com" := by
  have hname : (requestFrom origin).headerText? "host" = some "chat.example.com" := HeaderValue.text?_ofText (by decide)
  have hforwarded := (requestFrom_without "forwarded" (by decide) (by decide) origin).1
  have hhost := (requestFrom_without "x-forwarded-host" (by decide) (by decide) origin).2
  have hproto := (requestFrom_without "x-forwarded-proto" (by decide) (by decide) origin).2
  unfold OwnOrigin.text OwnOrigin.scheme OwnOrigin.host OwnOrigin.forwarded? OwnOrigin.forwardedPairs OwnOrigin.firstItem?
  rw [hname, hforwarded, hhost, hproto, show (requestFrom origin).uri = {} from rfl]
  rfl

theorem writes_chatOrigin (origin : String) : chatOrigin.Writes (OwnOrigin.text (requestFrom origin)) := by
  rw [ownOrigin_requestFrom]
  exact ⟨0, rfl⟩

/-- A domain whose hosts may be let pass. -/
def appDomain : HostName := ⟨["myapp".toList, "com".toList], by decide, by decide⟩

/-- A site under the domain, with the default port written out. -/
def apiOrigin : WebOrigin where
  scheme := "https".toList
  host := ⟨["api".toList, "MyApp".toList, "com".toList], by decide, by decide⟩
  port := some "443".toList
  scheme_ne_nil := by decide
  isAlphabetic := List.all_eq_true.1 (by decide)
  isPort := by
    rintro _ ⟨⟩
    exact ⟨by decide, List.all_eq_true.1 (by decide)⟩

/-- A site whose name only looks like one under the domain. -/
def mimicOrigin : WebOrigin where
  scheme := "https".toList
  host := ⟨["évil-myapp".toList, "com".toList], by decide, by decide⟩
  port := none
  scheme_ne_nil := by decide
  isAlphabetic := List.all_eq_true.1 (by decide)
  isPort := WebOrigin.isPort_none

theorem check_follows_list_iff_subdomain :
    ({ allowed := ["*.myapp.com/"] } : OriginPolicy).check (requestFrom "https://api.MyApp.com:443/") = .ok () := by
  have hentries : List.Forall₂ OriginEntry.Writes [.under appDomain] ["*.myapp.com/"] := .cons ⟨1, rfl⟩ .nil
  have horigin : apiOrigin.Writes "https://api.MyApp.com:443/" := ⟨1, rfl⟩
  have hwelcome : Welcomes chatOrigin [.under appDomain] apiOrigin :=
    .inr ⟨_, List.mem_singleton_self _, ⟨["api".toList], rfl⟩, .inr rfl⟩
  obtain ⟨hfollows, -, -⟩ := check_follows_list_iff (p := { allowed := ["*.myapp.com/"] }) rfl hentries
    (writes_chatOrigin _) horigin (header?_requestFrom _)
  exact (hfollows.2 (.inl (by decide))).2 hwelcome

/-- A list of one domain lets a look-alike of the domain pass, if its name is not written in ASCII. -/
theorem not_check_follows_list_unreadable :
    List.Forall₂ OriginEntry.Writes [.under appDomain] ["*.myapp.com"] ∧
      chatOrigin.Writes (OwnOrigin.text (requestFrom "https://évil-myapp.com")) ∧
      mimicOrigin.Writes "https://évil-myapp.com" ∧ appDomain.Mimics mimicOrigin.host ∧
      ({ allowed := ["*.myapp.com"] } : OriginPolicy).check (requestFrom "https://évil-myapp.com") = .ok () ∧
      ¬ Welcomes chatOrigin [.under appDomain] mimicOrigin := by
  have hunreadable : ¬ HeaderValue.Readable "https://évil-myapp.com" := by decide
  have hnone : (requestFrom "https://évil-myapp.com").headerText? "origin" = none :=
    HeaderValue.text?_ofText_eq_none_iff.2 hunreadable
  have hlabels : mimicOrigin.host.lower.labels = [] ++ ("évil-".toList ++ "myapp".toList) :: ["com".toList] := rfl
  have hmimics : appDomain.Mimics mimicOrigin.host := .extended rfl hlabels (by decide)
  refine ⟨.cons ⟨0, rfl⟩ .nil, writes_chatOrigin _, ⟨0, rfl⟩, hmimics,
    (check_of_no_text rfl hnone).trans (if_neg Bool.false_ne_true), ?_⟩
  rintro (hsame | ⟨entry, hentry, hadmits⟩)
  · exact absurd hsame.scheme (by decide)
  · rw [List.mem_singleton.1 hentry] at hadmits
    exact hmimics.not_admits hadmits

end OriginPolicy
end BrokerGuard
