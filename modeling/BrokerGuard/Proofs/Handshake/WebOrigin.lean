import BrokerGuard.Handshake.Origin
/-!
# Web origins — the parts of an origin, and what its normal form says of them

A web origin has a scheme, a host of labels and perhaps a port (`WebOrigin`).  It is written as
`scheme://label.label:port`, with slashes behind it as one likes.  Two web origins are the same when scheme and host agree
up to letter case, and the ports when `80` stands for a port that is missing with `http`, and `443` with `https`.

Each web origin has a canonical one.  The normal form of a text that writes an origin is the text of its canonical origin
(`WebOrigin.Writes.normalize_eq`), the text of an origin determines it (`WebOrigin.text_injective`), and so two texts have
one normal form exactly when they write the same origin (`WebOrigin.normalize_eq_iff`).
-/
namespace BrokerGuard

/-! ## Letter case -/

theorem toLower_eq_self_or (c : Char) : c.toLower = c ∨ c.toLower.isLower = true := by
  by_cases hc : c.val ≥ 'A'.val ∧ c.val ≤ 'Z'.val
  · right
    have hval : c.toLower.val = c.val + 32 := congrArg Char.val (dif_pos hc)
    have hfirst : 65 ≤ c.val.toNat := hc.1
    have hlast : c.val.toNat ≤ 90 := hc.2
    have hnat : c.toLower.val.toNat = c.val.toNat + 32 := by
      rw [hval, UInt32.toNat_add, show (32 : UInt32).toNat = 32 from rfl]
      exact Nat.mod_eq_of_lt (by omega)
    have hlower : 97 ≤ c.toLower.val.toNat ∧ c.toLower.val.toNat ≤ 122 := by omega
    exact Bool.and_eq_true_iff.2 ⟨decide_eq_true hlower.1, decide_eq_true hlower.2⟩
  · exact .inl (dif_neg hc)

theorem toLower_eq_iff {c d : Char} (hd : d.isLower = false) (hself : d.toLower = d) : c.toLower = d ↔ c = d := by
  constructor
  · rintro rfl
    rcases toLower_eq_self_or c with h | h
    · exact h.symm
    · rw [hd] at h
      cases h
  · rintro rfl
    exact hself

theorem not_mem_map_toLower {cs : List Char} {d : Char} (hd : d.isLower = false) (hself : d.toLower = d) (h : d ∉ cs) :
    d ∉ cs.map Char.toLower := by
  intro hmem
  obtain ⟨c, hc, heq⟩ := List.mem_map.1 hmem
  exact h ((toLower_eq_iff hd hself).1 heq ▸ hc)

theorem isAlphabetic_toLower {c : Char} (h : Text.isAlphabetic c = true) : Text.isAlphabetic c.toLower = true := by
  rcases toLower_eq_self_or c with hself | hletter
  · rwa [hself]
  · have hlast : c.toLower.toNat ≤ 122 := of_decide_eq_true (Bool.and_eq_true_iff.1 hletter).2
    have hascii : c.toLower.toNat < 128 := by omega
    have halpha : c.toLower.isAlpha = true := Bool.or_eq_true_iff.2 (.inr hletter)
    rw [Text.isAlphabetic, if_pos hascii, halpha]

theorem toLower_of_isDigit {c : Char} (h : c.isDigit = true) : c.toLower = c := by
  have hlast : c.val ≤ '9'.val := of_decide_eq_true (Bool.and_eq_true_iff.1 h).2
  refine dif_neg fun hupper => ?_
  have hbelow : 'A'.val ≤ '9'.val := UInt32.le_trans hupper.1 hlast
  exact absurd hbelow (by decide)

/-! ## Cutting at a separator -/

/-- The separator that comes first is in one place. -/
theorem eq_of_append_cons {α : Type} {a : α} : ∀ {xs ys xs' ys' : List α}, a ∉ xs → a ∉ xs' →
    xs ++ a :: ys = xs' ++ a :: ys' → xs = xs' ∧ ys = ys'
  | [], _, [], _, _, _, h => ⟨rfl, (List.cons.inj h).2⟩
  | [], _, _ :: _, _, _, hxs', h => absurd ((List.cons.inj h).1 ▸ List.mem_cons_self) hxs'
  | _ :: _, _, [], _, hxs, _, h => absurd ((List.cons.inj h).1 ▸ List.mem_cons_self) hxs
  | x :: xs, _, x' :: xs', _, hxs, hxs', h => by
    rw [List.mem_cons, not_or] at hxs hxs'
    obtain ⟨rfl, htail⟩ := List.cons.inj h
    obtain ⟨rfl, rfl⟩ := eq_of_append_cons hxs.2 hxs'.2 htail
    exact ⟨rfl, rfl⟩

theorem eq_of_append_cons_last {α : Type} {a : α} {xs ys xs' ys' : List α} (hys : a ∉ ys) (hys' : a ∉ ys')
    (h : xs ++ a :: ys = xs' ++ a :: ys') : xs = xs' ∧ ys = ys' := by
  have hreverse : ys.reverse ++ a :: xs.reverse = ys'.reverse ++ a :: xs'.reverse := by
    simpa using congrArg List.reverse h
  have hys : a ∉ ys.reverse := fun hmem => hys (List.mem_reverse.1 hmem)
  have hys' : a ∉ ys'.reverse := fun hmem => hys' (List.mem_reverse.1 hmem)
  obtain ⟨hy, hx⟩ := eq_of_append_cons hys hys' hreverse
  exact ⟨List.reverse_inj.1 hx, List.reverse_inj.1 hy⟩

theorem map_intercalate {α β : Type} (f : α → β) (separator : List α) : ∀ pieces : List (List α),
    (separator.intercalate pieces).map f = (separator.map f).intercalate (pieces.map (List.map f))
  | [] => rfl
  | [piece] => by simp only [List.map_cons, List.map_nil, List.intercalate_singleton]
  | piece :: next :: pieces => by
    have ih := map_intercalate f separator (next :: pieces)
    simp only [List.map_cons, List.intercalate_cons_cons, List.map_append] at ih ⊢
    rw [ih]

theorem not_mem_intercalate {α : Type} {a : α} {separator : List α} (ha : a ∉ separator) : ∀ {pieces : List (List α)},
    (∀ piece ∈ pieces, a ∉ piece) → a ∉ separator.intercalate pieces
  | [], _ => List.not_mem_nil
  | [piece], h => by
    rw [List.intercalate_singleton]
    exact h piece List.mem_cons_self
  | piece :: next :: pieces, h => by
    obtain ⟨hpiece, hmore⟩ := List.forall_mem_cons.1 h
    rw [List.intercalate_cons_cons, List.mem_append, List.mem_append, not_or, not_or]
    exact ⟨⟨hpiece, ha⟩, not_mem_intercalate ha hmore⟩

namespace OriginPolicy

theorem trimSlashes_append (front : List Char) {tail : List Char} (hne : tail ≠ []) (hslash : '/' ∉ tail) (slashes : Nat) :
    trimSlashes (front ++ tail ++ List.replicate slashes '/') = front ++ tail := by
  obtain ⟨body, last, rfl⟩ := List.eq_nil_or_concat tail |>.resolve_left hne
  have hlast : last ≠ '/' := by
    rintro rfl
    exact hslash (by simp)
  have hslashes : ∀ c ∈ List.replicate slashes '/', (c == '/') = true :=
    fun c hc => beq_iff_eq.2 (List.eq_of_mem_replicate hc)
  rw [trimSlashes, List.reverse_append, List.reverse_replicate, List.dropWhile_append_of_pos hslashes]
  simp [hlast]

end OriginPolicy

/-! ## Hosts -/

/-- A host, or a domain: its labels from left to right. -/
@[ext]
structure HostName where
  labels : List (List Char)
  ne_nil : labels ≠ []
  isLabel : ∀ l ∈ labels, l ≠ [] ∧ '.' ∉ l ∧ '/' ∉ l ∧ ':' ∉ l

namespace HostName

/-- The labels with dots between them. -/
def text (h : HostName) : List Char := ['.'].intercalate h.labels

def lower (h : HostName) : HostName where
  labels := h.labels.map (List.map Char.toLower)
  ne_nil := fun hnil => h.ne_nil (List.map_eq_nil_iff.1 hnil)
  isLabel := by
    intro l hl
    obtain ⟨k, hk, rfl⟩ := List.mem_map.1 hl
    obtain ⟨hne, hdot, hslash, hcolon⟩ := h.isLabel k hk
    exact ⟨fun hnil => hne (List.map_eq_nil_iff.1 hnil), not_mem_map_toLower rfl rfl hdot,
      not_mem_map_toLower rfl rfl hslash, not_mem_map_toLower rfl rfl hcolon⟩

theorem map_toLower_text (h : HostName) : h.text.map Char.toLower = h.lower.text := map_intercalate _ _ _

theorem splitOn_text (h : HostName) : h.text.splitOn '.' = h.labels :=
  List.splitOn_intercalate '.' (fun l hl => (h.isLabel l hl).2.1) h.ne_nil

theorem text_injective {a b : HostName} (h : a.text = b.text) : a = b := by
  apply HostName.ext
  rw [← a.splitOn_text, h, b.splitOn_text]

theorem slash_not_mem_text (h : HostName) : '/' ∉ h.text :=
  not_mem_intercalate (by decide) fun l hl => (h.isLabel l hl).2.2.1

theorem colon_not_mem_text (h : HostName) : ':' ∉ h.text :=
  not_mem_intercalate (by decide) fun l hl => (h.isLabel l hl).2.2.2

theorem text_ne_nil (h : HostName) : h.text ≠ [] := by
  intro hnil
  have hlabels := h.splitOn_text
  rw [hnil, List.splitOn_nil] at hlabels
  exact (h.isLabel [] (hlabels ▸ List.mem_singleton_self _)).1 rfl

/-- **The labels of a domain end those of a host exactly when its text, behind a dot, ends that of the host**, or is the
whole text. -/
theorem suffix_iff {d h : HostName} : h.text = d.text ∨ ('.' :: d.text) <:+ h.text ↔ d.labels <:+ h.labels := by
  constructor
  · rintro (heq | ⟨front, heq⟩)
    · obtain rfl := text_injective heq
      exact List.suffix_refl _
    · refine ⟨front.splitOn '.', ?_⟩
      rw [← h.splitOn_text, ← heq, List.splitOn_append_cons_self, d.splitOn_text]
  · rintro ⟨front, heq⟩
    cases front with
    | nil => exact .inl (by rw [text, ← heq, List.nil_append, text])
    | cons l front =>
      refine .inr ⟨['.'].intercalate (l :: front), ?_⟩
      have hfree : ∀ k ∈ l :: front, '.' ∉ k := fun k hk => (h.isLabel k (heq ▸ List.mem_append_left _ hk)).2.1
      have hsplit : (['.'].intercalate (l :: front) ++ '.' :: d.text).splitOn '.' = h.labels := by
        rw [List.splitOn_append_cons_self, d.splitOn_text, List.splitOn_intercalate '.' hfree (List.cons_ne_nil _ _), heq]
      rw [show h.text = ['.'].intercalate h.labels from rfl, ← hsplit, List.intercalate_splitOn]

end HostName

/-! ## Origins -/

/-- The port that a scheme, in lower case, stands for. -/
def defaultPort? (scheme : List Char) : Option (List Char) :=
  if scheme = "http".toList then some "80".toList
  else if scheme = "https".toList then some "443".toList
  else none

/-- An origin in its parts.  The port is the row of its digits. -/
@[ext]
structure WebOrigin where
  scheme : List Char
  host : HostName
  port : Option (List Char)
  scheme_ne_nil : scheme ≠ []
  isAlphabetic : ∀ c ∈ scheme, Text.isAlphabetic c = true
  isPort : ∀ digits ∈ port, digits ≠ [] ∧ ∀ c ∈ digits, c.isDigit = true

namespace WebOrigin

def portText : Option (List Char) → List Char
  | none => []
  | some digits => ':' :: digits

def authority (o : WebOrigin) : List Char := o.host.text ++ portText o.port

/-- The origin as it is written without slashes behind it. -/
def text (o : WebOrigin) : List Char := o.scheme ++ ':' :: '/' :: '/' :: o.authority

/-- The text is a way to write the origin. -/
def Writes (o : WebOrigin) (text : String) : Prop := ∃ slashes, text.toList = o.text ++ List.replicate slashes '/'

def lower (o : WebOrigin) : WebOrigin where
  scheme := o.scheme.map Char.toLower
  host := o.host.lower
  port := o.port
  scheme_ne_nil := fun hnil => o.scheme_ne_nil (List.map_eq_nil_iff.1 hnil)
  isAlphabetic := by
    intro c hc
    obtain ⟨d, hd, rfl⟩ := List.mem_map.1 hc
    exact isAlphabetic_toLower (o.isAlphabetic d hd)
  isPort := o.isPort

theorem isPort_none : ∀ digits ∈ (none : Option (List Char)), digits ≠ [] ∧ ∀ c ∈ digits, c.isDigit = true :=
  fun _ h => absurd h (Option.not_mem_none _)

def portless (o : WebOrigin) : WebOrigin := { o with port := none, isPort := isPort_none }

/-- The origin in lower case, with no port where it would be the default one. -/
def canonical (o : WebOrigin) : WebOrigin :=
  if o.port = defaultPort? o.lower.scheme then o.lower.portless else o.lower

/-- The port, or the one that the scheme stands for. -/
def effectivePort (o : WebOrigin) : Option (List Char) := o.port.or (defaultPort? o.lower.scheme)

/-- The same origin: ports that are missing are the default ones, and letter case does not count. -/
structure Same (a b : WebOrigin) : Prop where
  scheme : a.lower.scheme = b.lower.scheme
  host : a.host.lower = b.host.lower
  port : a.effectivePort = b.effectivePort

theorem colon_not_mem_scheme (o : WebOrigin) : ':' ∉ o.scheme := fun h => absurd (o.isAlphabetic _ h) (by decide)

theorem slash_not_mem_authority (o : WebOrigin) : '/' ∉ o.authority := by
  unfold authority portText
  rw [List.mem_append, not_or]
  refine ⟨o.host.slash_not_mem_text, fun hmem => ?_⟩
  split at hmem
  · cases hmem
  · rename_i digits hport
    rcases List.mem_cons.1 hmem with h | h
    · cases h
    · exact absurd ((o.isPort digits hport).2 _ h) (by decide)

theorem authority_ne_nil (o : WebOrigin) : o.authority ≠ [] :=
  fun hnil => o.host.text_ne_nil (List.append_eq_nil_iff.1 hnil).1

/-- **The text of an origin determines it.** -/
theorem text_injective {a b : WebOrigin} (h : a.text = b.text) : a = b := by
  obtain ⟨hscheme, hrest⟩ := eq_of_append_cons a.colon_not_mem_scheme b.colon_not_mem_scheme h
  have hauthority : a.host.text ++ portText a.port = b.host.text ++ portText b.port :=
    (List.cons.inj (List.cons.inj hrest).2).2
  cases ha : a.port with
  | none =>
    cases hb : b.port with
    | none =>
      rw [ha, hb, portText, List.append_nil, List.append_nil] at hauthority
      exact WebOrigin.ext hscheme (HostName.text_injective hauthority) (ha.trans hb.symm)
    | some digits =>
      rw [ha, hb, portText, portText, List.append_nil] at hauthority
      exact absurd (hauthority ▸ List.mem_append_right _ List.mem_cons_self) a.host.colon_not_mem_text
  | some digits =>
    cases hb : b.port with
    | none =>
      rw [ha, hb, portText, portText, List.append_nil] at hauthority
      exact absurd (hauthority ▸ List.mem_append_right _ List.mem_cons_self) b.host.colon_not_mem_text
    | some digits' =>
      rw [ha, hb, portText, portText] at hauthority
      obtain ⟨hhost, rfl⟩ := eq_of_append_cons a.host.colon_not_mem_text b.host.colon_not_mem_text hauthority
      exact WebOrigin.ext hscheme (HostName.text_injective hhost) (ha.trans hb.symm)

/-! ## The canonical origin -/

theorem canonical_scheme (o : WebOrigin) : o.canonical.scheme = o.lower.scheme := by
  unfold canonical
  split <;> rfl

theorem canonical_host (o : WebOrigin) : o.canonical.host = o.host.lower := by
  unfold canonical
  split <;> rfl

theorem canonical_port (o : WebOrigin) :
    o.canonical.port = if o.port = defaultPort? o.lower.scheme then none else o.port := by
  unfold canonical
  split <;> rfl

/-- A port that is missing may be written out, or a port that is written left out. -/
theorem or_eq_or_iff {p q d : Option (List Char)} :
    p.or d = q.or d ↔ (if p = d then none else p) = if q = d then none else q := by
  cases p <;> cases q <;> cases d <;> grind

theorem same_iff_canonical_eq {a b : WebOrigin} : a.Same b ↔ a.canonical = b.canonical := by
  have hport (hscheme : a.lower.scheme = b.lower.scheme) :
      a.effectivePort = b.effectivePort ↔ a.canonical.port = b.canonical.port := by
    rw [effectivePort, effectivePort, canonical_port, canonical_port, hscheme]
    exact or_eq_or_iff
  constructor
  · intro h
    apply WebOrigin.ext
    · rw [canonical_scheme, canonical_scheme, h.scheme]
    · rw [canonical_host, canonical_host, h.host]
    · exact (hport h.scheme).1 h.port
  · intro h
    have hscheme : a.lower.scheme = b.lower.scheme := by rw [← canonical_scheme, h, canonical_scheme]
    exact ⟨hscheme, by rw [← canonical_host, h, canonical_host], (hport hscheme).2 (congrArg port h)⟩

/-! ## The normal form of a text -/

open OriginPolicy (trimSlashes trimSlashes_append dropEnding)

theorem trimSlashes_of_writes {o : WebOrigin} {s : String} (h : o.Writes s) : trimSlashes s.toList = o.text := by
  obtain ⟨slashes, hs⟩ := h
  have hsplit : o.text = (o.scheme ++ [':', '/', '/']) ++ o.authority := by
    simp only [text, List.append_assoc, List.cons_append, List.nil_append]
  rw [hs, hsplit]
  exact trimSlashes_append _ o.authority_ne_nil o.slash_not_mem_authority slashes

theorem map_toLower_text (o : WebOrigin) : o.text.map Char.toLower = o.lower.text := by
  have hport : (portText o.port).map Char.toLower = portText o.port := by
    unfold portText
    split
    · rfl
    · rename_i digits hport
      have hdigits : digits.map Char.toLower = digits.map id :=
        List.map_congr_left fun c hc => toLower_of_isDigit ((o.isPort digits hport).2 c hc)
      rw [List.map_cons, hdigits, List.map_id]
      rfl
  simp only [text, authority, List.map_append, List.map_cons, HostName.map_toLower_text, hport]
  rfl

theorem isPrefixOf_text {scheme : List Char} (hcolon : ':' ∉ scheme) (o : WebOrigin) :
    (scheme ++ "://".toList).isPrefixOf o.text = true ↔ o.scheme = scheme := by
  rw [List.isPrefixOf_iff_prefix]
  constructor
  · rintro ⟨rest, heq⟩
    rw [List.append_assoc] at heq
    exact (eq_of_append_cons hcolon o.colon_not_mem_scheme heq).1.symm
  · rintro rfl
    exact ⟨o.authority, by rw [List.append_assoc]; rfl⟩

/-- Dropping a port leaves an origin that has another one, or none, as it is. -/
theorem dropEnding_text {digits : List Char} (hcolon : ':' ∉ digits) (hslash : '/' ∉ digits) (o : WebOrigin) :
    dropEnding (':' :: digits) o.text = (if o.port = some digits then o.portless else o).text := by
  have hwritten {q : List Char} (hq : o.port = some q) : o.text = o.portless.text ++ ':' :: q := by
    simp only [text, authority, hq, portText, portless, List.append_nil, List.append_assoc, List.cons_append]
  unfold dropEnding
  by_cases hport : o.port = some digits
  · have hsuffix : (':' :: digits).isSuffixOf o.text = true := by
      rw [List.isSuffixOf_iff_suffix, hwritten hport]
      exact List.suffix_append _ _
    rw [if_pos hsuffix, if_pos hport, hwritten hport, List.length_append, Nat.add_sub_cancel]
    exact List.take_left
  · have hsuffix : ¬ (':' :: digits).isSuffixOf o.text = true := by
      rw [List.isSuffixOf_iff_suffix]
      rintro ⟨front, heq⟩
      -- the last colon stands before the port, or behind the scheme
      cases hq : o.port with
      | some q =>
        rw [hwritten hq] at heq
        have hcolon' : ':' ∉ q := fun hmem => absurd ((o.isPort q hq).2 _ hmem) (by decide)
        rw [(eq_of_append_cons_last hcolon hcolon' heq).2] at hport
        exact hport hq
      | none =>
        have hcolon' : ':' ∉ '/' :: '/' :: o.authority := by
          simp only [authority, hq, portText, List.append_nil, List.mem_cons, not_or]
          exact ⟨by decide, by decide, o.host.colon_not_mem_text⟩
        rw [(eq_of_append_cons_last hcolon hcolon' heq).2] at hslash
        exact hslash List.mem_cons_self
    rw [if_neg hsuffix, if_neg hport]

theorem Writes.normalize_eq {o : WebOrigin} {s : String} (h : o.Writes s) :
    OriginPolicy.normalize s.toList = o.canonical.text := by
  have hhttp : "http://".toList.isPrefixOf o.lower.text = true ↔ o.lower.scheme = "http".toList :=
    isPrefixOf_text (show ':' ∉ "http".toList by decide) o.lower
  have hhttps : "https://".toList.isPrefixOf o.lower.text = true ↔ o.lower.scheme = "https".toList :=
    isPrefixOf_text (show ':' ∉ "https".toList by decide) o.lower
  have hport : o.lower.port = o.port := rfl
  simp only [OriginPolicy.normalize, trimSlashes_of_writes h, map_toLower_text]
  unfold canonical defaultPort?
  by_cases hscheme : o.lower.scheme = "http".toList
  · rw [if_pos (hhttp.2 hscheme), if_pos hscheme]
    exact dropEnding_text (show ':' ∉ "80".toList by decide) (by decide) o.lower
  · rw [if_neg (fun hprefix => hscheme (hhttp.1 hprefix)), if_neg hscheme]
    by_cases hscheme' : o.lower.scheme = "https".toList
    · rw [if_pos (hhttps.2 hscheme'), if_pos hscheme']
      exact dropEnding_text (show ':' ∉ "443".toList by decide) (by decide) o.lower
    · rw [if_neg (fun hprefix => hscheme' (hhttps.1 hprefix)), if_neg hscheme']
      split
      · rename_i hnone
        exact congrArg text (WebOrigin.ext rfl rfl (hport.trans hnone))
      · rfl

/-- **Two texts have one normal form exactly when they write the same origin.** -/
theorem normalize_eq_iff {a b : WebOrigin} {s t : String} (ha : a.Writes s) (hb : b.Writes t) :
    OriginPolicy.normalize s.toList = OriginPolicy.normalize t.toList ↔ a.Same b := by
  rw [ha.normalize_eq, hb.normalize_eq, same_iff_canonical_eq]
  exact ⟨text_injective, fun h => by rw [h]⟩

end WebOrigin
end BrokerGuard
