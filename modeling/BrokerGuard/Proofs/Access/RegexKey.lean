import BrokerGuard.Access.RequestKey
import BrokerGuard.Proofs.Pattern.Regex.Anchored
/-!
# Keys of regular expressions — which requests they apply to

A key of a regular expression is meant to match whole paths: the text of the expression is put in a group between anchors.
That this longer text is an expression does not make the text one.  A text that is one gives a key for just the paths that it
matches from the first character to the last (`AnchoredRegex.accepts_iff`).  A text that is none, such as one that closes the
group, takes an anchor away from a part of itself, and its key then opens paths that nobody has written down.
-/
namespace BrokerGuard

open Pattern (Regex)

theorem anchored_eq_spliced (source : String) : anchored source = Regex.spliced source.toList := by
  have hopening : "^(?:".toList = ['^', '(', '?', ':'] := by decide
  have hclosing : ")$".toList = Regex.closing := by decide
  rw [anchored, hopening, hclosing]
  rfl

namespace AnchoredRegex

/-- A text that is an expression by itself accepts, anchored, the paths that the expression matches as a whole. -/
theorem accepts_iff {p : AnchoredRegex} {r : Regex} (h : Regex.ofText? p.source.toList = some r) (path : String) :
    p.accepts path = true ↔ Regex.Spans path.toList r 0 path.toList.length := by
  have hreads := p.reads
  rw [anchored_eq_spliced] at hreads
  rw [accepts, Regex.ofText?_spliced h hreads, Regex.betweenAnchors_matchesSomewhere_iff, Regex.spans_shift_iff]

theorem source_of_ofSource? {source : String} {p : AnchoredRegex} (h : ofSource? source = some p) : p.source = source := by
  unfold ofSource? at h
  split at h
  · cases h
    rfl
  · cases h

theorem exists_of_isSome {source : String} (h : (Regex.ofText? (anchored source)).isSome = true) :
    ∃ p, ofSource? source = some p ∧ Regex.ofText? (anchored source) = some p.program := by
  unfold ofSource?
  split
  · rename_i program hreads
    exact ⟨⟨source, program, hreads⟩, rfl, hreads⟩
  · rename_i hnone
    rw [hnone] at h
    cases h

end AnchoredRegex

namespace RequestKey

theorem applies_regex_iff {p : AnchoredRegex} {method : Option String} {t : RequestTarget} :
    (⟨.regex p, method⟩ : RequestKey).applies t = true ↔ (∀ m ∈ method, m = t.method) ∧ p.accepts t.path = true := by
  cases method <;> simp [applies]

/-- The text is an expression by itself, and the key applies to just the requests with its method, if it has one, whose path
that expression matches from the first character to the last. -/
def MatchesWholePaths (source : String) (method : Option String) (key : RequestKey) : Prop :=
  ∃ r, Regex.ofText? source.toList = some r ∧ ∀ t : RequestTarget, key.applies t = true ↔
    (∀ m ∈ method, m = t.method) ∧ Regex.Spans t.path.toList r 0 t.path.toList.length

/-- **When a key of a regular expression matches whole paths.**  It does so if and only if its text is an expression by itself,
and not only in the group between anchors. -/
theorem regex?_matchesWholePaths_iff {source : String} {method : Option String} {key : RequestKey}
    (h : regex? source method = some key) :
    MatchesWholePaths source method key ↔ (Regex.ofText? source.toList).isSome = true := by
  obtain ⟨p, hp, rfl⟩ := Option.map_eq_some_iff.1 h
  obtain rfl := AnchoredRegex.source_of_ofSource? hp
  constructor
  · rintro ⟨r, hr, -⟩
    rw [hr]
    rfl
  · intro halone
    obtain ⟨r, hr⟩ := Option.isSome_iff_exists.1 halone
    refine ⟨r, hr, fun t => ?_⟩
    rw [applies_regex_iff, AnchoredRegex.accepts_iff hr]

theorem regex?_matchesWholePaths_iff_help :
    ∃ key, regex? "/(help|about)/?" (some "GET") = some key ∧ MatchesWholePaths "/(help|about)/?" (some "GET") key := by
  have hreads : (Regex.ofText? (anchored "/(help|about)/?")).isSome = true := by decide
  obtain ⟨p, hp, -⟩ := AnchoredRegex.exists_of_isSome hreads
  have hkey : regex? "/(help|about)/?" (some "GET") = some ⟨.regex p, some "GET"⟩ := Option.map_eq_some_iff.2 ⟨p, hp, rfl⟩
  exact ⟨_, hkey, (regex?_matchesWholePaths_iff hkey).2 (by decide)⟩

/-- The text `/help)|(?:/about` is no expression.  In the group between anchors it closes the group, and its key applies to all
that begins with `/help`. -/
theorem not_matchesWholePaths_closed :
    ∃ key, regex? "/help)|(?:/about" none = some key ∧ ¬ MatchesWholePaths "/help)|(?:/about" none key ∧
      key.applies ⟨"GET", "/help/anything"⟩ = true := by
  have hnone : Regex.ofText? "/help)|(?:/about".toList = none := by decide
  have hreads : (Regex.ofText? (anchored "/help)|(?:/about")).isSome = true := by decide
  have hmatches : (Regex.ofText? (anchored "/help)|(?:/about")).all (·.matchesSomewhere "/help/anything".toList) = true := by
    decide
  obtain ⟨p, hp, hprogram⟩ := AnchoredRegex.exists_of_isSome hreads
  rw [hprogram] at hmatches
  refine ⟨⟨.regex p, none⟩, Option.map_eq_some_iff.2 ⟨p, hp, rfl⟩, ?_, applies_regex_iff.2 ⟨nofun, hmatches⟩⟩
  rintro ⟨r, hr, -⟩
  rw [hnone] at hr
  cases hr

end RequestKey
end BrokerGuard
