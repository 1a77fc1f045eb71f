import BrokerGuard.Proofs.Components.Calls
/-!
# History — a context is an ordered map by name and kind

After any history of calls (`TypedContext.after`) what a context holds is told by the history alone: the component under a
name is the one that was registered last and not taken out since, as the updates since then left it (`Standing`), and the
names stand in the order in which they last entered (`EnteredBefore`), where a name enters with a registration that finds it
absent.  `orderedTypedMap_after` puts together what the calls do on such a context: what they answer, that a call which fails
changes nothing, and that no call reaches another name.

Both halves are carried by one lemma each on a history and one call more: `find?_iff` of the step meets
`standing_concat_iff`, and `names` of the step meets `LastEntered.concat`.
-/
namespace BrokerGuard

variable {κ : Type} {Carrier : κ → Type} [DecidableEq κ]

namespace ContextCall

variable {history : List (ContextCall κ Carrier)} {call : ContextCall κ Carrier} {name : String} {moment : Nat}

/-! ## What a history says -/

/-- The history registers a component of the kind under the name, does not displace it afterwards, and leaves it as the
value. -/
def Standing (history : List (ContextCall κ Carrier)) (name : String) (kind : κ) (value : Carrier kind) : Prop :=
  ∃ before first after, history = before ++ .register name kind first :: after ∧
    (∀ call ∈ after, ¬ call.Displaces name kind) ∧ after.foldl (revise name kind) first = value

/-- No component stands under the name. -/
def Absent (history : List (ContextCall κ Carrier)) (name : String) : Prop :=
  ∀ kind (value : Carrier kind), ¬ Standing history name kind value

/-- At this moment the name is registered, and nothing stood under it. -/
def Enters (history : List (ContextCall κ Carrier)) (name : String) (moment : Nat) : Prop :=
  (∃ kind component, history[moment]? = some (.register name kind component)) ∧ Absent (history.take moment) name

def LastEntered (history : List (ContextCall κ Carrier)) (name : String) (moment : Nat) : Prop :=
  Enters history name moment ∧ ∀ other, Enters history name other → other ≤ moment

def EnteredBefore (history : List (ContextCall κ Carrier)) (first second : String) : Prop :=
  ∃ i j, LastEntered history first i ∧ LastEntered history second j ∧ i < j

/-- What a lookup by name and kind answers after the history. -/
inductive Answers (history : List (ContextCall κ Carrier)) (name : String) (kind : κ) : ContextAnswer κ Carrier → Prop
  | found {value : Carrier kind} (h : Standing history name kind value) : Answers history name kind (.ok (some ⟨kind, value⟩))
  | unregistered (h : Absent history name) : Answers history name kind (.error (.unregistered name))
  | otherKind {other : κ} {value : Carrier other} (h : Standing history name other value) (hne : other ≠ kind) :
    Answers history name kind (.error (.otherKind name kind))

/-! ## One call more -/

theorem not_standing_nil {kind : κ} {value : Carrier kind} : ¬ Standing [] name kind value := by
  rintro ⟨before, first, after, h, -⟩
  simp at h

theorem standing_concat_iff {kind : κ} {value : Carrier kind} :
    Standing (history ++ [call]) name kind value ↔
      call = .register name kind value ∨
        ∃ old, Standing history name kind old ∧ ¬ call.Displaces name kind ∧ call.revise name kind old = value := by
  constructor
  · rintro ⟨before, first, after, h, hafter, rfl⟩
    rcases List.eq_nil_or_concat after with rfl | ⟨after, last, rfl⟩
    · obtain ⟨-, hcall⟩ := List.append_inj' h rfl
      exact .inl (List.head_eq_of_cons_eq hcall)
    · have hsplit : history ++ [call] = (before ++ .register name kind first :: after) ++ [last] := by simp [h]
      obtain ⟨rfl, hlast⟩ := List.append_inj' hsplit rfl
      obtain rfl := List.head_eq_of_cons_eq hlast
      rw [List.concat_eq_append, List.forall_mem_append, List.forall_mem_singleton] at hafter
      refine .inr ⟨_, ⟨before, first, after, rfl, hafter.1, rfl⟩, hafter.2, ?_⟩
      rw [List.concat_eq_append, List.foldl_append]
      rfl
  · rintro (rfl | ⟨old, ⟨before, first, after, rfl, hafter, rfl⟩, hstays, rfl⟩)
    · exact ⟨history, value, [], rfl, fun _ h => absurd h List.not_mem_nil, rfl⟩
    · refine ⟨before, first, after ++ [call], by simp, ?_, by rw [List.foldl_append]; rfl⟩
      exact List.forall_mem_append.2 ⟨hafter, List.forall_mem_singleton.2 hstays⟩

theorem Enters.lt (h : Enters history name moment) : moment < history.length := by
  obtain ⟨⟨kind, component, hcall⟩, -⟩ := h
  exact (List.getElem?_eq_some_iff.1 hcall).1

theorem enters_concat_iff :
    Enters (history ++ [call]) name moment ↔
      Enters history name moment ∨
        moment = history.length ∧ (∃ kind component, call = .register name kind component) ∧ Absent history name := by
  rcases Nat.lt_trichotomy moment history.length with hlt | rfl | hgt
  · have hne : moment ≠ history.length := Nat.ne_of_lt hlt
    unfold Enters
    rw [List.getElem?_append_left hlt, List.take_append_of_le_length (Nat.le_of_lt hlt)]
    exact (or_iff_left fun h => hne h.1).symm
  · have hearlier : ¬ Enters history name history.length := fun h => Nat.lt_irrefl _ h.lt
    rw [or_iff_right hearlier, and_iff_right rfl]
    unfold Enters
    rw [List.getElem?_concat_length, List.take_left]
    simp only [Option.some.injEq]
  · have hlater : ¬ Enters (history ++ [call]) name moment := fun h => by
      have hlt := h.lt
      rw [List.length_append, List.length_singleton] at hlt
      omega
    have hearlier : ¬ Enters history name moment := fun h => Nat.lt_asymm hgt h.lt
    exact iff_of_false hlater (not_or.2 ⟨hearlier, fun h => Nat.ne_of_gt hgt h.1⟩)

/-- A name that stands keeps its moment, whatever the call. -/
theorem LastEntered.concat (h : LastEntered history name moment) (hstands : ¬ Absent history name) :
    LastEntered (history ++ [call]) name moment := by
  refine ⟨enters_concat_iff.2 (.inl h.1), fun other hother => ?_⟩
  rcases enters_concat_iff.1 hother with hother | ⟨-, -, habsent⟩
  · exact h.2 other hother
  · exact absurd habsent hstands

/-- A name that enters with the last call has entered after all others. -/
theorem lastEntered_concat_self {kind : κ} (component : Carrier kind) (habsent : Absent history name) :
    LastEntered (history ++ [.register name kind component]) name history.length := by
  refine ⟨enters_concat_iff.2 (.inr ⟨rfl, ⟨kind, component, rfl⟩, habsent⟩), fun other hother => ?_⟩
  have hlt := hother.lt
  rw [List.length_append, List.length_singleton] at hlt
  omega

end ContextCall

namespace TypedContext

open ContextCall

/-- The context after a history of calls, from the empty one. -/
def after (history : List (ContextCall κ Carrier)) : TypedContext κ Carrier :=
  history.foldl (fun c call => (call.perform c).2) {}

variable {history : List (ContextCall κ Carrier)}

theorem after_concat (history : List (ContextCall κ Carrier)) (call : ContextCall κ Carrier) :
    after (history ++ [call]) = (call.perform (after history)).2 := by
  unfold after
  rw [List.foldl_append]
  rfl

/-! ## Runs -/

/-- **Under a name stands what the history left there.** -/
theorem find?_after_iff {name : String} {kind : κ} {value : Carrier kind} :
    (after history).find? name = some ⟨kind, value⟩ ↔ Standing history name kind value := by
  induction history using List.reverseRecOn generalizing value with
  | nil => exact ⟨fun h => absurd h.symm (Option.some_ne_none _), fun h => absurd h not_standing_nil⟩
  | append_singleton history call ih =>
    rw [after_concat, (step_perform (after history) call).find?_iff, standing_concat_iff]
    simp only [ih]

theorem find?_after_eq_none_iff {name : String} : (after history).find? name = none ↔ Absent history name := by
  constructor
  · intro hnone kind value hstanding
    cases hnone.symm.trans (find?_after_iff.2 hstanding)
  · intro habsent
    refine Option.eq_none_iff_forall_ne_some.2 fun found hfound => ?_
    exact habsent found.1 found.2 (find?_after_iff.1 hfound)

theorem mem_names_after_iff {name : String} : name ∈ (after history).names ↔ ¬ Absent history name := by
  rw [mem_names_iff, ← find?_after_eq_none_iff]
  exact Option.ne_none_iff_exists'.symm

theorem nodup_names_after (history : List (ContextCall κ Carrier)) : (after history).names.Nodup := by
  induction history using List.reverseRecOn with
  | nil => exact List.nodup_nil
  | append_singleton history call ih =>
    rw [after_concat]
    exact (step_perform (after history) call).nodup_names ih

/-- **The names stand in the order in which they last entered.** -/
theorem entered_names_after (history : List (ContextCall κ Carrier)) :
    (∀ name ∈ (after history).names, ∃ moment, LastEntered history name moment) ∧
      (after history).names.Pairwise (EnteredBefore history) := by
  induction history using List.reverseRecOn with
  | nil => exact ⟨fun _ h => absurd h List.not_mem_nil, .nil⟩
  | append_singleton history call ih =>
    obtain ⟨hentered, hordered⟩ := ih
    -- a name that is listed stands, so it cannot enter once more with this call
    have hkeeps (name : String) (hname : name ∈ (after history).names) (moment : Nat)
        (h : LastEntered history name moment) : LastEntered (history ++ [call]) name moment :=
      h.concat (mem_names_after_iff.1 hname)
    have hentered' : ∀ name ∈ (after history).names, ∃ moment, LastEntered (history ++ [call]) name moment :=
      fun name hname => (hentered name hname).imp (hkeeps name hname)
    have hordered' : (after history).names.Pairwise (EnteredBefore (history ++ [call])) :=
      hordered.imp_of_mem fun hfirst hsecond ⟨i, j, hi, hj, hlt⟩ =>
        ⟨i, j, hkeeps _ hfirst i hi, hkeeps _ hsecond j hj, hlt⟩
    rw [after_concat]
    rcases (step_perform (after history) call).names with ⟨name, kind, component, rfl, hnew, hnames⟩ | hsublist
    · have habsent : Absent history name := Classical.not_not.1 (mt mem_names_after_iff.2 hnew)
      have hlast := lastEntered_concat_self component habsent
      rw [hnames]
      refine ⟨List.forall_mem_append.2 ⟨hentered', List.forall_mem_singleton.2 ⟨_, hlast⟩⟩,
        List.pairwise_append.2 ⟨hordered', List.pairwise_singleton _ _, fun first hfirst second hsecond => ?_⟩⟩
      obtain rfl := List.mem_singleton.1 hsecond
      obtain ⟨i, hi⟩ := hentered first hfirst
      exact ⟨i, history.length, hkeeps first hfirst i hi, hlast, hi.1.lt⟩
    · exact ⟨fun name hname => hentered' name (hsublist.subset hname), hordered'.sublist hsublist⟩

/-- Run in place, the history leaves the same entries. -/
theorem entries_after (history : List (ContextCall κ Carrier)) :
    (after history).entries = history.foldl (fun entries call => (call.inPlace entries).2) [] := by
  induction history using List.reverseRecOn with
  | nil => rfl
  | append_singleton history call ih =>
    have hinPlace := (step_perform (after history) call).inPlace (nodup_names_after history)
    rw [after_concat, List.foldl_append, ← ih, List.foldl_cons, List.foldl_nil, hinPlace]

/-! ## Answers -/

theorem standing_unique {name : String} {kind other : κ} {value : Carrier kind} {value' : Carrier other}
    (h : Standing history name kind value) (h' : Standing history name other value') :
    (⟨kind, value⟩ : Sigma Carrier) = ⟨other, value'⟩ :=
  Option.some.inj ((find?_after_iff.2 h).symm.trans (find?_after_iff.2 h'))

theorem answers_unique {name : String} {kind : κ} {a b : ContextAnswer κ Carrier} (h : Answers history name kind a)
    (h' : Answers history name kind b) : a = b := by
  cases h with
  | found hstanding =>
    cases h' with
    | found hstanding' => rw [standing_unique hstanding hstanding']
    | unregistered habsent => exact absurd hstanding (habsent _ _)
    | otherKind hstanding' hne => exact absurd (congrArg Sigma.fst (standing_unique hstanding' hstanding)) hne
  | unregistered habsent =>
    cases h' with
    | found hstanding => exact absurd hstanding (habsent _ _)
    | unregistered _ => rfl
    | otherKind hstanding hne => exact absurd hstanding (habsent _ _)
  | otherKind hstanding hne =>
    cases h' with
    | found hstanding' => exact absurd (congrArg Sigma.fst (standing_unique hstanding hstanding')) hne
    | unregistered habsent => exact absurd hstanding (habsent _ _)
    | otherKind _ _ => rfl

theorem Step.answers {call : ContextCall κ Carrier} {answer : ContextAnswer κ Carrier} {c' : TypedContext κ Carrier}
    (h : Step (after history) call answer c') {name : String} {kind : κ} (hasked : call.asked = some (name, kind)) :
    Answers history name kind answer := by
  cases h with
  | registered n k component => cases hasked
  | read hfind =>
    cases hasked
    exact .found (find?_after_iff.1 hfind)
  | updated hfind f =>
    cases hasked
    exact .found (find?_after_iff.1 hfind)
  | removed hfind =>
    cases hasked
    exact .found (find?_after_iff.1 hfind)
  | unregistered hlooked hfind =>
    cases hasked.symm.trans hlooked
    exact .unregistered (find?_after_eq_none_iff.1 hfind)
  | otherKind hlooked hfind hne =>
    cases hasked.symm.trans hlooked
    exact .otherKind (find?_after_iff.1 hfind) hne

theorem perform_after_iff {call : ContextCall κ Carrier} {name : String} {kind : κ}
    (hasked : call.asked = some (name, kind)) {answer : ContextAnswer κ Carrier} :
    (call.perform (after history)).1 = answer ↔ Answers history name kind answer := by
  have hanswers := (step_perform (after history) call).answers hasked
  exact ⟨fun heq => heq ▸ hanswers, fun h => answers_unique hanswers h⟩

/-! ## The ordered map -/

/-- How a context stands after a history, and what a call on it does. -/
structure OrderedTypedMap (history : List (ContextCall κ Carrier)) (c : TypedContext κ Carrier) : Prop where
  distinct : c.names.Nodup
  ordered : c.names.Pairwise (EnteredBefore history)
  listed (name : String) : name ∈ c.names ↔ c.contains name = true
  present (name : String) : c.contains name = true ↔ ¬ Absent history name
  /-- A registration succeeds; a name that is there keeps its place, and a new one comes last. -/
  registered (name : String) (kind : κ) (component : Carrier kind) :
    ((ContextCall.register name kind component).perform c).1 = .ok none ∧
      ((ContextCall.register name kind component).perform c).2.names = if name ∈ c.names then c.names else c.names ++ [name]
  /-- What a lookup, an update or a removal answers is settled by the history. -/
  answered {call : ContextCall κ Carrier} {name : String} {kind : κ} (hasked : call.asked = some (name, kind))
    (answer : ContextAnswer κ Carrier) : (call.perform c).1 = answer ↔ Answers history name kind answer
  elsewhere (call : ContextCall κ Carrier) {other : String} (hne : other ≠ call.name) :
    (call.perform c).2.find? other = c.find? other
  /-- The calls in place lead to the same entries and go on alike. -/
  reached : c.entries = history.foldl (fun entries call => (call.inPlace entries).2) []
  inPlace (call : ContextCall κ Carrier) : call.inPlace c.entries = ((call.perform c).1, (call.perform c).2.entries)
  /-- A call that fails leaves every entry as it was. -/
  failed {call : ContextCall κ Carrier} {e : LookupError κ} (herror : (call.inPlace c.entries).1 = .error e) :
    (call.inPlace c.entries).2 = c.entries

/-- **After any history, a context is an ordered map by name and kind.** -/
theorem orderedTypedMap_after (history : List (ContextCall κ Carrier)) : OrderedTypedMap history (after history) where
  distinct := nodup_names_after history
  ordered := (entered_names_after history).2
  listed name := mem_names_iff_contains
  present name := mem_names_iff_contains.symm.trans mem_names_after_iff
  registered name kind component := ⟨rfl, names_register (after history) name kind component⟩
  answered hasked answer := perform_after_iff hasked
  elsewhere call other hne := (step_perform (after history) call).find?_of_ne hne
  reached := entries_after history
  inPlace call := (step_perform (after history) call).inPlace (nodup_names_after history)
  failed {call e} herror := by
    have hstep := step_perform (after history) call
    have hinPlace := hstep.inPlace (nodup_names_after history)
    rw [hinPlace] at herror ⊢
    rw [herror] at hstep
    rw [hstep.eq_of_error]

example : (after [.register "a" .number (1 : Nat), .register "b" .text "two", .register "a" .text "one", .remove "a" .number,
    .remove "a" .text, .register "a" .number (3 : Nat)] : ComponentContext Unit).names = ["b", "a"] := rfl

end TypedContext
end BrokerGuard
