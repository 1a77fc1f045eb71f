import BrokerGuard.Pattern.Regex.Basic
/-!
# Regular expressions — what an expression matches

What an expression matches is said place by place, without any rows of marks: it spans a text from one place to another
(`Spans`).  `reach` carries marks along exactly these spans (`carries_reach`), so that a search decides whether the expression
spans some part of the text (`matchesSomewhere_iff`).

Only repetitions take an argument.  Rounds that change no mark can be left out, since no later one does either
(`Carries.iterate`).  Rounds that follow the newest marks only lose nothing, because what the older marks lead to is marked
already (`Settled`), and without a greatest number as many rounds as there are places are enough, because each new round marks
a place more (`Carries.closure_unbounded`).
-/
namespace BrokerGuard
namespace Pattern
namespace Regex

open Text (CharSet)

/-! ## Spans -/

/-- The character before a place; `first` is the one before the first place. -/
def previous (first : Option Char) (text : List Char) : Nat → Option Char
  | 0 => first
  | i + 1 => text[i]?

/-- So many steps lead from one place to another. -/
def Rounds (step : Nat → Nat → Prop) : Nat → Nat → Nat → Prop
  | 0, i, j => i = j
  | count + 1, i, j => ∃ k, step i k ∧ Rounds step count k j

/-- The expression matches what stands in the text between two places.  A repetition takes its least number of rounds and then
some more, up to its greatest number. -/
def Spans (text : List Char) : Regex → Nat → Nat → Prop
  | empty, i, j => i = j
  | chars set _, i, j => ∃ c, text[i]? = some c ∧ set.contains c = true ∧ i + 1 = j
  | place anchor, i, j => anchor.holds (previous none text i) text[i]? = true ∧ i = j
  | concat first second, i, j => ∃ k, Spans text first i k ∧ Spans text second k j
  | alt first second, i, j => Spans text first i j ∨ Spans text second i j
  | repetition body least most _, i, j =>
    ∃ more, (∀ m ∈ most, more ≤ m - least) ∧ Rounds (Spans text body) (least + more) i j
  | group _ body, i, j => Spans text body i j

theorem rounds_add {step : Nat → Nat → Prop} {a b i j : Nat} :
    Rounds step (a + b) i j ↔ ∃ k, Rounds step a i k ∧ Rounds step b k j := by
  induction a generalizing i with
  | zero =>
    rw [Nat.zero_add]
    exact ⟨fun h => ⟨i, rfl, h⟩, fun ⟨_, heq, h⟩ => heq ▸ h⟩
  | succ a ih =>
    rw [Nat.succ_add]
    constructor
    · rintro ⟨k, hstep, h⟩
      obtain ⟨l, ha, hb⟩ := ih.1 h
      exact ⟨l, ⟨k, hstep, ha⟩, hb⟩
    · rintro ⟨l, ⟨k, hstep, ha⟩, hb⟩
      exact ⟨k, hstep, ih.2 ⟨l, ha, hb⟩⟩

/-! ## Rows of marks -/

/-- The place is marked. -/
def Marked (marks : List Bool) (i : Nat) : Prop := marks[i]? = some true

theorem Marked.lt_length {marks : List Bool} {i : Nat} (h : Marked marks i) : i < marks.length :=
  (List.getElem?_eq_some_iff.1 h).1

theorem marked_join_iff {a b : List Bool} (h : a.length = b.length) {i : Nat} :
    Marked (join a b) i ↔ Marked a i ∨ Marked b i := by
  unfold Marked join
  rw [List.getElem?_zipWith_eq_some]
  constructor
  · rintro ⟨x, y, hx, hy, hor⟩
    rcases Bool.or_eq_true_iff.1 hor with rfl | rfl
    · exact .inl hx
    · exact .inr hy
  · rintro (ha | hb)
    · have hlt : i < b.length := h ▸ Marked.lt_length ha
      exact ⟨true, b[i], ha, List.getElem?_eq_getElem hlt, rfl⟩
    · have hlt : i < a.length := h ▸ Marked.lt_length hb
      exact ⟨a[i], true, List.getElem?_eq_getElem hlt, hb, Bool.or_true _⟩

theorem marked_without_iff {a b : List Bool} (h : a.length = b.length) {i : Nat} :
    Marked (without a b) i ↔ Marked a i ∧ ¬ Marked b i := by
  unfold Marked without
  rw [List.getElem?_zipWith_eq_some]
  constructor
  · rintro ⟨x, y, hx, hy, hand⟩
    obtain ⟨rfl, hy'⟩ := Bool.and_eq_true_iff.1 hand
    rw [Bool.not_eq_true'] at hy'
    refine ⟨hx, fun hb => ?_⟩
    rw [hb, Option.some.injEq] at hy
    rw [← hy] at hy'
    cases hy'
  · rintro ⟨ha, hb⟩
    have hlt : i < b.length := h ▸ Marked.lt_length ha
    have hget : b[i]? = some b[i] := List.getElem?_eq_getElem hlt
    refine ⟨true, b[i], ha, hget, ?_⟩
    rw [hget, Option.some.injEq, Bool.not_eq_true] at hb
    rw [hb]
    rfl

theorem any_iff_exists_marked {marks : List Bool} : marks.any id = true ↔ ∃ i, Marked marks i := by
  rw [List.any_eq_true]
  constructor
  · rintro ⟨_, hmem, rfl⟩
    exact List.mem_iff_getElem?.1 hmem
  · rintro ⟨i, h⟩
    exact ⟨true, List.mem_iff_getElem?.2 ⟨i, h⟩, rfl⟩

/-- A step carries the marks of rows of one length along a relation of places. -/
structure Carries (length : Nat) (step : List Bool → List Bool) (relation : Nat → Nat → Prop) : Prop where
  length_eq : ∀ {marks : List Bool}, marks.length = length → (step marks).length = length
  marked_iff : ∀ {marks : List Bool}, marks.length = length → ∀ {j : Nat},
    Marked (step marks) j ↔ ∃ i, Marked marks i ∧ relation i j

namespace Carries

variable {length : Nat} {step step' : List Bool → List Bool} {relation relation' : Nat → Nat → Prop}

theorem same : Carries length (fun marks => marks) Eq :=
  ⟨fun h => h, fun _ => ⟨fun h => ⟨_, h, rfl⟩, fun ⟨_, h, heq⟩ => heq ▸ h⟩⟩

theorem comp (h : Carries length step relation) (h' : Carries length step' relation') :
    Carries length (fun marks => step' (step marks)) fun i j => ∃ k, relation i k ∧ relation' k j where
  length_eq hlength := h'.length_eq (h.length_eq hlength)
  marked_iff hlength := by
    intro j
    rw [h'.marked_iff (h.length_eq hlength)]
    constructor
    · rintro ⟨k, hk, hkj⟩
      obtain ⟨i, hi, hik⟩ := (h.marked_iff hlength).1 hk
      exact ⟨i, hi, k, hik, hkj⟩
    · rintro ⟨i, hi, k, hik, hkj⟩
      exact ⟨k, (h.marked_iff hlength).2 ⟨i, hi, hik⟩, hkj⟩

theorem join (h : Carries length step relation) (h' : Carries length step' relation') :
    Carries length (fun marks => Regex.join (step marks) (step' marks)) fun i j => relation i j ∨ relation' i j where
  length_eq hlength := by
    rw [Regex.join, List.length_zipWith, h.length_eq hlength, h'.length_eq hlength, Nat.min_self]
  marked_iff hlength := by
    intro j
    rw [marked_join_iff ((h.length_eq hlength).trans (h'.length_eq hlength).symm), h.marked_iff hlength,
      h'.marked_iff hlength, ← exists_or]
    simp only [and_or_left]

theorem congr (h : Carries length step relation) (hrelation : ∀ i j, relation i j ↔ relation' i j) :
    Carries length step relation' where
  length_eq := h.length_eq
  marked_iff hlength := (h.marked_iff hlength).trans (exists_congr fun _ => and_congr_right fun _ => hrelation _ _)

/-! ## Repetitions -/

/-- Exactly so many rounds.  Once a round changes nothing, no later one does. -/
theorem iterate (h : Carries length step relation) : ∀ rounds : Nat,
    Carries length (Regex.iterate step rounds) (Rounds relation rounds)
  | 0 => same
  | rounds + 1 => by
    have hmore := h.comp (iterate h rounds)
    have hstep : ∀ {marks : List Bool}, marks.length = length →
        Regex.iterate step (rounds + 1) marks = Regex.iterate step rounds (step marks) := by
      intro marks hlength
      by_cases hfixed : step marks = marks
      · have hstays : ∀ count : Nat, Regex.iterate step count marks = marks
          | 0 => rfl
          | count + 1 => if_pos hfixed
        rw [hfixed, hstays, hstays]
      · exact if_neg hfixed
    refine ⟨fun hlength => ?_, fun hlength => ?_⟩
    · rw [hstep hlength]
      exact hmore.length_eq hlength
    · intro j
      rw [hstep hlength]
      exact hmore.marked_iff hlength

/-- What the marks lead to in one step is marked, except for what the newest marks lead to. -/
structure Settled (relation : Nat → Nat → Prop) (seen front : List Bool) : Prop where
  seen_of_front : ∀ {i}, Marked front i → Marked seen i
  seen_of_step : ∀ {i j}, Marked seen i → relation i j → Marked front i ∨ Marked seen j

variable {seen front : List Bool}

theorem marked_of_rounds (hclosed : ∀ {i j}, Marked seen i → relation i j → Marked seen j) {count i j : Nat}
    (hi : Marked seen i) (h : Rounds relation count i j) : Marked seen j := by
  induction count generalizing i with
  | zero => exact h ▸ hi
  | succ count ih =>
    obtain ⟨k, hik, hkj⟩ := h
    exact ih (hclosed hi hik) hkj

section Round

variable (h : Carries length step relation) (hseen : seen.length = length) (hfront : front.length = length)
include h hseen hfront

/-- The marks of a round that are new. -/
theorem marked_new_iff {j : Nat} :
    Marked (without (step front) seen) j ↔ (∃ i, Marked front i ∧ relation i j) ∧ ¬ Marked seen j := by
  rw [marked_without_iff ((h.length_eq hfront).trans hseen.symm), h.marked_iff hfront]

theorem length_new : (without (step front) seen).length = length := by
  rw [without, List.length_zipWith, h.length_eq hfront, hseen, Nat.min_self]

theorem length_larger : (Regex.join seen (without (step front) seen)).length = length := by
  rw [Regex.join, List.length_zipWith, length_new h hseen hfront, hseen, Nat.min_self]

theorem marked_larger_iff {j : Nat} :
    Marked (Regex.join seen (without (step front) seen)) j ↔ Marked seen j ∨ Marked (without (step front) seen) j :=
  marked_join_iff (hseen.trans (length_new h hseen hfront).symm)

/-- What the marks lead to in one step is marked after the round. -/
theorem marked_larger_of_step (hsettled : Settled relation seen front) {i j : Nat} (hi : Marked seen i) (hij : relation i j) :
    Marked (Regex.join seen (without (step front) seen)) j := by
  rw [marked_larger_iff h hseen hfront]
  by_cases hj : Marked seen j
  · exact .inl hj
  · have hi' := (hsettled.seen_of_step hi hij).resolve_right hj
    exact .inr ((marked_new_iff h hseen hfront).2 ⟨⟨i, hi', hij⟩, hj⟩)

/-- A round settles what was seen before it. -/
theorem settled_larger (hsettled : Settled relation seen front) :
    Settled relation (Regex.join seen (without (step front) seen)) (without (step front) seen) where
  seen_of_front hi := (marked_larger_iff h hseen hfront).2 (.inr hi)
  seen_of_step hi hij := by
    rcases (marked_larger_iff h hseen hfront).1 hi with hi | hi
    · exact .inr (marked_larger_of_step h hseen hfront hsettled hi hij)
    · exact .inl hi

/-- Without a new mark, the marks lead to nothing else. -/
theorem marked_of_step_of_not_any (hsettled : Settled relation seen front)
    (hnone : ¬ (without (step front) seen).any id = true) {i j : Nat} (hi : Marked seen i) (hij : relation i j) :
    Marked seen j := by
  rcases (marked_larger_iff h hseen hfront).1 (marked_larger_of_step h hseen hfront hsettled hi hij) with hj | hj
  · exact hj
  · exact absurd (any_iff_exists_marked.2 ⟨j, hj⟩) hnone

/-- What a round adds is one step away. -/
theorem exists_step_of_marked_larger (hsettled : Settled relation seen front) {k : Nat}
    (hk : Marked (Regex.join seen (without (step front) seen)) k) :
    Marked seen k ∨ ∃ i, Marked seen i ∧ relation i k := by
  refine ((marked_larger_iff h hseen hfront).1 hk).imp_right fun hk => ?_
  obtain ⟨⟨i, hi, hik⟩, -⟩ := (marked_new_iff h hseen hfront).1 hk
  exact ⟨i, hsettled.seen_of_front hi, hik⟩

end Round

theorem length_closure (h : Carries length step relation) : ∀ (rounds : Nat) {seen front : List Bool}, seen.length = length →
    front.length = length → (closure step rounds seen front).length = length
  | 0, _, _, hseen, _ => hseen
  | rounds + 1, seen, front, hseen, hfront => by
    unfold closure
    dsimp only
    split
    · exact length_closure h rounds (length_larger h hseen hfront) (length_new h hseen hfront)
    · exact hseen

/-- Following the newest marks for so many rounds marks what is at most so many steps away. -/
theorem marked_closure_iff (h : Carries length step relation) {j : Nat} : ∀ (rounds : Nat) {seen front : List Bool},
    seen.length = length → front.length = length → Settled relation seen front →
      (Marked (closure step rounds seen front) j ↔ ∃ i, Marked seen i ∧ ∃ count ≤ rounds, Rounds relation count i j)
  | 0, seen, front, _, _, _ => by
    refine ⟨fun hj => ⟨j, hj, 0, Nat.le_refl 0, rfl⟩, ?_⟩
    rintro ⟨i, hi, count, hcount, hij⟩
    obtain rfl := Nat.le_zero.1 hcount
    exact hij ▸ hi
  | rounds + 1, seen, front, hseen, hfront, hsettled => by
    unfold closure
    dsimp only
    by_cases hnew : (without (step front) seen).any id = true
    · have ih := marked_closure_iff h (j := j) rounds (length_larger h hseen hfront) (length_new h hseen hfront)
        (settled_larger h hseen hfront hsettled)
      rw [if_pos hnew, ih]
      constructor
      · rintro ⟨k, hk, count, hcount, hkj⟩
        rcases exists_step_of_marked_larger h hseen hfront hsettled hk with hk | ⟨i, hi, hik⟩
        · exact ⟨k, hk, count, Nat.le_succ_of_le hcount, hkj⟩
        · exact ⟨i, hi, count + 1, Nat.succ_le_succ hcount, k, hik, hkj⟩
      · rintro ⟨i, hi, count | count, hcount, hij⟩
        · exact ⟨i, (marked_larger_iff h hseen hfront).2 (.inl hi), 0, Nat.zero_le _, hij⟩
        · obtain ⟨k, hik, hkj⟩ := hij
          exact ⟨k, marked_larger_of_step h hseen hfront hsettled hi hik, count, Nat.le_of_succ_le_succ hcount, hkj⟩
    · rw [if_neg hnew]
      refine ⟨fun hj => ⟨j, hj, 0, Nat.zero_le _, rfl⟩, ?_⟩
      rintro ⟨i, hi, count, -, hij⟩
      exact marked_of_rounds (fun hi => marked_of_step_of_not_any h hseen hfront hsettled hnew hi) hi hij

theorem count_join_le : ∀ a b : List Bool, a.length = b.length → (Regex.join a b).count false ≤ a.count false
  | [], _, _ => Nat.le_refl 0
  | x :: a, y :: b, h => by
    have ih := count_join_le a b (Nat.succ.inj h)
    have hjoin : Regex.join (x :: a) (y :: b) = (x || y) :: Regex.join a b := rfl
    rw [hjoin, List.count_cons, List.count_cons]
    cases x <;> cases y <;> simp <;> omega

/-- A new mark leaves fewer places without one. -/
theorem count_join_lt : ∀ {a b : List Bool}, a.length = b.length → ∀ {i : Nat}, Marked b i → ¬ Marked a i →
    (Regex.join a b).count false < a.count false
  | [], [], _, _, hb, _ => nomatch hb
  | x :: a, y :: b, h, 0, hb, ha => by
    have hrest := count_join_le a b (Nat.succ.inj h)
    have hjoin : Regex.join (x :: a) (y :: b) = (x || y) :: Regex.join a b := rfl
    obtain rfl : y = true := Option.some.inj hb
    obtain rfl : x = false := Bool.eq_false_iff.2 fun hx => ha (congrArg some hx)
    rw [hjoin, List.count_cons, List.count_cons]
    simp
    omega
  | x :: a, y :: b, h, i + 1, hb, ha => by
    have ih := count_join_lt (i := i) (Nat.succ.inj h) hb ha
    have hjoin : Regex.join (x :: a) (y :: b) = (x || y) :: Regex.join a b := rfl
    rw [hjoin, List.count_cons, List.count_cons]
    cases x <;> cases y <;> simp <;> omega

/-- With as many rounds as there are places without a mark, everything is marked that any number of steps leads to. -/
theorem marked_closure_iff_of_count_le (h : Carries length step relation) {j : Nat} :
    ∀ (rounds : Nat) {seen front : List Bool}, seen.length = length → front.length = length →
      Settled relation seen front → seen.count false ≤ rounds →
        (Marked (closure step rounds seen front) j ↔ ∃ i, Marked seen i ∧ ∃ count, Rounds relation count i j)
  | 0, seen, front, hseen, _, _, hcount => by
    refine ⟨fun hj => ⟨j, hj, 0, rfl⟩, ?_⟩
    rintro ⟨i, hi, count, hij⟩
    -- all places are marked, and no step leads anywhere else
    have hclosed : ∀ {i j}, Marked seen i → relation i j → Marked seen j := by
      intro i j hi hij
      have hlt : j < seen.length := by
        have hj := ((h.marked_iff hseen).2 ⟨i, hi, hij⟩).lt_length
        rwa [h.length_eq hseen, ← hseen] at hj
      have hmem : seen[j] ≠ false := fun hfalse =>
        List.count_eq_zero.1 (Nat.le_zero.1 hcount) (hfalse ▸ List.getElem_mem hlt)
      rw [Marked, List.getElem?_eq_getElem hlt, Bool.of_not_eq_false hmem]
    exact marked_of_rounds hclosed hi hij
  | rounds + 1, seen, front, hseen, hfront, hsettled, hcount => by
    unfold closure
    dsimp only
    by_cases hnew : (without (step front) seen).any id = true
    · obtain ⟨new, hmarked⟩ := any_iff_exists_marked.1 hnew
      have hfewer := count_join_lt (hseen.trans (length_new h hseen hfront).symm) hmarked
        ((marked_new_iff h hseen hfront).1 hmarked).2
      have ih := marked_closure_iff_of_count_le h (j := j) rounds (length_larger h hseen hfront)
        (length_new h hseen hfront) (settled_larger h hseen hfront hsettled) (by omega)
      rw [if_pos hnew, ih]
      constructor
      · rintro ⟨k, hk, count, hkj⟩
        rcases exists_step_of_marked_larger h hseen hfront hsettled hk with hk | ⟨i, hi, hik⟩
        · exact ⟨k, hk, count, hkj⟩
        · exact ⟨i, hi, count + 1, k, hik, hkj⟩
      · rintro ⟨i, hi, hij⟩
        exact ⟨i, (marked_larger_iff h hseen hfront).2 (.inl hi), hij⟩
    · rw [if_neg hnew]
      refine ⟨fun hj => ⟨j, hj, 0, rfl⟩, ?_⟩
      rintro ⟨i, hi, count, hij⟩
      exact marked_of_rounds (fun hi => marked_of_step_of_not_any h hseen hfront hsettled hnew hi) hi hij

theorem settled_self (marks : List Bool) : Settled relation marks marks := ⟨fun hi => hi, fun hi _ => .inl hi⟩

/-- At most so many rounds. -/
theorem closure_bounded (h : Carries length step relation) (rounds : Nat) :
    Carries length (fun marks => closure step rounds marks marks) fun i j => ∃ count ≤ rounds, Rounds relation count i j :=
  ⟨fun hlength => length_closure h rounds hlength hlength,
    fun hlength => marked_closure_iff h rounds hlength hlength (settled_self _)⟩

/-- Any number of rounds. -/
theorem closure_unbounded (h : Carries length step relation) :
    Carries length (fun marks => closure step length marks marks) fun i j => ∃ count, Rounds relation count i j :=
  ⟨fun hlength => length_closure h length hlength hlength,
    fun hlength => marked_closure_iff_of_count_le h length hlength hlength (settled_self _)
      (hlength ▸ List.count_le_length)⟩

end Carries

/-! ## The search -/

theorem marked_advance_iff {set : CharSet} {text : List Char} {marks : List Bool} {j : Nat} :
    Marked (advance set text marks) j ↔
      ∃ i, Marked marks i ∧ ∃ c, text[i]? = some c ∧ set.contains c = true ∧ i + 1 = j := by
  cases j with
  | zero =>
    refine ⟨fun h => absurd (Option.some.inj h) Bool.false_ne_true, ?_⟩
    rintro ⟨i, -, c, -, -, h⟩
    exact absurd h (Nat.succ_ne_zero i)
  | succ i =>
    have hmarked : Marked (advance set text marks) (i + 1) ↔
        ∃ c m, text[i]? = some c ∧ marks[i]? = some m ∧ (m && set.contains c) = true :=
      List.getElem?_zipWith_eq_some
    rw [hmarked]
    constructor
    · rintro ⟨c, m, hc, hm, hand⟩
      obtain ⟨rfl, hcontains⟩ := Bool.and_eq_true_iff.1 hand
      exact ⟨i, hm, c, hc, hcontains, rfl⟩
    · rintro ⟨k, hm, c, hc, hcontains, heq⟩
      obtain rfl := Nat.succ.inj heq
      exact ⟨c, true, hc, hm, hcontains⟩

theorem length_retain {anchor : Anchor} : ∀ {first : Option Char} {text : List Char} {marks : List Bool},
    marks.length = text.length + 1 → (retain anchor first text marks).length = text.length + 1
  | _, [], [_], _ => rfl
  | _, _ :: _, _ :: _, h => congrArg Nat.succ (length_retain (Nat.succ.inj h))

theorem marked_retain_iff {anchor : Anchor} : ∀ {first : Option Char} {text : List Char} {marks : List Bool},
    marks.length = text.length + 1 → ∀ {i : Nat}, Marked (retain anchor first text marks) i ↔
      Marked marks i ∧ anchor.holds (previous first text i) text[i]? = true
  | first, [], [m], _, 0 => by
    simp only [Marked, retain, List.getElem?_cons_zero, Option.some.injEq, Bool.and_eq_true]
    rfl
  | _, [], [_], _, _ + 1 => ⟨nofun, fun h => nomatch h.1⟩
  | first, c :: text, m :: marks, _, 0 => by
    simp only [Marked, retain, List.getElem?_cons_zero, Option.some.injEq, Bool.and_eq_true]
    rfl
  | first, c :: text, m :: marks, h, i + 1 => by
    have ih : Marked (retain anchor (some c) text marks) i ↔
        Marked marks i ∧ anchor.holds (previous (some c) text i) text[i]? = true := marked_retain_iff (Nat.succ.inj h)
    have hprevious : previous (some c) text i = previous first (c :: text) (i + 1) := by cases i <;> rfl
    rw [hprevious] at ih
    exact ih

/-- **Marks are carried along the spans of the expression.** -/
theorem carries_reach (text : List Char) : ∀ r : Regex, Carries (text.length + 1) (reach text r) (Spans text r)
  | empty => .same
  | chars set _ => by
    refine ⟨fun h => ?_, fun _ => marked_advance_iff⟩
    rw [reach, advance, List.length_cons, List.length_zipWith, h, Nat.min_eq_left (Nat.le_succ _)]
  | place anchor => by
    refine ⟨length_retain, fun h => (marked_retain_iff h).trans ?_⟩
    constructor
    · rintro ⟨hi, hholds⟩
      exact ⟨_, hi, hholds, rfl⟩
    · rintro ⟨i, hi, hholds, rfl⟩
      exact ⟨hi, hholds⟩
  | concat first second => (carries_reach text first).comp (carries_reach text second)
  | alt first second => (carries_reach text first).join (carries_reach text second)
  | group _ body => carries_reach text body
  | repetition body least most _ => by
    have hleast := (carries_reach text body).iterate least
    -- the least rounds, and then some more: all of them are the rounds of one span
    have hrounds : ∀ {bound : Nat → Prop} {i j : Nat},
        (∃ k, Rounds (Spans text body) least i k ∧ ∃ more, bound more ∧ Rounds (Spans text body) more k j) ↔
          ∃ more, bound more ∧ Rounds (Spans text body) (least + more) i j := by
      intro bound i j
      simp only [rounds_add]
      constructor
      · rintro ⟨k, hk, more, hmore, hkj⟩
        exact ⟨more, hmore, k, hk, hkj⟩
      · rintro ⟨more, hmore, k, hk, hkj⟩
        exact ⟨k, hk, more, hmore, hkj⟩
    cases most with
    | none =>
      refine (hleast.comp (carries_reach text body).closure_unbounded).congr fun i j => ?_
      have hall := @hrounds (fun _ => True) i j
      simp only [true_and] at hall
      rw [hall]
      simp [Spans]
    | some most =>
      refine (hleast.comp ((carries_reach text body).closure_bounded (most - least))).congr fun i j => ?_
      rw [hrounds]
      simp [Spans]

/-- A span ends in the text when it begins there. -/
theorem Spans.le_length {text : List Char} {r : Regex} {i j : Nat} (h : Spans text r i j) (hi : i ≤ text.length) :
    j ≤ text.length := by
  have hlength : (allMarks text).length = text.length + 1 := List.length_replicate
  have hstart : Marked (allMarks text) i := by
    rw [Marked, allMarks, List.getElem?_replicate, if_pos (Nat.lt_succ_of_le hi)]
  have hend := ((carries_reach text r).marked_iff hlength).2 ⟨i, hstart, h⟩
  have hlt := hend.lt_length
  rw [(carries_reach text r).length_eq hlength] at hlt
  exact Nat.le_of_lt_succ hlt

/-- **Some part of the text matches when the expression spans it.** -/
theorem matchesSomewhere_iff {r : Regex} {text : List Char} :
    r.matchesSomewhere text = true ↔ ∃ i ≤ text.length, ∃ j, Spans text r i j := by
  have hlength : (allMarks text).length = text.length + 1 := List.length_replicate
  have hstart : ∀ i, Marked (allMarks text) i ↔ i ≤ text.length := by
    intro i
    rw [Marked, allMarks, List.getElem?_replicate, Option.ite_none_right_eq_some, Nat.lt_succ_iff]
    exact and_iff_left rfl
  rw [matchesSomewhere, any_iff_exists_marked]
  simp only [(carries_reach text r).marked_iff hlength, hstart]
  constructor
  · rintro ⟨j, i, hi, h⟩
    exact ⟨i, hi, j, h⟩
  · rintro ⟨i, hi, j, h⟩
    exact ⟨j, i, hi, h⟩

end Regex
end Pattern
end BrokerGuard
