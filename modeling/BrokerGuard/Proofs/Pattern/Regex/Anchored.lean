import BrokerGuard.Proofs.Pattern.Regex.Sequence
import BrokerGuard.Proofs.Pattern.Regex.Meaning
/-!
# Anchored expressions — a text in a group between anchors

A text is put between `^(?:` and `)$`, and the whole is read.  If the text is an expression by itself, what is read is that
expression in a group between the anchors (`ofText?_spliced`): the closing stands behind the text, or a comment at its end has
taken the closing away, and then the group has no end and nothing is read.  Somewhere in a text the anchored expression matches
just what the expression matches as a whole (`betweenAnchors_matchesSomewhere_iff`), so that the splice says what it is meant to
say.

None of this holds of a text that is no expression by itself: it may close the group and open another one.
-/
namespace BrokerGuard
namespace Pattern
namespace Regex

/-! ## Reading the anchored form -/

/-- The text in a group between anchors. -/
def spliced (text : List Char) : List Char := '^' :: '(' :: '?' :: ':' :: (text ++ closing)

/-- The expression in a group between anchors. -/
def betweenAnchors (r : Regex) : Regex := .concat (.place .textStart) (.concat (.group none r) (.place .textStop))

theorem readSequence_unmarked {steps : Nat} {f : Flags} {items : List Reading} {c : Char} {rest : List Char}
    {operand : Reading} (hc : f.skip (c :: rest) = c :: rest) (hplain : ¬(c = '|' ∨ c = ')') ∧ c ≠ '(')
    (hoperand : readOperand (steps + 1) f (c :: rest) = some (operand, rest))
    (hmark : readMark f (f.skip rest) = some (none, rest)) :
    readSequence (steps + 2) f items (c :: rest) = readSequence (steps + 1) f (operand :: items) rest := by
  rw [readSequence_cons hc, if_neg hplain.1, if_neg hplain.2, hoperand, Option.bind_some, readMarks_succ, hmark]
  rfl

theorem readOpening_colon (text : List Char) : readOpening {} ('?' :: ':' :: text) = some (.group {} false [], text) := by
  have hangle : (':' :: text).head? ≠ some '<' := nofun
  have hletter : (':' :: text).head? ≠ some 'P' := nofun
  rw [readOpening_mark rfl, readSpecial_plain hangle hletter]
  rfl

/-- The place at the start is read, and then the group. -/
theorem readSequence_spliced (steps : Nat) (text : List Char) :
    readSequence (steps + 4) {} [] (spliced text) = (readGroup (steps + 2) {} false [] (text ++ closing)).bind fun r =>
      (readMarks (steps + 2) {} r.1 r.2).bind fun r =>
        readSequence (steps + 2) {} [r.1, ⟨.place .textStart, 0, []⟩] r.2 := by
  unfold spliced
  rw [readSequence_unmarked rfl (by decide) rfl rfl, readSequence_cons rfl, if_neg (by decide), if_pos rfl,
    readOpening_colon]
  rfl

theorem readAlternatives_spliced {steps : Nat} {text : List Char} {body : Reading}
    (h : readAlternatives (steps + 2) {} [] (text ++ closing) = some (body, closing)) :
    (readAlternatives (steps + 5) {} [] (spliced text)).map (·.1.regex) = some (betweenAnchors body.regex) := by
  have hgroup : readGroup (steps + 2) {} false [] (text ++ closing) = some (body.grouped none [], ['$']) := by
    rw [readGroup, h]
    rfl
  have hmarks : readMarks (steps + 2) {} (body.grouped none []) ['$'] = some (body.grouped none [], ['$']) := by
    rw [readMarks_succ]
    rfl
  rw [readAlternatives_succ, readSequence_spliced, hgroup, Option.bind_some, hmarks, Option.bind_some,
    readSequence_unmarked rfl (by decide) rfl rfl, readSequence_nil rfl]
  rfl

/-- Without the closing the group has no end. -/
theorem readAlternatives_spliced_eq_none {steps : Nat} {text : List Char} {body : Reading}
    (h : readAlternatives (steps + 2) {} [] (text ++ closing) = some (body, [])) :
    readAlternatives (steps + 5) {} [] (spliced text) = none := by
  have hgroup : readGroup (steps + 2) {} false [] (text ++ closing) = none := by
    rw [readGroup, h]
    rfl
  rw [readAlternatives_succ, readSequence_spliced, hgroup]
  rfl

theorem exists_reading_of_ofText? {text : List Char} {r : Regex} (h : ofText? text = some r) :
    ∃ body : Reading, readAlternatives (4 * text.length + 4) {} [] text = some (body, []) ∧ body.regex = r := by
  unfold ofText? at h
  split at h
  · rename_i body hread
    split at h
    · cases h
      exact ⟨body, hread, rfl⟩
    · cases h
  · cases h

/-- The anchored form of a text that is an expression by itself is read as that expression between anchors, if it is read. -/
theorem ofText?_spliced {text : List Char} {r program : Regex} (h : ofText? text = some r)
    (hspliced : ofText? (spliced text) = some program) : program = betweenAnchors r.shift := by
  obtain ⟨body, hbody, rfl⟩ := exists_reading_of_ofText? h
  obtain ⟨whole, hwhole, rfl⟩ := exists_reading_of_ofText? hspliced
  have hlength : 4 * (spliced text).length + 4 = 4 * text.length + 23 + 5 := by
    simp only [spliced, closing, List.length_cons, List.length_append, List.length_nil]
    omega
  have hsteps : 4 * text.length + 4 ≤ 4 * text.length + 23 + 2 := by omega
  rw [hlength] at hwhole
  obtain ⟨rest, hrest, hinner⟩ := (sequencesFollow hsteps).alternatives {} [] (.behind text) hbody
  cases hrest with
  | behind =>
    have heq := readAlternatives_spliced hinner
    rw [hwhole] at heq
    exact Option.some.inj heq
  | taken =>
    rw [readAlternatives_spliced_eq_none hinner] at hwhole
    cases hwhole

/-! ## What the anchored form matches -/

theorem spans_shift_iff {text : List Char} {r : Regex} {i j : Nat} : Spans text r.shift i j ↔ Spans text r i j := by
  induction r generalizing i j with
  | empty => rfl
  | chars => rfl
  | place => rfl
  | concat first second ih₁ ih₂ => simp only [shift, Spans, ih₁, ih₂]
  | alt first second ih₁ ih₂ => simp only [shift, Spans, ih₁, ih₂]
  | repetition body least most greedy ih =>
    have hstep : Spans text body.shift = Spans text body := funext fun _ => funext fun _ => propext ih
    simp only [shift, Spans, hstep]
  | group label body ih => exact ih

theorem holds_textStart_iff {text : List Char} {i : Nat} (hi : i ≤ text.length) :
    Anchor.textStart.holds (previous none text i) text[i]? = true ↔ i = 0 := by
  cases i with
  | zero => exact ⟨fun _ => rfl, fun _ => rfl⟩
  | succ i => simp [Anchor.holds, previous, Nat.lt_of_succ_le hi]

theorem holds_textStop_iff {text : List Char} {j : Nat} (hj : j ≤ text.length) :
    Anchor.textStop.holds (previous none text j) text[j]? = true ↔ j = text.length := by
  rw [Anchor.holds, Option.isNone_iff_eq_none, List.getElem?_eq_none_iff]
  exact ⟨Nat.le_antisymm hj, fun heq => Nat.le_of_eq heq.symm⟩

/-- Somewhere in a text the anchored expression matches what the expression matches as a whole. -/
theorem betweenAnchors_matchesSomewhere_iff {r : Regex} {text : List Char} :
    (betweenAnchors r).matchesSomewhere text = true ↔ Spans text r 0 text.length := by
  rw [matchesSomewhere_iff]
  constructor
  · rintro ⟨i, hi, j, k, ⟨hstart, rfl⟩, l, hspan, hstop, rfl⟩
    obtain rfl := (holds_textStart_iff hi).1 hstart
    obtain rfl := (holds_textStop_iff (hspan.le_length hi)).1 hstop
    exact hspan
  · intro h
    have hstart := (holds_textStart_iff (Nat.zero_le text.length)).2 rfl
    have hstop := (holds_textStop_iff (Nat.le_refl text.length)).2 rfl
    exact ⟨0, Nat.zero_le _, text.length, 0, ⟨hstart, rfl⟩, text.length, h, hstop, rfl⟩

end Regex
end Pattern
end BrokerGuard
