import BrokerGuard.Proofs.Pattern.Star
import Mathlib.Logic.Relation
/-!
# Positions — the walk along a pattern as a loop over two positions

A cursor holds what is left of the pattern and of the text.  Here the same walk is written as a loop that moves two
positions through the whole pattern and the whole text, and goes back to a star's positions on a retry; it reads an item or a
piece only where there is one, and where it takes the rest of the pattern, a position behind the end is an ending of its own
(`Ending.outOfRange`).

`starMatch_bounded` says that no position ever leaves its range and that the loop answers, as `starMatch` does, after fewer
passes than there are pairs of positions.  Both positions may move backwards, so neither of them bounds the loop; what
shrinks is the rank of the cursor that stands at them (`Cursor.rank`), for the loop and the walk go in step (`step_cursor`).
-/
namespace BrokerGuard
namespace Pattern

variable {α β : Type}

/-- Where the loop stands: at an item, at a piece, and, once there was a star, behind the most recent one, which is kept with
the first piece that it does not take yet. -/
structure Place where
  item : Nat := 0
  piece : Nat := 0
  retry : Option (Nat × Nat) := none

/-- How the loop ends. -/
inductive Ending where
  | answer (matched : Bool)
  /-- The rest of the pattern was asked for from a position behind its end. -/
  | outOfRange
  /-- The passes that were allowed are used up. -/
  | outOfFuel

/-! ## The loop -/

/-- Gives the most recent star one more piece. -/
def Place.back (x : Place) : Option Place :=
  x.retry.map fun r => ⟨r.1 + 1, r.2 + 1, some (r.1, r.2 + 1)⟩

section Loop

variable (isStar : α → Bool) (fits : α → β → Bool) (pattern : List α) (text : List β)

/-- One pass through the loop, while there is a piece.  Without a next place the text does not match. -/
def Place.pass (x : Place) (hpiece : x.piece < text.length) : Option Place :=
  if hitem : x.item < pattern.length then
    if isStar pattern[x.item] then some ⟨x.item + 1, x.piece, some (x.item, x.piece)⟩
    else if fits pattern[x.item] text[x.piece] then some ⟨x.item + 1, x.piece + 1, x.retry⟩
    else x.back
  else x.back

/-- The text is used up: stars only may be left of the pattern. -/
def Place.leave (x : Place) : Ending :=
  if x.item ≤ pattern.length then .answer ((pattern.drop x.item).all isStar) else .outOfRange

/-- The loop, with so many passes allowed. -/
def loop : Nat → Place → Ending
  | 0, x => if x.piece < text.length then .outOfFuel else x.leave isStar pattern
  | fuel + 1, x =>
    if hpiece : x.piece < text.length then
      match x.pass isStar fits pattern text hpiece with
      | some next => loop fuel next
      | none => .answer false
    else x.leave isStar pattern

/-- The places that the loop comes to. -/
inductive Reached : Place → Prop
  | start : Reached {}
  | pass {x next} (hx : Reached x) (hpiece : x.piece < text.length)
    (hpass : x.pass isStar fits pattern text hpiece = some next) : Reached next

/-- The cursor at a place. -/
def Place.cursor (x : Place) : Cursor α β where
  pattern := pattern.drop x.item
  text := text.drop x.piece
  retry := x.retry.map fun r => (pattern.drop (r.1 + 1), text.drop r.2)

/-- The walk goes on from one cursor to the next. -/
def Cursor.GoesOn (c next : Cursor α β) : Prop := c.step isStar fits = .more next

/-- The positions of a place are in range, and a retry goes back. -/
structure Place.InRange (x : Place) : Prop where
  item_le : x.item ≤ pattern.length
  piece_le : x.piece ≤ text.length
  retry_le : ∀ star consumed, x.retry = some (star, consumed) → star < x.item ∧ consumed ≤ x.piece

end Loop

section Passes

variable {isStar : α → Bool} {fits : α → β → Bool} {pattern : List α} {text : List β} {x next : Place}

/-! ## The positions stay in range -/

theorem inRange_start : Place.InRange pattern text {} where
  item_le := Nat.zero_le _
  piece_le := Nat.zero_le _
  retry_le := nofun

theorem Place.InRange.back (hx : x.InRange pattern text) (hpiece : x.piece < text.length) (hback : x.back = some next) :
    next.InRange pattern text := by
  obtain ⟨⟨star, consumed⟩, hretry, rfl⟩ := Option.map_eq_some_iff.1 hback
  obtain ⟨hstar, hconsumed⟩ := hx.retry_le star consumed hretry
  refine ⟨Nat.le_trans hstar hx.item_le, Nat.lt_of_le_of_lt hconsumed hpiece, fun star' consumed' h => ?_⟩
  cases h
  exact ⟨Nat.lt_succ_self star, Nat.le_refl _⟩

theorem Place.InRange.pass (hx : x.InRange pattern text) (hpiece : x.piece < text.length)
    (hpass : x.pass isStar fits pattern text hpiece = some next) : next.InRange pattern text := by
  unfold Place.pass at hpass
  split at hpass
  · rename_i hitem
    split at hpass
    · cases hpass
      refine ⟨hitem, hx.piece_le, fun star consumed h => ?_⟩
      cases h
      exact ⟨Nat.lt_succ_self _, Nat.le_refl _⟩
    · split at hpass
      · cases hpass
        refine ⟨hitem, hpiece, fun star consumed h => ?_⟩
        obtain ⟨hstar, hconsumed⟩ := hx.retry_le star consumed h
        exact ⟨Nat.lt_succ_of_lt hstar, Nat.le_succ_of_le hconsumed⟩
      · exact hx.back hpiece hpass
  · exact hx.back hpiece hpass

theorem Reached.inRange (h : Reached isStar fits pattern text x) : x.InRange pattern text := by
  induction h with
  | start => exact inRange_start
  | pass _ hpiece hpass ih => exact ih.pass hpiece hpass

/-! ## The loop and the walk go in step -/

theorem backtrack_cursor (hx : x.InRange pattern text) (hpiece : x.piece < text.length) :
    (x.cursor pattern text).backtrack =
      match x.back with
      | some next => .more (next.cursor pattern text)
      | none => .answer false := by
  unfold Cursor.backtrack Place.cursor Place.back
  cases hretry : x.retry with
  | none => rfl
  | some r =>
    obtain ⟨star, consumed⟩ := r
    have hconsumed : consumed < text.length := Nat.lt_of_le_of_lt (hx.retry_le star consumed hretry).2 hpiece
    simp only [Option.map_some, List.drop_eq_getElem_cons hconsumed]

/-- **A step of the cursor at a place is a pass of the loop.** -/
theorem step_cursor (hx : x.InRange pattern text) (hpiece : x.piece < text.length) :
    (x.cursor pattern text).step isStar fits =
      match x.pass isStar fits pattern text hpiece with
      | some next => .more (next.cursor pattern text)
      | none => .answer false := by
  have htext : (x.cursor pattern text).text = text[x.piece] :: text.drop (x.piece + 1) := List.drop_eq_getElem_cons hpiece
  unfold Cursor.step Place.pass
  simp only [htext]
  by_cases hitem : x.item < pattern.length
  · have hpattern : (x.cursor pattern text).pattern = pattern[x.item] :: pattern.drop (x.item + 1) :=
      List.drop_eq_getElem_cons hitem
    simp only [hpattern, dif_pos hitem]
    by_cases hstar : isStar pattern[x.item] = true
    · rw [if_pos hstar, if_pos hstar, ← htext]
      rfl
    · rw [if_neg hstar, if_neg hstar]
      by_cases hfits : fits pattern[x.item] text[x.piece] = true
      · rw [if_pos hfits, if_pos hfits]
        rfl
      · rw [if_neg hfits, if_neg hfits]
        exact backtrack_cursor hx hpiece
  · have hpattern : (x.cursor pattern text).pattern = [] := List.drop_eq_nil_iff.2 (Nat.le_of_not_lt hitem)
    simp only [hpattern, dif_neg hitem]
    exact backtrack_cursor hx hpiece

theorem step_cursor_of_end (hend : ¬ x.piece < text.length) :
    (x.cursor pattern text).step isStar fits = .answer ((pattern.drop x.item).all isStar) := by
  have htext : (x.cursor pattern text).text = [] := List.drop_eq_nil_iff.2 (Nat.le_of_not_lt hend)
  unfold Cursor.step
  simp only [htext]
  rfl

theorem leave_of_inRange (hx : x.InRange pattern text) :
    x.leave isStar pattern = .answer ((pattern.drop x.item).all isStar) := if_pos hx.item_le

theorem loop_of_end (hend : ¬ x.piece < text.length) (fuel : Nat) :
    loop isStar fits pattern text fuel x = x.leave isStar pattern := by
  cases fuel with
  | zero => exact if_neg hend
  | succ fuel => exact dif_neg hend

/-- Where the walk has its answer, the loop has it with as many passes. -/
theorem loop_of_run {matched : Bool} :
    ∀ {fuel : Nat} {x : Place}, x.InRange pattern text → (x.cursor pattern text).run isStar fits fuel = some matched →
      loop isStar fits pattern text fuel x = .answer matched
  | fuel + 1, x, hx, hrun => by
    rw [Cursor.run] at hrun
    by_cases hpiece : x.piece < text.length
    · rw [step_cursor hx hpiece] at hrun
      rw [loop, dif_pos hpiece]
      cases hpass : x.pass isStar fits pattern text hpiece with
      | none =>
        rw [hpass] at hrun
        cases hrun
        rfl
      | some next =>
        -- the range is needed at every pass: a retry reads a piece that only `retry_le` puts inside the text
        rw [hpass] at hrun
        exact loop_of_run (hx.pass hpiece hpass) hrun
    · rw [step_cursor_of_end hpiece] at hrun
      cases hrun
      rw [loop_of_end hpiece, leave_of_inRange hx]

theorem Reached.walked (h : Reached isStar fits pattern text x) :
    Relation.ReflTransGen (Cursor.GoesOn isStar fits) ⟨pattern, text, none⟩ (x.cursor pattern text) := by
  induction h with
  | start => exact .refl
  | pass hx hpiece hpass ih =>
    refine ih.tail ?_
    rw [Cursor.GoesOn, step_cursor hx.inRange hpiece, hpass]

theorem Reached.goesOn {c : Cursor α β} (hx : Reached isStar fits pattern text x)
    (h : (x.cursor pattern text).GoesOn isStar fits c) :
    ∃ next, Reached isStar fits pattern text next ∧ c = next.cursor pattern text := by
  rw [Cursor.GoesOn] at h
  by_cases hpiece : x.piece < text.length
  · rw [step_cursor hx.inRange hpiece] at h
    cases hpass : x.pass isStar fits pattern text hpiece with
    | none =>
      rw [hpass] at h
      cases h
    | some next =>
      rw [hpass] at h
      cases h
      exact ⟨next, hx.pass hpiece hpass, rfl⟩
  · rw [step_cursor_of_end hpiece] at h
    cases h

/-- The walk comes to the cursors at the places of the loop. -/
theorem walk_iff_reached {c : Cursor α β} :
    Relation.ReflTransGen (Cursor.GoesOn isStar fits) ⟨pattern, text, none⟩ c ↔
      ∃ x, Reached isStar fits pattern text x ∧ c = x.cursor pattern text := by
  constructor
  · intro h
    induction h with
    | refl => exact ⟨{}, .start, rfl⟩
    | tail _ hstep ih =>
      obtain ⟨x, hx, rfl⟩ := ih
      exact hx.goesOn hstep
  · rintro ⟨x, hx, rfl⟩
    exact hx.walked

/-! ## The loop ends -/

/-- A text that is not empty takes one pass more than the rank of the start, the empty text takes none. -/
theorem exists_passes_lt (isStar : α → Bool) (fits : α → β → Bool) (pattern : List α) (text : List β) :
    ∃ passes < (pattern.length + 1) * (text.length + 1), ∀ fuel ≥ passes,
      loop isStar fits pattern text fuel {} = .answer (starMatch isStar fits pattern text) := by
  have hanswer : ∀ fuel > pattern.length * (text.length + 1),
      loop isStar fits pattern text fuel {} = .answer (starMatch isStar fits pattern text) :=
    fun fuel hfuel => loop_of_run inRange_start (run_starMatch isStar fits pattern text hfuel)
  by_cases hempty : text.length = 0
  · have hend : ¬ (Place.mk 0 0 none).piece < text.length := by simp [hempty]
    refine ⟨0, Nat.mul_pos (Nat.succ_pos _) (Nat.succ_pos _), fun fuel _ => ?_⟩
    rw [loop_of_end hend, ← hanswer _ (Nat.lt_succ_self _), loop_of_end hend]
  · refine ⟨pattern.length * (text.length + 1) + 1, ?_, fun fuel hfuel => hanswer fuel hfuel⟩
    rw [Nat.succ_mul]
    omega

end Passes

/-- **The star loop stays in range and ends soon.**  For every pattern, every text and any two tests: wherever the loop comes
to, both positions are within the pattern and the text, and these are the cursors that the walk of `starMatch` comes to; after
fewer passes than there are pairs of positions the loop has its answer, which is that of `starMatch`; and so the steps that
`starMatch` allows its walk never run out. -/
theorem starMatch_bounded (isStar : α → Bool) (fits : α → β → Bool) (pattern : List α) (text : List β) :
    (∀ x, Reached isStar fits pattern text x → x.item ≤ pattern.length ∧ x.piece ≤ text.length) ∧
    (∀ c, Relation.ReflTransGen (Cursor.GoesOn isStar fits) ⟨pattern, text, none⟩ c ↔
      ∃ x, Reached isStar fits pattern text x ∧ c = x.cursor pattern text) ∧
    (∃ passes < (pattern.length + 1) * (text.length + 1), ∀ fuel ≥ passes,
      loop isStar fits pattern text fuel {} = .answer (starMatch isStar fits pattern text)) ∧
    (Cursor.mk pattern text none).run isStar fits ((pattern.length + 1) * (text.length + 1)) =
      some (starMatch isStar fits pattern text) := by
  refine ⟨fun x hx => ⟨hx.inRange.item_le, hx.inRange.piece_le⟩, fun c => walk_iff_reached,
    exists_passes_lt isStar fits pattern text, run_starMatch isStar fits pattern text ?_⟩
  exact Nat.mul_lt_mul_of_pos_right (Nat.lt_succ_self _) (Nat.succ_pos _)

end Pattern
end BrokerGuard
