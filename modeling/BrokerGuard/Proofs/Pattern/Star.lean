import BrokerGuard.Pattern.Star
import Mathlib.Data.List.Forall2
/-!
# Stars — one retry point is enough

What a pattern means is said without any search: the text splits into consecutive runs, one for each item, and each item
takes its run (`Splits`).  The walk of `starMatch` gives up every star but the most recent, and still finds a split whenever
there is one (`starMatch_iff`).

Two facts about single steps carry this.  Between two retries the cursor walks over items and pieces one by one, with no star
among the items (`Cursor.Straight`); so whatever an earlier star could still gain, a later star can take over
(`Resumes.matched_of_star`), and a step changes nothing about whether there is a match (`Move.matches_iff`).  And each step
brings the cursor nearer to its end (`Move.rank_lt`), so the steps that `starMatch` allows are enough.
-/
namespace BrokerGuard
namespace Pattern

variable {α β : Type}

/-! ## What a pattern means -/

section Meaning

variable {IsStar : α → Prop} {Fits : α → β → Prop}

/-- A star takes any run, every other item takes one piece that fits it. -/
def Takes (IsStar : α → Prop) (Fits : α → β → Prop) (item : α) (run : List β) : Prop :=
  IsStar item ∨ ∃ piece, run = [piece] ∧ Fits item piece

/-- The text splits into consecutive runs, one for each item of the pattern in order, and each item takes its run. -/
def Splits (IsStar : α → Prop) (Fits : α → β → Prop) (pattern : List α) (text : List β) : Prop :=
  ∃ runs : List (List β), runs.flatten = text ∧ List.Forall₂ (Takes IsStar Fits) pattern runs

theorem splits_nil_iff {text : List β} : Splits IsStar Fits [] text ↔ text = [] := by
  constructor
  · rintro ⟨runs, rfl, hruns⟩
    rw [List.forall₂_nil_left_iff.1 hruns]
    rfl
  · rintro rfl
    exact ⟨[], rfl, .nil⟩

theorem splits_cons_iff {item : α} {items : List α} {text : List β} :
    Splits IsStar Fits (item :: items) text ↔
      ∃ run rest, text = run ++ rest ∧ Takes IsStar Fits item run ∧ Splits IsStar Fits items rest := by
  constructor
  · rintro ⟨runs, rfl, hruns⟩
    obtain ⟨run, rest, htakes, hrest, rfl⟩ := List.forall₂_cons_left_iff.1 hruns
    exact ⟨run, rest.flatten, rfl, htakes, rest, rfl, hrest⟩
  · rintro ⟨run, _, rfl, htakes, rest, rfl, hrest⟩
    exact ⟨run :: rest, rfl, .cons htakes hrest⟩

theorem splits_star_iff {star : α} (hstar : IsStar star) {items : List α} {text : List β} :
    Splits IsStar Fits (star :: items) text ↔ ∃ rest, rest <:+ text ∧ Splits IsStar Fits items rest := by
  rw [splits_cons_iff]
  constructor
  · rintro ⟨run, rest, rfl, -, hrest⟩
    exact ⟨rest, List.suffix_append run rest, hrest⟩
  · rintro ⟨rest, ⟨run, rfl⟩, hrest⟩
    exact ⟨run, rest, rfl, .inl hstar, hrest⟩

theorem splits_item_iff {item : α} (hitem : ¬ IsStar item) {items : List α} {text : List β} :
    Splits IsStar Fits (item :: items) text ↔
      ∃ piece rest, text = piece :: rest ∧ Fits item piece ∧ Splits IsStar Fits items rest := by
  rw [splits_cons_iff]
  constructor
  · rintro ⟨run, rest, rfl, hstar | ⟨piece, rfl, hfits⟩, hrest⟩
    · exact absurd hstar hitem
    · exact ⟨piece, rest, rfl, hfits, hrest⟩
  · rintro ⟨piece, rest, rfl, hfits, hrest⟩
    exact ⟨[piece], rest, rfl, .inr ⟨piece, rfl, hfits⟩, hrest⟩

theorem splits_item_cons_iff {item : α} (hitem : ¬ IsStar item) {items : List α} {piece : β} {text : List β} :
    Splits IsStar Fits (item :: items) (piece :: text) ↔ Fits item piece ∧ Splits IsStar Fits items text := by
  rw [splits_item_iff hitem]
  constructor
  · rintro ⟨_, _, heq, hfits, hrest⟩
    obtain ⟨rfl, rfl⟩ := List.cons.inj heq
    exact ⟨hfits, hrest⟩
  · rintro ⟨hfits, hrest⟩
    exact ⟨piece, text, rfl, hfits, hrest⟩

theorem splits_end_iff : ∀ {items : List α}, Splits IsStar Fits items [] ↔ ∀ item ∈ items, IsStar item
  | [] => by
    rw [splits_nil_iff]
    exact ⟨fun _ _ h => absurd h List.not_mem_nil, fun _ => rfl⟩
  | item :: items => by
    have hrest : Splits IsStar Fits items [] ↔ ∀ item ∈ items, IsStar item := splits_end_iff
    rw [List.forall_mem_cons, ← hrest]
    by_cases hstar : IsStar item
    · rw [splits_star_iff hstar]
      constructor
      · rintro ⟨rest, hsuffix, hsplits⟩
        exact ⟨hstar, List.suffix_nil.1 hsuffix ▸ hsplits⟩
      · rintro ⟨-, hsplits⟩
        exact ⟨[], List.suffix_rfl, hsplits⟩
    · rw [splits_item_iff hstar]
      constructor
      · rintro ⟨_, _, heq, -⟩
        cases heq
      · rintro ⟨h, -⟩
        exact absurd h hstar

/-- A run of other items takes as many pieces as it has items. -/
theorem splits_straight {walked items : List α} (hwalked : ∀ item ∈ walked, ¬ IsStar item) {text : List β}
    (h : Splits IsStar Fits (walked ++ items) text) :
    ∃ taken rest, text = taken ++ rest ∧ taken.length = walked.length ∧ Splits IsStar Fits items rest := by
  induction walked generalizing text with
  | nil => exact ⟨[], text, rfl, rfl, h⟩
  | cons item walked ih =>
    rw [List.cons_append, splits_item_iff (hwalked item List.mem_cons_self)] at h
    obtain ⟨piece, text, rfl, -, h⟩ := h
    obtain ⟨taken, rest, rfl, hlength, hrest⟩ := ih (fun i hi => hwalked i (List.mem_cons_of_mem item hi)) h
    exact ⟨piece :: taken, rest, rfl, congrArg Nat.succ hlength, hrest⟩

theorem Splits.mono {IsStar' : α → Prop} {Fits' : α → β → Prop} {pattern : List α} {text : List β}
    (h : Splits IsStar Fits pattern text) (hstar : ∀ item ∈ pattern, IsStar item → IsStar' item)
    (hfits : ∀ item ∈ pattern, ¬ IsStar item → ∀ piece ∈ text, Fits item piece → Fits' item piece) :
    Splits IsStar' Fits' pattern text := by
  induction pattern generalizing text with
  | nil => exact splits_nil_iff.2 (splits_nil_iff.1 h)
  | cons item items ih =>
    obtain ⟨run, rest, rfl, htakes, hrest⟩ := splits_cons_iff.1 h
    refine splits_cons_iff.2 ⟨run, rest, rfl, ?_, ih hrest (fun i hi => hstar i (List.mem_cons_of_mem item hi))
      fun i hi hn piece hpiece => hfits i (List.mem_cons_of_mem item hi) hn piece (List.mem_append_right run hpiece)⟩
    by_cases hitem : IsStar item
    · exact .inl (hstar item List.mem_cons_self hitem)
    · obtain ⟨piece, rfl, hpiece⟩ := htakes.resolve_left hitem
      exact .inr ⟨piece, rfl, hfits item List.mem_cons_self hitem piece List.mem_cons_self hpiece⟩

theorem splits_congr {IsStar' : α → Prop} {Fits' : α → β → Prop} {pattern : List α} {text : List β}
    (hstar : ∀ item ∈ pattern, IsStar item ↔ IsStar' item)
    (hfits : ∀ item ∈ pattern, ¬ IsStar item → ∀ piece ∈ text, Fits item piece ↔ Fits' item piece) :
    Splits IsStar Fits pattern text ↔ Splits IsStar' Fits' pattern text := by
  constructor
  · intro h
    exact h.mono (fun i hi => (hstar i hi).1) fun i hi hn t ht => (hfits i hi hn t ht).1
  · intro h
    exact h.mono (fun i hi => (hstar i hi).2) fun i hi hn t ht => (hfits i hi (mt (hstar i hi).1 hn) t ht).2

theorem splits_map_iff {γ : Type} {f : γ → α} {pattern : List γ} {text : List β} :
    Splits IsStar Fits (pattern.map f) text ↔
      Splits (fun item => IsStar (f item)) (fun item piece => Fits (f item) piece) pattern text := by
  unfold Splits
  simp only [List.forall₂_map_left_iff]
  rfl

end Meaning

/-! ## The walk -/

section Walk

variable {isStar : α → Bool} {fits : α → β → Bool} {c next : Cursor α β}

/-- The text splits along the pattern, by the tests of the walk. -/
def Matched (isStar : α → Bool) (fits : α → β → Bool) : List α → List β → Prop :=
  Splits (fun p => isStar p = true) fun p t => fits p t = true

theorem matched_star_iff {star : α} (hstar : isStar star = true) {items : List α} {text : List β} :
    Matched isStar fits (star :: items) text ↔ ∃ rest, rest <:+ text ∧ Matched isStar fits items rest :=
  @splits_star_iff α β (fun p => isStar p = true) _ star hstar items text

theorem matched_item_cons_iff {item : α} (hitem : ¬ isStar item = true) {items : List α} {t : β} {text : List β} :
    Matched isStar fits (item :: items) (t :: text) ↔ fits item t = true ∧ Matched isStar fits items text :=
  @splits_item_cons_iff α β (fun p => isStar p = true) (fun p t => fits p t = true) item hitem items t text

/-- There is text, and what stands next in the pattern, if anything does, is no star and does not fit it. -/
def Cursor.Misses (isStar : α → Bool) (fits : α → β → Bool) (c : Cursor α β) : Prop :=
  ∃ t rest, c.text = t :: rest ∧ ∀ p items, c.pattern = p :: items → ¬ isStar p = true ∧ ¬ fits p t = true

theorem Cursor.Misses.not_matched (h : c.Misses isStar fits) : ¬ Matched isStar fits c.pattern c.text := by
  obtain ⟨t, rest, htext, hnext⟩ := h
  intro hmatched
  rw [htext] at hmatched
  cases hpattern : c.pattern with
  | nil =>
    rw [hpattern] at hmatched
    cases splits_nil_iff.1 hmatched
  | cons p items =>
    obtain ⟨hstar, hfits⟩ := hnext p items hpattern
    rw [hpattern] at hmatched
    exact hfits ((matched_item_cons_iff hstar).1 hmatched).1

/-- The steps after which a walk goes on. -/
inductive Move (isStar : α → Bool) (fits : α → β → Bool) : Cursor α β → Cursor α β → Prop
  | star {p items t rest retry} (hstar : isStar p = true) :
    Move isStar fits ⟨p :: items, t :: rest, retry⟩ ⟨items, t :: rest, some (items, t :: rest)⟩
  | item {p items t rest retry} (hstar : ¬ isStar p = true) (hfits : fits p t = true) :
    Move isStar fits ⟨p :: items, t :: rest, retry⟩ ⟨items, rest, retry⟩
  | retry {pattern text items t rest} (hmisses : Cursor.Misses isStar fits ⟨pattern, text, some (items, t :: rest)⟩) :
    Move isStar fits ⟨pattern, text, some (items, t :: rest)⟩ ⟨items, rest, some (items, rest)⟩

theorem Cursor.Misses.backtrack (h : c.Misses isStar fits) :
    (∃ next, c.backtrack = .more next ∧ Move isStar fits c next) ∨
      c.backtrack = .answer false ∧ ∀ items t rest, c.retry ≠ some (items, t :: rest) := by
  obtain ⟨pattern, text, _ | ⟨items, _ | ⟨t, rest⟩⟩⟩ := c
  · exact .inr ⟨rfl, fun _ _ _ => nofun⟩
  · exact .inr ⟨rfl, fun _ _ _ => nofun⟩
  · exact .inl ⟨_, rfl, .retry h⟩

/-- **What a step can do:** it moves, or answers at the end of the text, or misses with nothing to retry. -/
theorem step_cases (isStar : α → Bool) (fits : α → β → Bool) (c : Cursor α β) :
    (∃ next, c.step isStar fits = .more next ∧ Move isStar fits c next) ∨
      (c.step isStar fits = .answer (c.pattern.all isStar) ∧ c.text = []) ∨
      (c.step isStar fits = .answer false ∧ c.Misses isStar fits ∧
        ∀ items t rest, c.retry ≠ some (items, t :: rest)) := by
  have hmissed : c.Misses isStar fits → c.step isStar fits = c.backtrack →
      (∃ next, c.step isStar fits = .more next ∧ Move isStar fits c next) ∨
        (c.step isStar fits = .answer (c.pattern.all isStar) ∧ c.text = []) ∨
        (c.step isStar fits = .answer false ∧ c.Misses isStar fits ∧
          ∀ items t rest, c.retry ≠ some (items, t :: rest)) := by
    intro hmisses hstep
    rw [hstep]
    rcases hmisses.backtrack with h | ⟨hanswer, hretry⟩
    · exact .inl h
    · exact .inr (.inr ⟨hanswer, hmisses, hretry⟩)
  obtain ⟨_ | ⟨p, items⟩, _ | ⟨t, rest⟩, retry⟩ := c
  · exact .inr (.inl ⟨rfl, rfl⟩)
  · exact hmissed ⟨t, rest, rfl, fun _ _ => nofun⟩ rfl
  · exact .inr (.inl ⟨rfl, rfl⟩)
  · by_cases hstar : isStar p = true
    · exact .inl ⟨_, by rw [Cursor.step]; exact if_pos hstar, .star hstar⟩
    · by_cases hfits : fits p t = true
      · refine .inl ⟨_, ?_, .item hstar hfits⟩
        rw [Cursor.step]
        exact (if_neg hstar).trans (if_pos hfits)
      · refine hmissed ⟨t, rest, rfl, ?_⟩ ?_
        · intro p' items' heq
          obtain ⟨rfl, rfl⟩ := List.cons.inj heq
          exact ⟨hstar, hfits⟩
        · rw [Cursor.step]
          exact (if_neg hstar).trans (if_neg hfits)

/-! ## What a cursor stands for -/

/-- Since its retry point, the cursor walked over other items than stars, and over one piece for each. -/
def Cursor.Straight (isStar : α → Bool) (c : Cursor α β) : Prop :=
  ∀ items text, c.retry = some (items, text) → ∃ walked taken, items = walked ++ c.pattern ∧ text = taken ++ c.text ∧
    taken.length = walked.length ∧ ∀ item ∈ walked, ¬ isStar item = true

/-- Some text shorter than `text` matches once the star before `items` takes what is in front of it. -/
def Resumes (isStar : α → Bool) (fits : α → β → Bool) (items : List α) (text : List β) : Prop :=
  ∃ rest, rest <:+ text ∧ rest.length < text.length ∧ Matched isStar fits items rest

/-- A match is left to the cursor: from where it stands, or after its star takes more. -/
def Cursor.Matches (isStar : α → Bool) (fits : α → β → Bool) (c : Cursor α β) : Prop :=
  Matched isStar fits c.pattern c.text ∨ ∃ items text, c.retry = some (items, text) ∧ Resumes isStar fits items text

theorem Move.straight (h : Move isStar fits c next) (hc : c.Straight isStar) : next.Straight isStar := by
  intro items text hretry
  cases h with
  | star hstar =>
    cases hretry
    exact ⟨[], [], rfl, rfl, rfl, fun _ h => absurd h List.not_mem_nil⟩
  | @item p items' t rest retry hstar hfits =>
    obtain ⟨walked, taken, rfl, rfl, hlength, hwalked⟩ := hc items text hretry
    refine ⟨walked ++ [p], taken ++ [t], by simp, by simp, by simp [hlength], ?_⟩
    intro item hitem
    rcases List.mem_append.1 hitem with hitem | hitem
    · exact hwalked item hitem
    · rw [List.mem_singleton.1 hitem]
      exact hstar
  | retry hmisses =>
    cases hretry
    exact ⟨[], [], rfl, rfl, rfl, fun _ h => absurd h List.not_mem_nil⟩

/-- **What an earlier star could still gain, a later star can take over.** -/
theorem Resumes.matched_of_star {walked later : List α} {star : α} {taken here : List β}
    (hwalked : ∀ item ∈ walked, ¬ isStar item = true) (hlength : taken.length = walked.length)
    (hstar : isStar star = true) (h : Resumes isStar fits (walked ++ star :: later) (taken ++ here)) :
    Matched isStar fits (star :: later) here := by
  obtain ⟨rest, hsuffix, hshorter, hrest⟩ := h
  obtain ⟨taken', rest', rfl, htaken', hrest'⟩ := splits_straight hwalked hrest
  obtain ⟨tail, htail, hlater⟩ := (matched_star_iff hstar).1 hrest'
  -- both are what is left of the same text, and the earlier star has taken more of it
  have hle : rest'.length ≤ here.length := by
    simp only [List.length_append] at hshorter
    omega
  have hhere : rest' <:+ here :=
    List.suffix_of_suffix_length_le ((List.suffix_append taken' rest').trans hsuffix) (List.suffix_append taken here) hle
  exact (matched_star_iff hstar).2 ⟨tail, htail.trans hhere, hlater⟩

theorem resumes_cons_iff {items : List α} {t : β} {rest : List β} :
    Resumes isStar fits items (t :: rest) ↔ Matched isStar fits items rest ∨ Resumes isStar fits items rest := by
  constructor
  · rintro ⟨tail, hsuffix, hshorter, htail⟩
    rcases List.suffix_cons_iff.1 hsuffix with rfl | hsuffix
    · exact absurd hshorter (Nat.lt_irrefl _)
    · rcases Nat.lt_or_ge tail.length rest.length with hlt | hge
      · exact .inr ⟨tail, hsuffix, hlt, htail⟩
      · exact .inl (hsuffix.eq_of_length_le hge ▸ htail)
  · rintro (hrest | ⟨tail, hsuffix, hshorter, htail⟩)
    · exact ⟨rest, List.suffix_cons t rest, Nat.lt_succ_self _, hrest⟩
    · exact ⟨tail, hsuffix.trans (List.suffix_cons t rest), Nat.lt_succ_of_lt hshorter, htail⟩

/-- **A move changes nothing about whether a match is left.** -/
theorem Move.matches_iff (h : Move isStar fits c next) (hc : c.Straight isStar) :
    next.Matches isStar fits ↔ c.Matches isStar fits := by
  cases h with
  | @star p items t rest retry hstar =>
    -- the star takes nothing, or something: these are the two ways in which the next cursor matches
    have hsplit : Matched isStar fits (p :: items) (t :: rest) ↔
        Matched isStar fits items (t :: rest) ∨ Resumes isStar fits items (t :: rest) := by
      rw [matched_star_iff hstar]
      constructor
      · rintro ⟨tail, hsuffix, htail⟩
        rcases Nat.lt_or_ge tail.length (t :: rest).length with hlt | hge
        · exact .inr ⟨tail, hsuffix, hlt, htail⟩
        · exact .inl (hsuffix.eq_of_length_le hge ▸ htail)
      · rintro (hnow | ⟨tail, hsuffix, -, htail⟩)
        · exact ⟨t :: rest, List.suffix_rfl, hnow⟩
        · exact ⟨tail, hsuffix, htail⟩
    constructor
    · rintro (hnow | ⟨_, _, heq, hlater⟩)
      · exact .inl (hsplit.2 (.inl hnow))
      · cases heq
        exact .inl (hsplit.2 (.inr hlater))
    · rintro (hnow | ⟨items', text', heq, hlater⟩)
      · exact (hsplit.1 hnow).imp_right fun hlater => ⟨items, t :: rest, rfl, hlater⟩
      · obtain ⟨walked, taken, rfl, rfl, hlength, hwalked⟩ := hc items' text' heq
        have hover := hlater.matched_of_star hwalked hlength hstar
        exact (hsplit.1 hover).imp_right fun hlater => ⟨items, t :: rest, rfl, hlater⟩
  | item hstar hfits =>
    refine or_congr ?_ Iff.rfl
    exact ⟨fun h => (matched_item_cons_iff hstar).2 ⟨hfits, h⟩, fun h => ((matched_item_cons_iff hstar).1 h).2⟩
  | @retry pattern text items t rest hmisses =>
    constructor
    · rintro (hnow | ⟨_, _, heq, hlater⟩)
      · exact .inr ⟨items, t :: rest, rfl, resumes_cons_iff.2 (.inl hnow)⟩
      · cases heq
        exact .inr ⟨items, t :: rest, rfl, resumes_cons_iff.2 (.inr hlater)⟩
    · rintro (hnow | ⟨_, _, heq, hlater⟩)
      · exact absurd hnow hmisses.not_matched
      · cases heq
        exact (resumes_cons_iff.1 hlater).imp_right fun h => ⟨items, rest, rfl, h⟩

/-- At the end of the text a star that takes more leaves too little for the items behind it. -/
theorem matches_of_text_eq_nil (hc : c.Straight isStar) (htext : c.text = []) :
    c.Matches isStar fits ↔ c.pattern.all isStar = true := by
  have hnow : Matched isStar fits c.pattern c.text ↔ c.pattern.all isStar = true := by
    rw [htext, List.all_eq_true]
    exact splits_end_iff
  rw [← hnow]
  refine ⟨fun h => h.resolve_right ?_, .inl⟩
  rintro ⟨items, text, hretry, rest, hsuffix, hshorter, hrest⟩
  obtain ⟨walked, taken, rfl, rfl, hlength, hwalked⟩ := hc items text hretry
  obtain ⟨taken', rest', rfl, htaken', -⟩ := splits_straight hwalked hrest
  rw [htext] at hshorter
  simp only [List.length_append, List.length_nil] at hshorter
  omega

theorem not_matches_of_misses (hmisses : c.Misses isStar fits) (hretry : ∀ items t rest, c.retry ≠ some (items, t :: rest)) :
    ¬ c.Matches isStar fits := by
  rintro (hnow | ⟨items, text, heq, rest, -, hshorter, -⟩)
  · exact hmisses.not_matched hnow
  · cases text with
    | nil => exact absurd hshorter (Nat.not_lt_zero _)
    | cons t rest => exact hretry items t rest heq

/-! ## How far a walk goes -/

/-- More than the steps that are left: each retry costs the star a piece, and then one step for each item behind it. -/
def Cursor.rank (c : Cursor α β) : Nat :=
  match c.retry with
  | none => c.pattern.length * (c.text.length + 1)
  | some (items, text) => c.pattern.length + text.length * (items.length + 1)

theorem Move.rank_lt (h : Move isStar fits c next) (hc : c.Straight isStar) : next.rank < c.rank := by
  cases h with
  | @star p items t rest retry hstar =>
    rcases retry with _ | ⟨items', text'⟩
    · have hcomm := Nat.mul_comm items.length rest.length
      simp only [Cursor.rank, List.length_cons, Nat.mul_add, Nat.add_mul]
      omega
    · obtain ⟨walked, taken, hitems, htext, -, -⟩ := hc items' text' rfl
      have hle : (t :: rest).length * (items.length + 1) ≤ text'.length * (items'.length + 1) := by
        refine Nat.mul_le_mul ?_ ?_
        · rw [htext, List.length_append]
          exact Nat.le_add_left _ _
        · rw [hitems, List.length_append, List.length_cons]
          omega
      simp only [Cursor.rank]
      simp only [List.length_cons] at hle ⊢
      omega
  | @item p items t rest retry hstar hfits =>
    rcases retry with _ | ⟨items', text'⟩
    · simp only [Cursor.rank, List.length_cons, Nat.mul_add, Nat.add_mul]
      omega
    · simp only [Cursor.rank, List.length_cons]
      omega
  | @retry pattern text items t rest hmisses =>
    simp only [Cursor.rank, List.length_cons, Nat.add_mul]
    omega

/-- **A walk with enough steps answers, and its answer is right.** -/
theorem run_of_rank_lt : ∀ {steps : Nat} {c : Cursor α β}, c.Straight isStar → c.rank < steps →
    ∃ b, c.run isStar fits steps = some b ∧ (b = true ↔ c.Matches isStar fits)
  | steps + 1, c, hc, hsteps => by
    unfold Cursor.run
    rcases step_cases isStar fits c with ⟨next, hstep, hmove⟩ | ⟨hstep, htext⟩ | ⟨hstep, hmisses, hretry⟩
    · have hrank : next.rank < steps := Nat.lt_of_lt_of_le (hmove.rank_lt hc) (Nat.le_of_lt_succ hsteps)
      obtain ⟨b, hrun, hb⟩ := run_of_rank_lt (hmove.straight hc) hrank
      rw [hstep]
      exact ⟨b, hrun, hb.trans (hmove.matches_iff hc)⟩
    · rw [hstep]
      exact ⟨_, rfl, (matches_of_text_eq_nil hc htext).symm⟩
    · rw [hstep]
      exact ⟨false, rfl, nofun, fun h => absurd h (not_matches_of_misses hmisses hretry)⟩

section Start

variable (isStar : α → Bool) (fits : α → β → Bool) (pattern : List α) (text : List β) {steps : Nat}

/-- From the start, more steps than its rank are enough. -/
theorem run_start (hsteps : pattern.length * (text.length + 1) < steps) :
    ∃ b, (Cursor.mk pattern text none).run isStar fits steps = some b ∧ (b = true ↔ Matched isStar fits pattern text) := by
  have hstraight : (Cursor.mk pattern text none).Straight isStar := fun _ _ => nofun
  have hrank : (Cursor.mk pattern text none).rank < steps := hsteps
  obtain ⟨b, hrun, hb⟩ : ∃ b, (Cursor.mk pattern text none).run isStar fits steps = some b ∧
      (b = true ↔ (Cursor.mk pattern text none).Matches isStar fits) := run_of_rank_lt hstraight hrank
  refine ⟨b, hrun, hb.trans ⟨fun h => h.resolve_right ?_, .inl⟩⟩
  rintro ⟨_, _, heq, -⟩
  cases heq

theorem run_starMatch (hsteps : pattern.length * (text.length + 1) < steps) :
    (Cursor.mk pattern text none).run isStar fits steps = some (starMatch isStar fits pattern text) := by
  have hallowed : pattern.length * (text.length + 1) < (pattern.length + 1) * (text.length + 1) :=
    Nat.mul_lt_mul_of_pos_right (Nat.lt_succ_self _) (Nat.succ_pos _)
  obtain ⟨b, hrun, hb⟩ := run_start isStar fits pattern text hsteps
  obtain ⟨b', hrun', hb'⟩ := run_start isStar fits pattern text hallowed
  rw [starMatch, hrun', Option.getD_some, hrun, Bool.eq_iff_iff.2 (hb.trans hb'.symm)]

/-- **One retry point is enough.**  The walk says yes exactly when the text splits along the pattern. -/
theorem starMatch_iff : starMatch isStar fits pattern text = true ↔
    Splits (fun p => isStar p = true) (fun p t => fits p t = true) pattern text := by
  have hsteps := Nat.lt_succ_self (pattern.length * (text.length + 1))
  obtain ⟨b, hrun, hb⟩ := run_start isStar fits pattern text hsteps
  rw [run_starMatch isStar fits pattern text hsteps] at hrun
  cases hrun
  exact hb

end Start

end Walk

end Pattern
end BrokerGuard
