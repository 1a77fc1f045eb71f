import BrokerGuard.Proofs.Pattern.Ant
import Mathlib
/-!
# ASCII letter case — a pattern that ignores it does not see it

A pattern that ignores letter case compares in two ways: parts without `*` and `?` up to the case of ASCII letters, all other
parts in full lower case, where what becomes of a character can depend on its neighbours.  The case of an ASCII letter makes
no difference to either.  In particular it does not change which letter a capital sigma becomes beside it, since ASCII letters
are cased in both forms (`Text.lower_map_toLower`).  Nor does it move a separator, a brace or a wildcard.

So pattern and path can be put in lower case without changing the answer (`Ant.accepts_lowerAscii`), and two patterns and two
paths that differ in the case of ASCII letters only are answered alike (`Ant.ignoringCase_accepts_eq_of_lowerAscii_eq`).
-/
namespace BrokerGuard

/-- A character that is no ASCII letter is the lower case of no other. -/
theorem toLower_eq_iff_of_not_isAlpha {c d : Char} (hd : ¬ d.isAlpha = true) : c.toLower = d ↔ c = d := by
  constructor
  · rintro rfl
    rw [Char.isAlpha_toLower_eq_isAlpha] at hd
    refine (Char.toLower_eq_of_not_isUpper fun hupper => hd ?_).symm
    rw [Char.isAlpha, hupper, Bool.true_or]
  · rintro rfl
    exact Char.toLower_eq_of_not_isUpper fun hupper => hd (Bool.or_eq_true_iff.2 (.inl hupper))

theorem mem_map_toLower_iff {cs : List Char} {d : Char} (hd : ¬ d.isAlpha = true) : d ∈ cs.map Char.toLower ↔ d ∈ cs := by
  simp only [List.mem_map, toLower_eq_iff_of_not_isAlpha hd, exists_eq_right]

namespace Text

/-! ## Lower case -/

/-- The scalar values of an ASCII letter. -/
theorem toNat_of_isAlpha {c : Char} (h : c.isAlpha = true) :
    (65 ≤ c.toNat ∧ c.toNat ≤ 90) ∨ (97 ≤ c.toNat ∧ c.toNat ≤ 122) := by
  simpa [Char.isAlpha, Char.isUpper, Char.isLower, UInt32.le_iff_toNat_le] using h

theorem isCased_of_isAlpha {c : Char} (h : c.isAlpha = true) : isCased c = true := by
  have hupper : (65, 90) ∈ Property.casedRuns := by decide
  have hlower : (97, 122) ∈ Property.casedRuns := by decide
  rcases toNat_of_isAlpha h with ⟨hfirst, hlast⟩ | ⟨hfirst, hlast⟩
  · exact List.any_eq_true.2 ⟨_, hupper, Bool.and_eq_true_iff.2 ⟨decide_eq_true hfirst, decide_eq_true hlast⟩⟩
  · exact List.any_eq_true.2 ⟨_, hlower, Bool.and_eq_true_iff.2 ⟨decide_eq_true hfirst, decide_eq_true hlast⟩⟩

theorem isCaseIgnorable_of_isAlpha {c : Char} (h : c.isAlpha = true) : isCaseIgnorable c = false := by
  have hruns : ∀ r ∈ Property.caseIgnorableRuns, (r.2 < 65 ∨ 90 < r.1) ∧ (r.2 < 97 ∨ 122 < r.1) := by decide +kernel
  refine List.any_eq_false.2 fun r hr hmem => ?_
  obtain ⟨hfirst, hlast⟩ := Bool.and_eq_true_iff.1 hmem
  have hfirst : r.1 ≤ c.toNat := of_decide_eq_true hfirst
  have hlast : c.toNat ≤ r.2 := of_decide_eq_true hlast
  have hapart := hruns r hr
  have hletter := toNat_of_isAlpha h
  omega

/-- What is the same for all ASCII letters is the same for a character in lower case. -/
theorem toLower_of_forall_isAlpha {α : Type} {f : Char → α} {value : α} (h : ∀ c : Char, c.isAlpha = true → f c = value)
    (c : Char) : f c.toLower = f c := by
  by_cases hc : c.isAlpha = true
  · rw [h c hc, h c.toLower (by rwa [Char.isAlpha_toLower_eq_isAlpha])]
  · rw [(toLower_eq_iff_of_not_isAlpha hc).2 rfl]

theorem startsCased_map_toLower (cs : List Char) : startsCased (cs.map Char.toLower) = startsCased cs := by
  have hignorable : isCaseIgnorable ∘ Char.toLower = isCaseIgnorable :=
    funext (toLower_of_forall_isAlpha fun _ => isCaseIgnorable_of_isAlpha)
  unfold startsCased
  rw [List.dropWhile_map, hignorable]
  cases cs.dropWhile isCaseIgnorable with
  | nil => rfl
  | cons c rest => exact toLower_of_forall_isAlpha (fun _ => isCased_of_isAlpha) c

theorem lowerForm_toLower (c : Char) : lowerForm c.toLower = lowerForm c := by
  by_cases hupper : c.isUpper = true
  · have halpha : c.isAlpha = true := Bool.or_eq_true_iff.2 (.inl hupper)
    have hascii : ∀ {d : Char}, d.isAlpha = true → lowerForm d = [d.toLower] := by
      intro d hd
      have hlast : d.toNat < 128 := by have := toNat_of_isAlpha hd; omega
      have hdotted : d ≠ 'İ' := by rintro rfl; exact absurd hlast (by decide)
      rw [lowerForm, if_neg hdotted, lowerChar, if_pos hlast]
    rw [hascii halpha, hascii (by rwa [Char.isAlpha_toLower_eq_isAlpha]), Char.toLower_toLower_eq_toLower]
  · rw [Char.toLower_eq_of_not_isUpper hupper]

theorem lowerFrom_map_toLower (before cs : List Char) :
    lowerFrom (before.map Char.toLower) (cs.map Char.toLower) = lowerFrom before cs := by
  induction cs generalizing before with
  | nil => rfl
  | cons c cs ih =>
    have hsigma : c.toLower = 'Σ' ↔ c = 'Σ' := toLower_eq_iff_of_not_isAlpha (by decide)
    have htail := ih (c :: before)
    rw [List.map_cons] at htail
    rw [List.map_cons, lowerFrom, lowerFrom, htail, startsCased_map_toLower, startsCased_map_toLower, lowerForm_toLower]
    simp only [hsigma]

/-- **The case of ASCII letters makes no difference to the full lower case.** -/
theorem lower_map_toLower (cs : List Char) : lower (cs.map Char.toLower) = lower cs := lowerFrom_map_toLower [] cs

end Text

namespace Pattern

/-! ## Parts -/

theorem splits_map_right_iff {α β γ : Type} {IsStar : α → Prop} {Fits : α → γ → Prop} {g : β → γ} {pattern : List α}
    {text : List β} :
    Splits IsStar Fits pattern (text.map g) ↔ Splits IsStar (fun item piece => Fits item (g piece)) pattern text := by
  induction pattern generalizing text with
  | nil => rw [splits_nil_iff, splits_nil_iff, List.map_eq_nil_iff]
  | cons item items ih =>
    rw [splits_cons_iff, splits_cons_iff]
    constructor
    · rintro ⟨run, rest, heq, htakes, hrest⟩
      obtain ⟨run, rest, rfl, rfl, rfl⟩ := List.map_eq_append_iff.1 heq
      refine ⟨run, rest, rfl, htakes.imp_right ?_, ih.1 hrest⟩
      rintro ⟨piece, hpiece, hfits⟩
      obtain ⟨piece, rfl, rfl⟩ := List.map_eq_singleton_iff.1 hpiece
      exact ⟨piece, rfl, hfits⟩
    · rintro ⟨run, rest, rfl, htakes, hrest⟩
      refine ⟨run.map g, rest.map g, List.map_append, htakes.imp_right ?_, ih.2 hrest⟩
      rintro ⟨piece, rfl, hfits⟩
      exact ⟨g piece, rfl, hfits⟩

theorem splitOn_map_toLower {separator : Char} (hseparator : ¬ separator.isAlpha = true) (cs : List Char) :
    (cs.map Char.toLower).splitOn separator = (cs.splitOn separator).map (List.map Char.toLower) := by
  induction cs with
  | nil => rfl
  | cons c cs ih =>
    have hc : (c.toLower == separator) = (c == separator) := by
      rw [Bool.eq_iff_iff, beq_iff_eq, beq_iff_eq, toLower_eq_iff_of_not_isAlpha hseparator]
    rw [List.map_cons, List.splitOn_cons_eq_if_modifyHead, List.splitOn_cons_eq_if_modifyHead, hc, ih]
    by_cases h : (c == separator) = true
    · rw [if_pos h, if_pos h]
      rfl
    · rw [if_neg h, if_neg h]
      cases cs.splitOn separator <;> rfl

theorem parts_lowerAscii {separator : Char} (hseparator : ¬ separator.isAlpha = true) (path : String) :
    parts separator (Text.lowerAscii path) = (parts separator path).map (List.map Char.toLower) := by
  rw [parts_eq_filter, parts_eq_filter, Text.lowerAscii, String.toList_ofList, splitOn_map_toLower hseparator,
    List.filter_map]
  refine congrArg _ (List.filter_congr fun piece _ => ?_)
  simp

theorem inBraces_map_toLower_iff {item : List Char} : InBraces (item.map Char.toLower) ↔ InBraces item := by
  rw [← inBraces_iff, ← inBraces_iff, List.head?_map, List.getLast?_map, Option.map_eq_some_iff, Option.map_eq_some_iff]
  have hopening : ∀ c : Char, c.toLower = '\x7b' ↔ c = '\x7b' := fun _ => toLower_eq_iff_of_not_isAlpha (by decide)
  have hclosing : ∀ c : Char, c.toLower = '\x7d' ↔ c = '\x7d' := fun _ => toLower_eq_iff_of_not_isAlpha (by decide)
  simp only [hopening, hclosing, exists_eq_right]

/-- One part fits another just as it does in lower case. -/
theorem partFits_map_toLower_iff {item part : List Char} :
    PartFits false (item.map Char.toLower) (part.map Char.toLower) ↔ PartFits false item part := by
  have hstar : '*' ∈ item.map Char.toLower ↔ '*' ∈ item := mem_map_toLower_iff (by decide)
  have hquestion : '?' ∈ item.map Char.toLower ↔ '?' ∈ item := mem_map_toLower_iff (by decide)
  have htwice : Char.toLower ∘ Char.toLower = Char.toLower := funext Char.toLower_toLower_eq_toLower
  have hequal : EqualIn false (item.map Char.toLower) (part.map Char.toLower) ↔ EqualIn false item part := by
    simp [EqualIn, htwice]
  have hmode : ∀ cs : List Char, inMode false (cs.map Char.toLower) = inMode false cs := Text.lower_map_toLower
  constructor
  · rintro (hbraces | ⟨hbraces, hwild, h⟩ | ⟨hbraces, hnostar, hnoquestion, h⟩)
    · exact .braces (inBraces_map_toLower_iff.1 hbraces)
    · rw [hmode, hmode] at h
      exact .wildcard (mt inBraces_map_toLower_iff.2 hbraces) (hwild.imp hstar.1 hquestion.1) h
    · exact .literal (mt inBraces_map_toLower_iff.2 hbraces) (mt hstar.2 hnostar) (mt hquestion.2 hnoquestion) (hequal.1 h)
  · rintro (hbraces | ⟨hbraces, hwild, h⟩ | ⟨hbraces, hnostar, hnoquestion, h⟩)
    · exact .braces (inBraces_map_toLower_iff.2 hbraces)
    · rw [← hmode item, ← hmode part] at h
      exact .wildcard (mt inBraces_map_toLower_iff.1 hbraces) (hwild.imp hstar.2 hquestion.2) h
    · exact .literal (mt inBraces_map_toLower_iff.1 hbraces) (mt hstar.1 hnostar) (mt hquestion.1 hnoquestion) (hequal.2 h)

theorem map_toLower_eq_stars_iff {item : List Char} : item.map Char.toLower = ['*', '*'] ↔ item = ['*', '*'] := by
  have hstar : ∀ c : Char, c.toLower = '*' ↔ c = '*' := fun _ => toLower_eq_iff_of_not_isAlpha (by decide)
  simp only [List.map_eq_cons_iff, hstar, List.map_eq_nil_iff]
  grind

/-! ## The whole path -/

namespace Ant

/-- **Pattern and path can be put in lower case**, as long as the separator is no letter. -/
theorem accepts_lowerAscii {separator : Char} (hseparator : ¬ separator.isAlpha = true) (source path : String) :
    (withSeparator (Text.lowerAscii source) separator).ignoringCase.accepts (Text.lowerAscii path) =
      (withSeparator source separator).ignoringCase.accepts path := by
  rw [Bool.eq_iff_iff, accepts_iff_parts, accepts_iff_parts]
  dsimp only [ignoringCase, withSeparator]
  rw [parts_lowerAscii hseparator, parts_lowerAscii hseparator, splits_map_iff, splits_map_right_iff]
  exact splits_congr (fun _ _ => map_toLower_eq_stars_iff) fun _ _ _ _ _ => partFits_map_toLower_iff

/-- **A pattern that ignores letter case does not see the case of ASCII letters.**  Two patterns that differ in nothing else
give the same answer for two paths that differ in nothing else, whatever other characters there are. -/
theorem ignoringCase_accepts_eq_of_lowerAscii_eq {source source' path path' : String}
    (hsource : Text.lowerAscii source = Text.lowerAscii source') (hpath : Text.lowerAscii path = Text.lowerAscii path') :
    (ofSource source).ignoringCase.accepts path = (ofSource source').ignoringCase.accepts path' := by
  have hslash : ¬ ('/' : Char).isAlpha = true := by decide
  calc (ofSource source).ignoringCase.accepts path
      = (ofSource (Text.lowerAscii source)).ignoringCase.accepts (Text.lowerAscii path) :=
        (accepts_lowerAscii hslash source path).symm
    _ = (ofSource (Text.lowerAscii source')).ignoringCase.accepts (Text.lowerAscii path') := by rw [hsource, hpath]
    _ = (ofSource source').ignoringCase.accepts path' := accepts_lowerAscii hslash source' path'

theorem ignoringCase_accepts_eq_of_lowerAscii_eq_sigma :
    Text.lowerAscii "/Rooms/?Σ*" = Text.lowerAscii "/rOOMS/?Σ*" ∧
      Text.lowerAscii "/ROOMS/aΣB" = Text.lowerAscii "/rooms/AΣb" ∧
      (ofSource "/Rooms/?Σ*").ignoringCase.accepts "/ROOMS/aΣB" = true ∧
      (ofSource "/rOOMS/?Σ*").ignoringCase.accepts "/rooms/AΣb" = true := by
  have hsource : Text.lowerAscii "/Rooms/?Σ*" = Text.lowerAscii "/rOOMS/?Σ*" := by decide
  have hpath : Text.lowerAscii "/ROOMS/aΣB" = Text.lowerAscii "/rooms/AΣb" := by decide
  have haccepts : (ofSource "/Rooms/?Σ*").ignoringCase.accepts "/ROOMS/aΣB" = true := by decide +kernel
  exact ⟨hsource, hpath, haccepts, (ignoringCase_accepts_eq_of_lowerAscii_eq hsource hpath).symm.trans haccepts⟩

end Ant
end Pattern
end BrokerGuard
