import BrokerGuard.Http.Request
/-!
# Header texts — which texts can be read from a header

A text goes into a header as its UTF-8 bytes.  It can be read there when it consists of printable ASCII characters and tabs
(`HeaderValue.text?_ofText`), and otherwise nothing can, not even a part (`HeaderValue.text?_ofText_eq_none_iff`).
-/
namespace BrokerGuard

theorem HeaderValue.text?_eq_none_iff {value : HeaderValue} :
    value.text? = none ↔ value.bytes.all isReadable = false := by
  unfold text?
  by_cases hreadable : value.bytes.all isReadable = true
  · simp [hreadable]
  · simp [hreadable]

theorem HttpRequest.headerText?_of_header? {r : HttpRequest} {name : String} {value : HeaderValue}
    (h : r.header? name = some value) : r.headerText? name = value.text? := by
  unfold headerText?
  rw [h]
  rfl

theorem HttpRequest.headerText?_of_header?_eq_none {r : HttpRequest} {name : String} (h : r.header? name = none) :
    r.headerText? name = none := by
  unfold headerText?
  rw [h]
  rfl

theorem byteArray_toList_loop (bytes : ByteArray) (i : Nat) (done : List UInt8) :
    ByteArray.toList.loop bytes i done = done.reverse ++ bytes.data.toList.drop i := by
  fun_induction ByteArray.toList.loop bytes i done with
  | case1 i done h ih =>
    have hi : i < bytes.data.toList.length := h
    have hget : bytes.get! i = bytes.data.toList[i] := by
      cases bytes with
      | mk data => exact getElem!_pos data i h
    rw [ih, List.drop_eq_getElem_cons hi, List.reverse_cons, List.append_assoc, hget]
    rfl
  | case2 i done h =>
    have hi : bytes.data.toList.length ≤ i := Nat.le_of_not_lt h
    rw [List.drop_eq_nil_of_le hi, List.append_nil]

namespace HeaderValue

theorem bytes_ofText (text : String) : (ofText text).bytes = text.toList.flatMap String.utf8EncodeChar := by
  have hbytes : text.toUTF8.toList = text.toUTF8.data.toList := by
    rw [ByteArray.toList, byteArray_toList_loop]
    rfl
  rw [ofText, hbytes, String.toUTF8_eq_toByteArray, ← String.utf8Encode_toList, List.utf8Encode,
    List.toList_data_toByteArray]

/-- A tab, or a printable character of ASCII. -/
def IsPrintable (c : Char) : Prop := c.toNat = 9 ∨ 32 ≤ c.toNat ∧ c.toNat < 127

/-- The text consists of printable ASCII characters and tabs. -/
def Readable (text : String) : Prop := ∀ c ∈ text.toList, IsPrintable c

instance (c : Char) : Decidable (IsPrintable c) := inferInstanceAs (Decidable (_ ∨ _))

instance (text : String) : Decidable (Readable text) := List.decidableBAll IsPrintable text.toList

theorem isReadable_iff {b : UInt8} : isReadable b = true ↔ b.toNat = 9 ∨ 32 ≤ b.toNat ∧ b.toNat < 127 := by
  rw [isReadable, Bool.or_eq_true, Bool.and_eq_true, beq_iff_eq, decide_eq_true_eq, decide_eq_true_eq,
    UInt8.le_iff_toNat_le, UInt8.lt_iff_toNat_lt, ← UInt8.toNat_inj]
  rfl

/-- The first byte of a character beyond ASCII has its highest bits set. -/
theorem isReadable_or_eq_false {b high : UInt8} (hhigh : 128 ≤ high.toNat) : isReadable (b ||| high) = false := by
  have hle : high.toNat ≤ (b ||| high).toNat := by
    rw [UInt8.toNat_or]
    exact Nat.right_le_or
  rw [Bool.eq_false_iff]
  intro h
  have := isReadable_iff.1 h
  omega

theorem utf8EncodeChar_of_ascii {c : Char} (h : c.toNat < 128) :
    String.utf8EncodeChar c = [c.val.toUInt8] ∧ c.val.toUInt8.toNat = c.toNat := by
  have hsize : c.utf8Size = 1 := Char.utf8Size_eq_one_iff.2 (Nat.le_of_lt_succ h)
  have hbyte : c.val.toUInt8.toNat = c.toNat % 256 := UInt32.toNat_toUInt8 _
  exact ⟨String.utf8EncodeChar_eq_singleton hsize, hbyte.trans (Nat.mod_eq_of_lt (by omega))⟩

theorem all_isReadable_utf8EncodeChar {c : Char} :
    (String.utf8EncodeChar c).all isReadable = true ↔ IsPrintable c := by
  by_cases hascii : c.toNat < 128
  · obtain ⟨hencode, hbyte⟩ := utf8EncodeChar_of_ascii hascii
    rw [hencode, List.all_cons, List.all_nil, Bool.and_true, isReadable_iff, hbyte, IsPrintable]
  · refine iff_of_false (fun hall => ?_) (by unfold IsPrintable; omega)
    rcases Char.utf8Size_eq c with h | h | h | h
    · exact hascii (Nat.lt_succ_of_le (Char.utf8Size_eq_one_iff.1 h))
    · rw [String.utf8EncodeChar_eq_cons_cons h, List.all_cons, isReadable_or_eq_false (by decide), Bool.false_and] at hall
      cases hall
    · rw [String.utf8EncodeChar_eq_cons_cons_cons h, List.all_cons, isReadable_or_eq_false (by decide),
        Bool.false_and] at hall
      cases hall
    · rw [String.utf8EncodeChar_eq_cons_cons_cons_cons h, List.all_cons, isReadable_or_eq_false (by decide),
        Bool.false_and] at hall
      cases hall

theorem all_isReadable_ofText {text : String} : (ofText text).bytes.all isReadable = true ↔ Readable text := by
  rw [bytes_ofText, List.all_flatMap, List.all_eq_true]
  exact forall₂_congr fun c _ => all_isReadable_utf8EncodeChar

/-- **A readable text is read as it was written.** -/
theorem text?_ofText {text : String} (h : Readable text) : (ofText text).text? = some text := by
  have hchars : ∀ cs : List Char, (∀ c ∈ cs, IsPrintable c) →
      (cs.flatMap String.utf8EncodeChar).map (fun b => Char.ofNat b.toNat) = cs := by
    intro cs hcs
    induction cs with
    | nil => rfl
    | cons c cs ih =>
      obtain ⟨hc, hmore⟩ := List.forall_mem_cons.1 hcs
      obtain ⟨hencode, hbyte⟩ := utf8EncodeChar_of_ascii (c := c) (by unfold IsPrintable at hc; omega)
      rw [List.flatMap_cons, hencode, List.map_append, ih hmore, List.map_singleton, hbyte, Char.ofNat_toNat,
        List.singleton_append]
  rw [text?, if_pos (all_isReadable_ofText.2 h), bytes_ofText, hchars _ h, String.ofList_toList]

theorem text?_ofText_eq_none_iff {text : String} : (ofText text).text? = none ↔ ¬ Readable text := by
  rw [text?_eq_none_iff, ← all_isReadable_ofText, Bool.not_eq_true]

end HeaderValue
end BrokerGuard
