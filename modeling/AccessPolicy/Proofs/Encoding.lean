import AccessPolicy.Number.Shortest
import AccessPolicy.Text.Encoded
import Mathlib.Data.List.TakeWhile

/-! Texts that can be written. A text has a form in UTF-8 if it holds no surrogate; put together with
ASCII between them, texts can be written if each of them can. -/

namespace AccessPolicy.Text

theorem isAscii_toString (n : Nat) : isAscii (toString n) :=
  isAscii_iff.mpr fun c held =>
    Number.toNat_of_isNumeral (Number.isNumeral_toString_int n c held).1

/-- Text without surrogates, which is the only text with a form in UTF-8. -/
def isScalar (text : String) : Bool :=
  (Surrogate.codes text.toList).all fun code => !Surrogate.isSurrogate code

theorem forall_of_isScalar {text : String} (scalar : isScalar text) :
    ∀ code ∈ Surrogate.codes text.toList, Surrogate.isSurrogate code = false := by
  simpa [isScalar] using scalar

theorem EncodingFault.ofText?_eq_none_iff {text : String} :
    EncodingFault.ofText? text = none ↔ isScalar text := by
  have among (codes : List Nat) : EncodingFault.among (fun _ => false) codes = none ↔
      codes.dropWhile (fun code => !Surrogate.isSurrogate code || false) = [] := by
    unfold EncodingFault.among
    split <;> simp_all
  simp [EncodingFault.ofText?, among, isScalar]

theorem isScalar_of_ofUtf8 {bytes : List UInt8} {text : String} (decoded : ofUtf8 bytes = .ok text) :
    isScalar text := by
  unfold ofUtf8 at decoded
  cases chars : Utf8.decode bytes with
  | error fault =>
    rw [chars] at decoded
    cases decoded
  | ok chars' =>
    rw [chars] at decoded
    cases decoded
    rw [isScalar, Surrogate.codes_ofPlain]
    simp [Surrogate.isSurrogate_toNat]

theorem isScalar_of_isAscii {text : String} (ascii : isAscii text) : isScalar text := by
  rw [isScalar, Surrogate.codes_of_isAscii ascii]
  simp [Surrogate.isSurrogate_toNat]

theorem isScalar_ascii_append {s t : String} (ascii : isAscii s) :
    isScalar (s ++ t) = isScalar t := by
  rw [isScalar, String.toList_append,
    Surrogate.codes_append_of_ne_mark (Surrogate.ne_mark_of_isAscii ascii), List.all_append,
    ← Surrogate.codes_of_isAscii ascii]
  exact Bool.and_eq_right_iff_imp.mpr fun _ => isScalar_of_isAscii ascii

/-- A text that ends before a character of ASCII does not run into what comes after it. -/
theorem isScalar_append_ascii_append (separator : String) (ascii : isAscii separator)
    (given : separator ≠ "") (s t : String) :
    isScalar (s ++ separator ++ t) = (isScalar s && isScalar t) := by
  rw [String.append_assoc, ← isScalar_ascii_append (t := t) ascii]
  -- A mark at the end of `s` stands for itself, as the character after it holds nothing.
  obtain ⟨c, rest, begins⟩ : ∃ c rest, separator.toList = c :: rest :=
    List.exists_cons_of_ne_nil (String.toList_eq_nil_iff.not.mpr given)
  have low : c.toNat < 0x80 := isAscii_iff.mp ascii c (by rw [begins]; exact List.mem_cons_self)
  have plain : c ≠ Surrogate.mark := by
    rintro rfl
    exact absurd low (by decide)
  have free : Surrogate.isHolder c = false := by
    rw [Surrogate.isHolder, decide_eq_false (by simp only [Surrogate.firstHolder]; omega),
      Bool.false_and]
  simp only [isScalar, String.toList_append, begins, List.cons_append,
    Surrogate.codes_append plain free, List.all_append]

theorem isScalar_append_ascii {s t : String} (ascii : isAscii t) :
    isScalar (s ++ t) = isScalar s := by
  by_cases empty : t = ""
  · rw [empty, String.append_empty]
  · have whole := isScalar_append_ascii_append t ascii empty s ""
    rwa [String.append_empty, isScalar_of_isAscii (show isAscii "" from rfl), Bool.and_true] at whole

theorem isScalar_intercalate (separator : String) (ascii : isAscii separator)
    (given : separator ≠ "") (texts : List String) :
    isScalar (separator.intercalate texts) = texts.all isScalar := by
  induction texts with
  | nil => rfl
  | cons text rest ih =>
    cases rest with
    | nil => rw [String.intercalate_singleton, List.all_cons, List.all_nil, Bool.and_true]
    | cons next rest =>
      rw [String.intercalate_cons_cons, isScalar_append_ascii_append separator ascii given, ih,
        List.all_cons (a := text)]

end AccessPolicy.Text
