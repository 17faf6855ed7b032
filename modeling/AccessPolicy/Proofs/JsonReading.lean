import AccessPolicy.Json.Reading
import Mathlib.Data.List.Basic

/-! What is read of written JSON. The text of a document is read as the document, with its numbers
as they are spelled and its texts as far as their characters could be written. -/

namespace AccessPolicy

namespace Text.Surrogate

/-- Characters hold code points, whatever comes after them. -/
def Holds (chars : List Char) (points : List Nat) : Prop :=
  ∀ rest, codes (chars ++ rest) = points ++ codes rest

namespace Holds

theorem nil : Holds [] [] := fun _ => rfl

theorem append {a b : List Char} {x y : List Nat} (first : Holds a x) (second : Holds b y) :
    Holds (a ++ b) (x ++ y) := by
  intro rest
  rw [List.append_assoc, first, second, List.append_assoc]

theorem codes {chars : List Char} {points : List Nat} (holds : Holds chars points) :
    Surrogate.codes chars = points := by
  simpa [Surrogate.codes] using holds []

theorem flatMap {α : Type} {f : α → List Char} {g : α → List Nat} {xs : List α}
    (each : ∀ x ∈ xs, Holds (f x) (g x)) : Holds (xs.flatMap f) (xs.flatMap g) := by
  induction xs with
  | nil => exact nil
  | cons x xs ih =>
    obtain ⟨first, others⟩ := List.forall_mem_cons.mp each
    exact first.append (ih others)

/-- A character that is not the mark holds itself. -/
theorem singleton {c : Char} (plain : c ≠ mark) : Holds [c] [c.toNat] :=
  fun rest => codes_cons_of_ne_mark plain rest

theorem plain {chars : List Char} (plain : ∀ c ∈ chars, c ≠ mark) :
    Holds chars (chars.map Char.toNat) := codes_append_of_ne_mark plain

theorem held {code : Nat} (valid : isSurrogate code = true ∨ code.isValidChar) :
    Holds (held code) [code] := codes_held_append valid

end Holds

end Text.Surrogate

open Text.Surrogate (Holds)

namespace Json

/-! ## Tokens -/

namespace Mode

theorem tokens?_cons (mode : Mode) (code : Nat) (rest : List Nat) :
    mode.tokens? (code :: rest) =
      (mode.step code).bind fun next => (next.1.tokens? rest).map (next.2 ++ ·) := rfl

/-- From one mode code points give tokens and lead to another, whatever comes after them. -/
def Reads (mode : Mode) (codes : List Nat) (tokens : List Token) (next : Mode) : Prop :=
  ∀ rest, mode.tokens? (codes ++ rest) = (next.tokens? rest).map (tokens ++ ·)

namespace Reads

variable {a b c : Mode} {x y : List Nat} {s t : List Token}

theorem refl (mode : Mode) : Reads mode [] [] mode := fun rest => by simp

theorem trans (first : Reads a x s b) (second : Reads b y t c) : Reads a (x ++ y) (s ++ t) c := by
  intro rest
  rw [List.append_assoc, first, second, Option.map_map]
  simp [Function.comp_def]

theorem step {code : Nat} (next : a.step code = some (b, t)) : Reads a [code] t b := fun rest => by
  rw [List.singleton_append, tokens?_cons, next]
  rfl

/-- A code point that ends no token. -/
theorem cons {code : Nat} (next : a.step code = some (b, [])) (others : Reads b x s c) :
    Reads a (code :: x) s c := (step next).trans others

end Reads

/-- What ends a word: nothing more, or what cannot be in one. -/
def Delimited (rest : List Nat) : Prop :=
  ∀ code ∈ rest.head?, code ≠ 0x22 ∧ ((mark? code).isSome ∨ isSpace code)

/-- Code points spell tokens, if what comes after them cannot belong to them. -/
def Spells (codes : List Nat) (tokens : List Token) : Prop :=
  ∀ rest, Delimited rest →
    between.tokens? (codes ++ rest) = (between.tokens? rest).map (tokens ++ ·)

theorem Reads.spells {codes : List Nat} {tokens : List Token}
    (reads : Reads .between codes tokens .between) : Spells codes tokens := fun rest _ => reads rest

def InWord (code : Nat) : Prop := code ≠ 0x22 ∧ mark? code = none ∧ ¬ isSpace code

instance (code : Nat) : Decidable (InWord code) :=
  inferInstanceAs (Decidable (_ ∧ _ ∧ ¬ _))

theorem reads_word {codes : List Nat} (inside : ∀ code ∈ codes, InWord code) (before : List Nat) :
    Reads (.word before) codes [] (.word (codes.reverse ++ before)) := by
  induction codes generalizing before with
  | nil => exact .refl _
  | cons code rest ih =>
    obtain ⟨⟨quote, mark, space⟩, others⟩ := List.forall_mem_cons.mp inside
    rw [List.reverse_cons, List.append_assoc]
    exact .cons (by simp [Mode.step, quote, mark, space]) (ih others _)

/-- A word is a token of its own. -/
theorem spells_word {codes : List Nat} (some : codes ≠ []) (inside : ∀ code ∈ codes, InWord code) :
    Spells codes [.word codes] := by
  intro rest ends
  obtain ⟨code, others, rfl⟩ := List.exists_cons_of_ne_nil some
  obtain ⟨⟨quote, mark, space⟩, inside⟩ := List.forall_mem_cons.mp inside
  have begun : Reads .between (code :: others) [] (.word (others.reverse ++ [code])) :=
    .cons (by simp [Mode.step, begin, quote, mark, space]) (reads_word inside [code])
  rw [begun]
  have whole : (others.reverse ++ [code]).reverse = code :: others := by simp
  cases rest with
  | nil => simp [tokens?, finish?, whole]
  | cons next rest =>
    obtain ⟨quote, other⟩ := ends next rfl
    have same : (Mode.word (others.reverse ++ [code])).step next =
        Option.some ((begin next).1, .word (code :: others) :: (begin next).2) := by
      simp only [Mode.step, if_neg quote, whole]
      rw [if_pos (by simpa using other)]
    rw [tokens?_cons, tokens?_cons, same]
    simp [Mode.step, Function.comp_def]

theorem reads_spaces {spaces : List Nat} (all : ∀ code ∈ spaces, isSpace code) :
    Reads .between spaces [] .between := by
  induction spaces with
  | nil => exact .refl _
  | cons code rest ih =>
    obtain ⟨space, others⟩ := List.forall_mem_cons.mp all
    refine .cons (b := .between) ?_ (ih others)
    simp only [isSpace, Bool.or_eq_true, decide_eq_true_eq] at space
    rcases space with ((rfl | rfl) | rfl) | rfl <;> rfl

theorem reads_mark {code : Nat} {mark : Mark} (marks : mark? code = some mark) :
    Reads .between [code] [.mark mark] .between := .step (by simp [Mode.step, begin, marks])

theorem ne_quote_of_mark? {code : Nat} {mark : Mark} (marks : mark? code = some mark) :
    code ≠ 0x22 := by
  rintro rfl
  cases marks

theorem delimited_mark {code : Nat} {mark : Mark} (marks : mark? code = some mark)
    (rest : List Nat) : Delimited (code :: rest) := by
  rintro _ ⟨⟩
  exact ⟨ne_quote_of_mark? marks, .inl (by rw [marks]; rfl)⟩

theorem delimited_spaces {spaces rest : List Nat} (all : ∀ code ∈ spaces, isSpace code)
    (ends : Delimited rest) : Delimited (spaces ++ rest) := by
  cases spaces with
  | nil => exact ends
  | cons code more =>
    rintro _ ⟨⟩
    have space := (List.forall_mem_cons.mp all).1
    refine ⟨?_, .inr space⟩
    rintro rfl
    cases space

/-- Tokens that are delimited by what is read after them. -/
theorem Spells.reads {codes more : List Nat} {tokens others : List Token} {mode : Mode}
    (spells : Spells codes tokens) (ends : ∀ rest, Delimited (more ++ rest))
    (reads : Reads .between more others mode) :
    Reads .between (codes ++ more) (tokens ++ others) mode := by
  intro rest
  rw [List.append_assoc, spells _ (ends rest), reads, Option.map_map]
  simp [Function.comp_def]

end Mode

/-! ## Texts -/

/-- What a code point of a text is read as: pairs of surrogates stand for a character where it is
written in ASCII, and elsewhere a surrogate is lost. -/
def units (style : Style) (code : Nat) : List Nat :=
  if Text.Surrogate.isSurrogate code then
    if style.isAscii then [code] else List.replicate 3 0xfffd
  else if style.isAscii && 0x10000 ≤ code then
    [0xd800 + (code - 0x10000) / 0x400, 0xdc00 + (code - 0x10000) % 0x400]
  else [code]

def readText (style : Style) (text : String) : List Nat :=
  Text.Surrogate.joined ((Text.Surrogate.codes text.toList).flatMap (units style))

/-- Two surrogates make a pair, a high one and a low one. -/
theorem isPair_iff {high low : Nat} :
    (Text.Surrogate.first ≤ high && high < 0xdc00 && 0xdc00 ≤ low &&
      low < Text.Surrogate.first + Text.Surrogate.count) = true ↔
      0xd800 ≤ high ∧ high < 0xdc00 ∧ 0xdc00 ≤ low ∧ low < 0xe000 := by
  simp only [Bool.and_eq_true, decide_eq_true_eq, and_assoc]
  rfl

/-- The two escapes of a character beyond the first plane are joined again. -/
theorem joined_pair {code : Nat} (wide : 0x10000 ≤ code) (bound : code < 0x110000)
    (rest : List Nat) :
    Text.Surrogate.joined ((0xd800 + (code - 0x10000) / 0x400) ::
      (0xdc00 + (code - 0x10000) % 0x400) :: rest) = code :: Text.Surrogate.joined rest := by
  obtain ⟨offset, rfl⟩ := Nat.exists_eq_add_of_le wide
  rw [Nat.add_sub_cancel_left]
  have high : offset / 0x400 < 0x400 := Nat.div_lt_of_lt_mul (by omega)
  have low : offset % 0x400 < 0x400 := Nat.mod_lt _ (by decide)
  rw [Text.Surrogate.joined, if_pos (isPair_iff.mpr (by omega)), Text.Surrogate.first,
    Nat.add_sub_cancel_left, Nat.add_sub_cancel_left, Nat.add_assoc, Nat.div_add_mod']

theorem joined_cons {code : Nat} {rest : List Nat}
    (apart : ∀ low ∈ rest.head?, ¬ (0xd800 ≤ code ∧ code < 0xdc00 ∧ 0xdc00 ≤ low ∧ low < 0xe000)) :
    Text.Surrogate.joined (code :: rest) = code :: Text.Surrogate.joined rest := by
  cases rest with
  | nil => rfl
  | cons low rest => rw [Text.Surrogate.joined, if_neg (mt isPair_iff.mp (apart low rfl))]

theorem units_ascii (code : Nat) : units .ascii code =
    if 0x10000 ≤ code then [0xd800 + (code - 0x10000) / 0x400, 0xdc00 + (code - 0x10000) % 0x400]
    else [code] := by
  simp only [units, Style.ascii, if_true, Bool.true_and, decide_eq_true_eq]
  split
  · rename_i surrogate
    rw [if_neg (by have := (Text.Surrogate.isSurrogate_iff.mp surrogate).2; omega)]
  · rfl

theorem joined_flatMap_units {codes : List Nat} (bounded : ∀ code ∈ codes, code < 0x110000) :
    Text.Surrogate.joined (codes.flatMap (units .ascii)) = Text.Surrogate.joined codes := by
  fun_induction Text.Surrogate.joined codes with
  | case1 high low rest pair ih =>
    have bounds := isPair_iff.mp pair
    rw [List.flatMap_cons, List.flatMap_cons, units_ascii, units_ascii, if_neg (by omega),
      if_neg (by omega), List.singleton_append, List.singleton_append, Text.Surrogate.joined,
      if_pos pair, ih fun code held => bounded code (by simp [held])]
  | case2 high low rest apart ih =>
    obtain ⟨bound, others⟩ := List.forall_mem_cons.mp bounded
    rw [List.flatMap_cons, units_ascii]
    split
    · rw [List.cons_append, List.cons_append, List.nil_append, joined_pair ‹_› bound, ih others]
    · rw [List.singleton_append, joined_cons, ih others]
      -- A character beyond the first plane begins with a high surrogate.
      have apart := mt isPair_iff.mpr apart
      have below := others low (by simp)
      rw [List.flatMap_cons, units_ascii]
      split
      · rintro _ ⟨⟩
        omega
      · rintro _ ⟨⟩
        exact apart
  | case3 codes short =>
    match codes, short with
    | [], _ => rfl
    | [code], _ =>
      rw [List.flatMap_singleton, units_ascii]
      split
      · rw [joined_pair ‹_› (bounded code (by simp))]
        rfl
      · rfl
    | high :: low :: rest, short => exact absurd rfl (short high low rest)

/-- Written in ASCII, a text is read as what it shows. -/
theorem readText_ascii (text : String) :
    readText .ascii text = Text.Surrogate.joined (Text.Surrogate.codes text.toList) := by
  refine joined_flatMap_units fun code held => ?_
  rcases Text.Surrogate.valid_of_mem_codes code held with surrogate | valid
  · have := (Text.Surrogate.isSurrogate_iff.mp surrogate).2
    omega
  · rcases valid with low | ⟨-, bound⟩ <;> omega

theorem joined_eq_self {codes : List Nat}
    (plain : ∀ code ∈ codes, Text.Surrogate.isSurrogate code = false) :
    Text.Surrogate.joined codes = codes := by
  induction codes with
  | nil => rfl
  | cons code rest ih =>
    obtain ⟨first, others⟩ := List.forall_mem_cons.mp plain
    rw [joined_cons, ih others]
    rintro low - ⟨start, stop, -⟩
    rw [Text.Surrogate.isSurrogate_iff.mpr ⟨start, by omega⟩] at first
    cases first

/-- Written otherwise, a text without surrogates is read as it is. -/
theorem readText_unicode {text : String}
    (plain : ∀ code ∈ Text.Surrogate.codes text.toList, Text.Surrogate.isSurrogate code = false) :
    readText .unicode text = Text.Surrogate.codes text.toList := by
  have each : (Text.Surrogate.codes text.toList).flatMap (units .unicode) =
      Text.Surrogate.codes text.toList := by
    rw [List.flatMap_congr (g := fun code => [code]) fun code held => by
      simp [units, Style.unicode, plain code held], List.flatMap_singleton']
  rw [readText, each, joined_eq_self plain]

namespace Mode

def Tells (codes points : List Nat) : Prop :=
  ∀ before, Reads (.text before) codes [] (.text (points.reverse ++ before))

theorem Tells.append {a b x y : List Nat} (first : Tells a x) (second : Tells b y) :
    Tells (a ++ b) (x ++ y) := by
  intro before
  rw [List.reverse_append, List.append_assoc]
  exact (first before).trans (second _)

theorem Tells.flatMap {α : Type} {f g : α → List Nat} {xs : List α}
    (each : ∀ x ∈ xs, Tells (f x) (g x)) : Tells (xs.flatMap f) (xs.flatMap g) := by
  induction xs with
  | nil => exact fun before => .refl _
  | cons x xs ih =>
    obtain ⟨first, others⟩ := List.forall_mem_cons.mp each
    exact first.append (ih others)

/-- A character that needs no escape stands for itself. -/
theorem tells_self {code : Nat} (quote : code ≠ 0x22) (backslash : code ≠ 0x5c)
    (printable : 0x20 ≤ code) : Tells [code] [code] := fun before =>
  .step (by simp [Mode.step, quote, backslash, Nat.not_lt.mpr printable])

/-- A letter after a backslash stands for a character. -/
theorem tells_escape (letter : Nat) {code : Nat} (other : letter ≠ 0x75)
    (stands : escape? letter = some code) : Tells [0x5c, letter] [code] := fun before =>
  .cons (b := .escaped before) rfl (.step (by simp [Mode.step, other, stands]))

theorem hexValue?_digitChar : ∀ digit < 16, hexValue? (Nat.digitChar digit).toNat = some digit := by
  decide

/-- Four hexadecimal digits, of which the first may be zeros. -/
theorem hexDigits_four {n : Nat} (small : n < 0x10000) : Text.hexDigits 4 n =
    [Nat.digitChar (n / 16 / 16 / 16), Nat.digitChar (n / 16 / 16 % 16),
      Nat.digitChar (n / 16 % 16), Nat.digitChar (n % 16)] := by
  have last {n : Nat} (small : n < 16) := Nat.toDigits_of_lt_base small
  have more {n : Nat} (large : ¬ n < 16) :=
    Nat.toDigits_of_base_le (b := 16) (by decide) (Nat.not_lt.mp large)
  have zero : Nat.digitChar 0 = '0' := rfl
  by_cases one : n < 16
  · have none : n / 16 = 0 := by omega
    simp [Text.hexDigits, last one, none, zero, Nat.mod_eq_of_lt one, List.replicate]
  by_cases two : n / 16 < 16
  · have none : n / 16 / 16 = 0 := by omega
    simp [Text.hexDigits, more one, last two, none, zero, Nat.mod_eq_of_lt two, List.replicate]
  by_cases three : n / 16 / 16 < 16
  · have none : n / 16 / 16 / 16 = 0 := by omega
    simp [Text.hexDigits, more one, more two, last three, none, zero, Nat.mod_eq_of_lt three]
  have four : n / 16 / 16 / 16 < 16 := by omega
  simp [Text.hexDigits, more one, more two, more three, last four]

/-- Four digits after a backslash and the letter for them stand for their value. -/
theorem tells_unit {n : Nat} (small : n < 0x10000) :
    Tells (0x5c :: 0x75 :: (Text.hexDigits 4 n).map Char.toNat) [n] := by
  intro before
  have digit (digit : Nat) (value left : Nat) (small : digit < 16) :
      (Mode.digits before value left).step (Nat.digitChar digit).toNat =
        some (if left ≤ 1 then (.text ((16 * value + digit) :: before), [])
          else (.digits before (16 * value + digit) (left - 1), [])) := by
    simp only [Mode.step, hexValue?_digitChar digit small, Option.map_some]
  rw [hexDigits_four small]
  refine .cons (b := .escaped before) rfl (.cons (b := .digits before 0 4) rfl ?_)
  refine .cons (digit _ _ _ (by omega)) (.cons (digit _ _ _ (by omega))
    (.cons (digit _ _ _ (by omega)) (.step ?_)))
  rw [digit _ _ _ (by omega)]
  have value : 16 * (16 * (16 * (16 * 0 + n / 16 / 16 / 16) + n / 16 / 16 % 16) + n / 16 % 16) +
      n % 16 = n := by omega
  rw [value]
  rfl

/-- A code point in one escape or, as a pair of surrogates, in two. -/
theorem escape_eq (code : Nat) : escape code =
    if code < 0x10000 then '\\' :: 'u' :: Text.hexDigits 4 code
    else '\\' :: 'u' :: Text.hexDigits 4 (0xd800 + (code - 0x10000) / 0x400) ++
      '\\' :: 'u' :: Text.hexDigits 4 (0xdc00 + (code - 0x10000) % 0x400) := rfl

theorem tells_escape_pair {high low : Nat} (small : high < 0x10000) (small' : low < 0x10000) :
    Tells (('\\' :: 'u' :: Text.hexDigits 4 high ++ '\\' :: 'u' :: Text.hexDigits 4 low).map
      Char.toNat) [high, low] := by
  rw [List.map_append]
  exact (tells_unit small).append (tells_unit small')

theorem units_of_plain {style : Style} {code : Nat}
    (plain : Text.Surrogate.isSurrogate code = false) (small : code < 0x10000) :
    units style code = [code] := by
  simp [units, plain, Nat.not_le.mpr small]

/-- A code point is read again from its escape, or from the two that stand for it in ASCII. -/
theorem tells_escape_code {style : Style} {code : Nat}
    (plain : Text.Surrogate.isSurrogate code = false) (bound : code < 0x110000)
    (ascii : 0x10000 ≤ code → style.isAscii) :
    Tells ((escape code).map Char.toNat) (units style code) := by
  rw [escape_eq]
  by_cases one : code < 0x10000
  · rw [if_pos one, units_of_plain plain one]
    exact tells_unit one
  · have large := Nat.not_lt.mp one
    have two : units style code =
        [0xd800 + (code - 0x10000) / 0x400, 0xdc00 + (code - 0x10000) % 0x400] := by
      simp [units, plain, ascii large, large]
    rw [if_neg one, two]
    exact tells_escape_pair (by omega) (by omega)

/-- A written character is read again. -/
theorem tells_charText (style : Style) (c : Char) :
    Tells ((charText style c).map Char.toNat) (units style c.toNat) := by
  have plain := Text.Surrogate.isSurrogate_toNat c
  have bound : c.toNat < 0x110000 := by
    have valid : c.toNat.isValidChar := c.valid
    simp only [Nat.isValidChar] at valid
    omega
  have small {code : Nat} (same : c.toNat = code) (small : code < 0x10000) :
      units style c.toNat = [code] := same ▸ units_of_plain plain (same ▸ small)
  unfold charText
  split
  · exact small rfl (by decide) ▸ tells_escape 0x22 (by decide) rfl
  · exact small rfl (by decide) ▸ tells_escape 0x5c (by decide) rfl
  · exact small rfl (by decide) ▸ tells_escape 0x6e (by decide) rfl
  · exact small rfl (by decide) ▸ tells_escape 0x72 (by decide) rfl
  · exact small rfl (by decide) ▸ tells_escape 0x74 (by decide) rfl
  · rename_i quote backslash _ _ _
    by_cases backspace : c.toNat = 8
    · rw [if_pos backspace, small backspace (by decide)]
      exact tells_escape 0x62 (by decide) rfl
    by_cases formFeed : c.toNat = 12
    · rw [if_neg backspace, if_pos formFeed, small formFeed (by decide)]
      exact tells_escape 0x66 (by decide) rfl
    rw [if_neg backspace, if_neg formFeed]
    split
    · rename_i escaped
      simp only [Bool.or_eq_true, decide_eq_true_eq, Bool.and_eq_true] at escaped
      exact tells_escape_code plain bound fun large => (escaped.resolve_left (by omega)).1
    · rename_i written
      simp only [Bool.or_eq_true, decide_eq_true_eq, Bool.and_eq_true, not_or, not_and,
        Nat.not_lt] at written
      have self : units style c.toNat = [c.toNat] := by
        cases ascii : style.isAscii with
        | false => simp [units, plain, ascii]
        | true => exact small rfl (by have := written.2 ascii; omega)
      rw [self]
      exact tells_self (fun same => quote (Char.toNat_inj.mp same))
        (fun same => backslash (Char.toNat_inj.mp same)) written.1

theorem ne_mark_of_mem_hexDigits {n : Nat} (small : n < 0x10000) :
    ∀ c ∈ Text.hexDigits 4 n, c ≠ Text.Surrogate.mark := by
  have each : ∀ digit < 16, Nat.digitChar digit ≠ Text.Surrogate.mark := by decide
  rw [hexDigits_four small]
  simp only [List.forall_mem_cons]
  exact ⟨each _ (by omega), each _ (by omega), each _ (by omega), each _ (by omega), nofun⟩

/-- What is written for a code point holds code points that tell it. -/
theorem tells_codeText (style : Style) {code : Nat}
    (valid : Text.Surrogate.isSurrogate code = true ∨ code.isValidChar) :
    ∃ points, Holds (codeText style code) points ∧ Tells points (units style code) := by
  unfold codeText
  cases surrogate : Text.Surrogate.isSurrogate code with
  | true =>
    have small : code < 0x10000 := by
      have bounds := Text.Surrogate.isSurrogate_iff.mp surrogate
      omega
    cases ascii : style.isAscii with
    | true =>
      have plain : ∀ c ∈ escape code, c ≠ Text.Surrogate.mark := by
        rw [escape_eq, if_pos small]
        simp only [List.forall_mem_cons]
        exact ⟨by decide, by decide, ne_mark_of_mem_hexDigits small⟩
      refine ⟨_, Holds.plain plain, ?_⟩
      simp only [units, surrogate, ascii, if_true]
      rw [escape_eq, if_pos small]
      exact tells_unit small
    | false =>
      have plain : ∀ c ∈ List.replicate 3 (Char.ofNat 0xfffd), c ≠ Text.Surrogate.mark :=
        fun c held => List.eq_of_mem_replicate held ▸ by decide
      have once : Tells [0xfffd] [0xfffd] := tells_self (by decide) (by decide) (by decide)
      refine ⟨_, Holds.plain plain, ?_⟩
      simp only [units, surrogate, ascii, if_true, Bool.false_eq_true, if_false]
      exact once.append (once.append once)
  | false =>
    have valid : code.isValidChar := valid.resolve_left (by rw [surrogate]; nofun)
    have same := Text.Surrogate.toNat_ofNat valid
    have each (c : Char) : Holds (Text.Surrogate.held c.toNat) [c.toNat] := Holds.held (.inr c.valid)
    refine ⟨_, Holds.flatMap fun c _ => each c, ?_⟩
    have told := tells_charText style (Char.ofNat code)
    rw [same] at told
    rwa [← List.map_eq_flatMap]

/-- A written text is one token. -/
theorem reads_stringText (style : Style) (text : String) :
    ∃ points, Holds (stringText style text).toList points ∧
      Reads .between points [.text (readText style text)] .between := by
  have each : ∀ code ∈ Text.Surrogate.codes text.toList, ∃ points,
      Holds (codeText style code) points ∧ Tells points (units style code) := fun code held =>
    tells_codeText style (Text.Surrogate.valid_of_mem_codes code held)
  choose! points holds tells using each
  have quote : Holds ['"'] [0x22] := Holds.singleton (by decide)
  refine ⟨0x22 :: ((Text.Surrogate.codes text.toList).flatMap points ++ [0x22]), ?_, ?_⟩
  · rw [stringText, String.toList_ofList]
    exact quote.append ((Holds.flatMap holds).append quote)
  · have inner := Tells.flatMap tells []
    refine .cons (b := .text []) rfl (inner.trans (.step ?_))
    simp [Mode.step, readText]

end Mode

/-! ## Documents -/

open Progress (complete)

def Phase.Begins (phase : Phase) : Prop := phase = .value ∨ phase = .valueOrClose

/-- Code points that are read as a document wherever a value may begin. -/
def Denotes (codes : List Nat) (reading : Reading) : Prop :=
  ∃ tokens, Mode.Spells codes tokens ∧ ∀ phase : Phase, phase.Begins → ∀ frames,
    tokens.foldlM Progress.step ⟨phase, frames⟩ = complete reading frames

def Writes (text : String) (reading : Reading) : Prop :=
  ∃ codes, Holds text.toList codes ∧ Denotes codes reading

/-- A value begins with any token but a mark that closes. -/
theorem step_of_begins {phase : Phase} (begins : phase.Begins) (frames : List Frame) {token : Token}
    (other : token ≠ .mark .closeList) :
    Progress.step ⟨phase, frames⟩ token = Progress.openValue frames token := by
  rcases begins with rfl | rfl
  · rfl
  · rcases token with mark | codes | codes
    · cases mark <;> first | rfl | exact absurd rfl other
    · rfl
    · rfl

theorem denotes_token {codes : List Nat} {token : Token} {reading : Reading}
    (spells : Mode.Spells codes [token]) (unmarked : ∀ mark, token ≠ .mark mark)
    (value : ∀ frames, Progress.openValue frames token = complete reading frames) :
    Denotes codes reading := by
  refine ⟨_, spells, fun phase begins frames => ?_⟩
  rw [List.foldlM_cons, step_of_begins begins frames (unmarked _), value]
  exact bind_pure _

theorem writes_text (style : Style) (text : String) :
    Writes (stringText style text) (.text (readText style text)) := by
  obtain ⟨points, holds, reads⟩ := Mode.reads_stringText style text
  exact ⟨points, holds, denotes_token reads.spells nofun fun _ => rfl⟩

/-- A word is read as what it stands for. -/
theorem writes_word {word : String} {reading : Reading} (some : word.toList ≠ [])
    (inside : ∀ c ∈ word.toList, Mode.InWord c.toNat ∧ c ≠ Text.Surrogate.mark)
    (stands : Progress.ofWord? (word.toList.map Char.toNat) = Option.some reading) :
    Writes word reading := by
  refine ⟨_, Holds.plain fun c held => (inside c held).2, ?_⟩
  refine denotes_token (Mode.spells_word (by simpa using some) ?_) nofun fun frames => ?_
  · exact List.forall_mem_map.mpr fun c held => (inside c held).1
  · simp only [Progress.openValue, stands]
    rfl

theorem ofList_map_toNat (word : String) :
    String.ofList ((word.toList.map Char.toNat).map Char.ofNat) = word := by
  simp [List.map_map, Function.comp_def, Char.ofNat_toNat]

theorem inWord_of_isNumeral {c : Char} (numeral : Number.isNumeral c) :
    Mode.InWord c.toNat ∧ c ≠ Text.Surrogate.mark := by
  constructor
  · simp only [Number.isNumeral, Bool.or_eq_true, List.contains_iff_mem, List.mem_cons,
      List.not_mem_nil, or_false] at numeral
    rcases numeral with digit | rfl | rfl | rfl | rfl
    · have each : ∀ n < 58, 48 ≤ n → n ≠ 0x22 ∧ Mode.mark? n = none ∧ ¬ Mode.isSpace n := by decide
      simp only [Char.isDigit, Bool.and_eq_true, decide_eq_true_eq] at digit
      exact each _ (Nat.lt_succ_of_le digit.2) digit.1
    all_goals exact ⟨by decide, rfl, by decide⟩
  · rintro rfl
    exact absurd numeral (by decide)

/-- A number is read as it is spelled. -/
theorem writes_number {spelling : String} (some : spelling.toList ≠ [])
    (numeral : ∀ c ∈ spelling.toList, Number.isNumeral c) :
    Writes spelling (.number spelling) := by
  refine writes_word some (fun c held => inWord_of_isNumeral (numeral c held)) ?_
  have other (word : String) (named : ∃ c ∈ word.toList, ¬ Number.isNumeral c) :
      spelling ≠ word := by
    rintro rfl
    obtain ⟨c, held, no⟩ := named
    exact no (numeral c held)
  have spelled : spelling.toList.all (fun c => Number.isNumeral c || c = 'E') :=
    List.all_eq_true.mpr fun c held => by rw [numeral c held]; rfl
  simp only [Progress.ofWord?, ofList_map_toNat, spelled, Bool.true_or, if_true,
    other "null" ⟨'n', by decide, by decide⟩, other "true" ⟨'t', by decide, by decide⟩,
    other "false" ⟨'f', by decide, by decide⟩, if_false]

/-! ## Containers -/

/-- What lists and objects have in common: how they are open and closed, and what may come first
and after a comma. -/
structure Container (α : Type) where
  frame : List α → Frame
  whole : List α → Reading
  opening : Nat
  opens : Mark
  closing : Nat
  closes : Mark
  first : Phase
  later : Phase
  opening_mark : Mode.mark? opening = some opens
  closing_mark : Mode.mark? closing = some closes
  step_opens : ∀ frames,
    Progress.openValue frames (.mark opens) = some ⟨first, frame [] :: frames⟩
  step_empty : ∀ frames,
    Progress.step ⟨first, frame [] :: frames⟩ (.mark closes) = complete (whole []) frames
  step_comma : ∀ items frames,
    Progress.step ⟨.comma, frame items :: frames⟩ (.mark .comma) =
      some ⟨later, frame items :: frames⟩
  step_closes : ∀ items frames,
    Progress.step ⟨.comma, frame items :: frames⟩ (.mark closes) = complete (whole items) frames

namespace Container

def ofItems : Container Reading where
  frame := .list
  whole := .list
  opening := 0x5b
  opens := .openList
  closing := 0x5d
  closes := .closeList
  first := .valueOrClose
  later := .value
  opening_mark := rfl
  closing_mark := rfl
  step_opens _ := rfl
  step_empty _ := rfl
  step_comma _ _ := rfl
  step_closes _ _ := rfl

def ofFields : Container (List Nat × Reading) where
  frame := .object
  whole := .object
  opening := 0x7b
  opens := .openObject
  closing := 0x7d
  closes := .closeObject
  first := .nameOrClose
  later := .name
  opening_mark := rfl
  closing_mark := rfl
  step_opens _ := rfl
  step_empty _ := rfl
  step_comma _ _ := rfl
  step_closes _ _ := rfl

variable {α : Type} (k : Container α)

def Enters (codes : List Nat) (entry : α) : Prop :=
  ∃ tokens, Mode.Spells codes tokens ∧ ∀ phase, (phase = k.first ∨ phase = k.later) →
    ∀ entries frames, tokens.foldlM Progress.step ⟨phase, k.frame entries :: frames⟩ =
      some ⟨.comma, k.frame (entries ++ [entry]) :: frames⟩

variable {k} {spaces spaces' : List Nat}

theorem delimited_entries (close : ∀ code ∈ spaces', Mode.isSpace code) (texts : List (List Nat))
    (rest : List Nat) : Mode.Delimited ((texts.flatMap (fun text => 0x2c :: (spaces ++ text)) ++
      (spaces' ++ [k.closing])) ++ rest) := by
  cases texts with
  | nil =>
    rw [List.flatMap_nil, List.nil_append, List.append_assoc]
    exact Mode.delimited_spaces close (Mode.delimited_mark k.closing_mark _)
  | cons => exact Mode.delimited_mark rfl _

/-- The entries after the first, with what is read before each of them and before the end. -/
theorem reads_entries (open_ : ∀ code ∈ spaces, Mode.isSpace code)
    (close : ∀ code ∈ spaces', Mode.isSpace code) {texts : List (List Nat)} {entries : List α}
    (enters : List.Forall₂ k.Enters texts entries) :
    ∃ tokens, Mode.Reads .between
        (texts.flatMap (fun text => 0x2c :: (spaces ++ text)) ++ (spaces' ++ [k.closing])) tokens
        .between ∧
      ∀ before frames, tokens.foldlM Progress.step ⟨.comma, k.frame before :: frames⟩ =
        complete (k.whole (before ++ entries)) frames := by
  induction enters with
  | nil =>
    refine ⟨_, (Mode.reads_spaces close).trans (Mode.reads_mark k.closing_mark), fun before frames => ?_⟩
    rw [List.nil_append, List.foldlM_cons, k.step_closes, List.append_nil]
    exact bind_pure _
  | @cons text entry texts entries enters _ ih =>
    obtain ⟨own, spells, enter⟩ := enters
    obtain ⟨more, reads, others⟩ := ih
    refine ⟨.mark .comma :: (own ++ more), ?_, ?_⟩
    · rw [List.flatMap_cons, List.cons_append, List.cons_append, List.append_assoc,
        List.append_assoc]
      refine (Mode.reads_mark (show Mode.mark? 0x2c = _ from rfl)).trans
        ((Mode.reads_spaces open_).trans (spells.reads (delimited_entries close _) reads))
    · intro before frames
      rw [List.foldlM_cons, k.step_comma]
      simp only [Option.bind_eq_bind, Option.bind_some, List.foldlM_append,
        enter k.later (.inr rfl), others, List.append_assoc, List.singleton_append]

def print (k : Container α) (spaces spaces' : List Nat) : List (List Nat) → List Nat
  | [] => [k.opening, k.closing]
  | first :: others => k.opening :: (spaces ++ (first ++
      (others.flatMap (fun text => 0x2c :: (spaces ++ text)) ++ (spaces' ++ [k.closing]))))

theorem denotes_print (open_ : ∀ code ∈ spaces, Mode.isSpace code)
    (close : ∀ code ∈ spaces', Mode.isSpace code) {texts : List (List Nat)} {entries : List α}
    (enters : List.Forall₂ k.Enters texts entries) :
    Denotes (k.print spaces spaces' texts) (k.whole entries) := by
  have opened {phase : Phase} (begins : phase.Begins) (frames : List Frame) :
      Progress.step ⟨phase, frames⟩ (.mark k.opens) = some ⟨k.first, k.frame [] :: frames⟩ := by
    refine (step_of_begins begins frames ?_).trans (k.step_opens frames)
    intro same
    have came := k.step_opens []
    rw [same] at came
    cases came
  cases enters with
  | nil =>
    refine ⟨[.mark k.opens, .mark k.closes], ?_, fun phase begins frames => ?_⟩
    · exact ((Mode.reads_mark k.opening_mark).trans (Mode.reads_mark k.closing_mark)).spells
    · rw [List.foldlM_cons, opened begins, Option.bind_eq_bind, Option.bind_some,
        List.foldlM_cons, k.step_empty]
      exact bind_pure _
  | @cons first entry others entries enters rest =>
    obtain ⟨own, spells, enter⟩ := enters
    obtain ⟨more, reads, enterOthers⟩ := reads_entries open_ close rest
    refine ⟨.mark k.opens :: (own ++ more), ?_, fun phase begins frames => ?_⟩
    · exact ((Mode.reads_mark k.opening_mark).trans ((Mode.reads_spaces open_).trans
        (spells.reads (delimited_entries close _) reads))).spells
    · rw [List.foldlM_cons, opened begins]
      simp only [Option.bind_eq_bind, Option.bind_some, List.foldlM_append,
        enter k.first (.inl rfl), enterOthers, List.nil_append, List.singleton_append]

def EntersText (k : Container α) (text : String) (entry : α) : Prop :=
  ∃ codes, Holds text.toList codes ∧ k.Enters codes entry

end Container

theorem intercalate_cons_eq_flatMap {α : Type} (separator first : List α) (others : List (List α)) :
    separator.intercalate (first :: others) =
      first ++ others.flatMap fun item => separator ++ item := by
  induction others generalizing first with
  | nil => simp
  | cons second others ih =>
    rw [List.intercalate_cons_cons, ih, List.flatMap_cons]
    simp only [List.append_assoc]

theorem holds_newline (depth : Nat) : ∃ spaces, Holds (newline depth).toList spaces ∧
    ∀ code ∈ spaces, Mode.isSpace code := by
  have chars : ∀ c ∈ (newline depth).toList, c = '\n' ∨ c = ' ' := by
    simp only [newline, String.toList_append, String.toList_ofList, List.forall_mem_append]
    exact ⟨fun c held => .inl (List.mem_singleton.mp held),
      fun c held => .inr (List.eq_of_mem_replicate held)⟩
  refine ⟨_, Holds.plain fun c held => ?_, List.forall_mem_map.mpr fun c held => ?_⟩ <;>
    rcases chars c held with rfl | rfl <;> decide

/-- A block of entries on lines of their own is read as a container of them. -/
theorem writes_block {α : Type} (k : Container α) (opening closing : String) (depth : Nat)
    (opens : Holds opening.toList [k.opening]) (closes : Holds closing.toList [k.closing])
    {texts : List String} {entries : List α} (enters : List.Forall₂ k.EntersText texts entries) :
    Writes (block opening closing depth texts) (k.whole entries) := by
  obtain ⟨spaces, spaced, open_⟩ := holds_newline (depth + 1)
  obtain ⟨spaces', spaced', close⟩ := holds_newline depth
  have comma : Holds ",".toList [0x2c] := Holds.singleton (c := ',') (by decide)
  -- What the entries hold is taken out first.
  have held : ∃ codes, List.Forall₂ (fun text codes => Holds text.toList codes) texts codes ∧
      List.Forall₂ k.Enters codes entries := by
    induction enters with
    | nil => exact ⟨[], .nil, .nil⟩
    | cons first _ ih =>
      obtain ⟨codes, holds, enter⟩ := first
      obtain ⟨others, allHold, allEnter⟩ := ih
      exact ⟨codes :: others, .cons holds allHold, .cons enter allEnter⟩
  obtain ⟨codes, holds, enter⟩ := held
  refine ⟨k.print spaces spaces' codes, ?_, Container.denotes_print open_ close enter⟩
  cases holds with
  | nil =>
    rw [block, List.isEmpty_nil, if_pos rfl, String.toList_append]
    exact opens.append closes
  | @cons first code others codes firstHolds othersHold =>
    have rest : Holds (others.flatMap fun text => (',' :: (newline (depth + 1)).toList) ++ text.toList)
        (codes.flatMap fun code => 0x2c :: (spaces ++ code)) := by
      clear enter enters
      induction othersHold with
      | nil => exact .nil
      | cons first _ ih => exact (comma.append (spaced.append first)).append ih
    have whole : (block opening closing depth (first :: others)).toList = opening.toList ++
        ((newline (depth + 1)).toList ++ (first.toList ++
          (others.flatMap (fun text => (',' :: (newline (depth + 1)).toList) ++ text.toList) ++
            ((newline depth).toList ++ closing.toList)))) := by
      simp only [block, List.isEmpty_cons, Bool.false_eq_true, if_false, String.toList_append,
        String.toList_intercalate, List.map_cons, intercalate_cons_eq_flatMap, List.flatMap_map,
        List.append_assoc]
      rfl
    rw [whole]
    exact opens.append (spaced.append (firstHolds.append (rest.append (spaced'.append closes))))

/-! ## Reading what is written -/

def readFloat (style : Style) (x : Number.Binary64) : Reading :=
  match x with
  | .nan _ | .infinite _ =>
    if style.hidesNonfinite then .null else .number (x.text style.layout)
  | x => .number (x.text style.layout)

mutual

def reading (style : Style) : Json → Reading
  | .null => .null
  | .bool b => .bool b
  | .int i => .number (toString i)
  | .float x => readFloat style x
  | .text s => .text (readText style s)
  | .list items => .list (itemReadings style items)
  | .object fields => .object (fieldReadings style fields)

def itemReadings (style : Style) : List Json → List Reading
  | [] => []
  | item :: rest => reading style item :: itemReadings style rest

def fieldReadings (style : Style) : List (String × Json) → List (List Nat × Reading)
  | [] => []
  | (name, value) :: rest => (readText style name, reading style value) :: fieldReadings style rest

end

def Style.IsUsed (style : Style) : Prop := style = .ascii ∨ style = .unicode

theorem writes_named (word : String) (reading : Reading)
    (named : (word, reading) ∈ [("null", Reading.null), ("true", .bool true), ("false", .bool false),
      ("NaN", .number "NaN"), ("Infinity", .number "Infinity"),
      ("-Infinity", .number "-Infinity")]) : Writes word reading := by
  have inside {word : String} (each : word.toList.all fun c =>
      Mode.InWord c.toNat ∧ c ≠ Text.Surrogate.mark) :
      ∀ c ∈ word.toList, Mode.InWord c.toNat ∧ c ≠ Text.Surrogate.mark :=
    fun c held => of_decide_eq_true (List.all_eq_true.mp each c held)
  simp only [List.mem_cons, List.not_mem_nil, or_false, Prod.mk.injEq] at named
  rcases named with ⟨rfl, rfl⟩ | ⟨rfl, rfl⟩ | ⟨rfl, rfl⟩ | ⟨rfl, rfl⟩ | ⟨rfl, rfl⟩ | ⟨rfl, rfl⟩
  all_goals exact writes_word (by decide) (inside (by decide)) rfl

theorem writes_int (i : Int) : Writes (toString i) (.number (toString i)) :=
  writes_number (Number.toString_int_ne_empty i) fun c held =>
    (Number.isNumeral_toString_int i c held).1

theorem writes_float {style : Style} (used : style.IsUsed) (x : Number.Binary64) :
    Writes (floatText style x) (readFloat style x) := by
  cases x with
  | finite negative significand exponent canonical =>
    exact writes_number (Number.Binary64.text_ne_empty _ _ _ _ canonical)
      (Number.Binary64.isNumeral_text _ _ _ _ canonical)
  | nan =>
    rcases used with rfl | rfl
    · exact writes_named "NaN" (.number "NaN") (by simp)
    · exact writes_named "null" .null (by simp)
  | infinite negative =>
    rcases used with rfl | rfl
    · cases negative
      · exact writes_named "Infinity" (.number "Infinity") (by simp)
      · exact writes_named "-Infinity" (.number "-Infinity") (by simp)
    · exact writes_named "null" .null (by simp)

theorem enters_item {text : String} {item : Reading} (writes : Writes text item) :
    Container.ofItems.EntersText text item := by
  obtain ⟨codes, holds, tokens, spells, denotes⟩ := writes
  exact ⟨codes, holds, tokens, spells, fun phase begins entries frames =>
    denotes phase begins.symm _⟩

theorem enters_field (style : Style) (name : String) {text : String} {value : Reading}
    (writes : Writes text value) : Container.ofFields.EntersText
      (stringText style name ++ ": " ++ text) (readText style name, value) := by
  obtain ⟨codes, holds, tokens, spells, denotes⟩ := writes
  obtain ⟨points, nameHolds, nameReads⟩ := Mode.reads_stringText style name
  have colon : Holds ": ".toList [0x3a, 0x20] :=
    (Holds.singleton (c := ':') (by decide)).append (Holds.singleton (c := ' ') (by decide))
  have marks : Mode.Reads .between [0x3a, 0x20] [.mark .colon] .between :=
    (Mode.reads_mark rfl).trans (Mode.reads_spaces (by decide : ∀ code ∈ [0x20], Mode.isSpace code))
  refine ⟨(points ++ [0x3a, 0x20]) ++ codes, ?_,
    .text (readText style name) :: .mark .colon :: tokens, fun rest ends => ?_, ?_⟩
  · rw [String.toList_append, String.toList_append]
    exact (nameHolds.append colon).append holds
  · rw [List.append_assoc, nameReads.trans marks, spells rest ends, Option.map_map]
    rfl
  · rintro phase (rfl | rfl) entries frames <;>
      exact denotes .value (.inl rfl) (.field entries (readText style name) :: frames)

mutual

/-- A written document is read again. -/
theorem writes_indented {style : Style} (used : style.IsUsed) (depth : Nat) : ∀ json : Json,
    Writes (json.indented style depth) (json.reading style)
  | .null => writes_named "null" .null (by simp)
  | .bool true => writes_named "true" (.bool true) (by simp)
  | .bool false => writes_named "false" (.bool false) (by simp)
  | .int i => writes_int i
  | .float x => writes_float used x
  | .text s => writes_text style s
  | .list items => by
    have each := enters_indentedItems used (depth + 1) items
    exact writes_block .ofItems "[" "]" depth
      (Holds.singleton (by decide)) (Holds.singleton (by decide)) each
  | .object fields => by
    have each := enters_indentedFields used (depth + 1) fields
    exact writes_block .ofFields "\x7b" "\x7d" depth
      (Holds.singleton (by decide)) (Holds.singleton (by decide)) each

theorem enters_indentedItems {style : Style} (used : style.IsUsed) (depth : Nat) : ∀ items : List Json,
    List.Forall₂ Container.ofItems.EntersText (indentedItems style depth items)
      (itemReadings style items)
  | [] => .nil
  | item :: rest =>
    .cons (enters_item (writes_indented used depth item)) (enters_indentedItems used depth rest)

theorem enters_indentedFields {style : Style} (used : style.IsUsed) (depth : Nat) : ∀ fields : List (String × Json),
    List.Forall₂ Container.ofFields.EntersText (indentedFields style depth fields)
      (fieldReadings style fields)
  | [] => .nil
  | (name, value) :: rest =>
    .cons (enters_field style name (writes_indented used depth value))
      (enters_indentedFields used depth rest)

end

/-- The text of a document, on lines that end, is read as that document and nothing else. -/
theorem read?_indented {style : Style} (used : style.IsUsed) (json : Json) :
    read? (json.indented style 0 ++ "\n") = some (json.reading style) := by
  obtain ⟨codes, holds, tokens, spells, denotes⟩ := writes_indented used 0 json
  have line : Holds "\n".toList [0x0a] := Holds.singleton (by decide)
  have ends : Mode.Delimited [0x0a] :=
    Mode.delimited_spaces (by decide : ∀ code ∈ [0x0a], Mode.isSpace code) nofun
  have lexed : Mode.between.tokens? (codes ++ [0x0a]) = some tokens := by
    rw [spells _ ends]
    exact congrArg some (List.append_nil tokens)
  rw [read?, String.toList_append, (holds.append line).codes, lexed]
  simp only [Option.bind_eq_bind, Option.bind_some, ofTokens?, denotes .value (.inl rfl) [], complete]

end Json

end AccessPolicy
