/-! Text that may hold surrogates, which are code points but no characters. A surrogate is
held as a mark with a character of the private range after it, and a mark that stands for
itself is doubled. -/

namespace AccessPolicy.Text

def isAscii (text : String) : Bool := text.toList.all (·.toNat < 0x80)

theorem isAscii_iff {text : String} : isAscii text ↔ ∀ c ∈ text.toList, c.toNat < 0x80 := by
  simp [isAscii]

theorem isAscii_append (s t : String) : isAscii (s ++ t) = (isAscii s && isAscii t) := by
  simp [isAscii, String.toList_append]

namespace Surrogate

def mark : Char := '\uffff'

def first : Nat := 0xd800

def count : Nat := 0x800

/-- The character of the private range that holds the first surrogate. -/
def firstHolder : Nat := 0xe000

def isSurrogate (code : Nat) : Bool := first ≤ code && code < first + count

def isHolder (c : Char) : Bool := firstHolder ≤ c.toNat && c.toNat < firstHolder + count

def held (code : Nat) : List Char :=
  if isSurrogate code then [mark, Char.ofNat (firstHolder + (code - first))]
  else
    let c := Char.ofNat code
    if c = mark then [mark, mark] else [c]

def ofPlain (text : String) : String :=
  String.ofList (text.toList.flatMap fun c => if c = mark then [mark, mark] else [c])

/-- The code points of a text. A mark before any other character stands for itself. -/
def codes : List Char → List Nat
  | [] => []
  | [c] => [c.toNat]
  | c :: d :: rest =>
    if c = mark && d = mark then c.toNat :: codes rest
    else if c = mark && isHolder d then (first + (d.toNat - firstHolder)) :: codes rest
    else c.toNat :: codes (d :: rest)

def codesPrecede : List Nat → List Nat → Bool
  | [], _ => true
  | _ :: _, [] => false
  | a :: as, b :: bs => if a = b then codesPrecede as bs else a < b

def precedes (s t : String) : Bool := codesPrecede (codes s.toList) (codes t.toList)

/-- The code points of a text after its pairs of surrogates have been joined. -/
def joined : List Nat → List Nat
  | high :: low :: rest =>
    if first ≤ high && high < 0xdc00 && 0xdc00 ≤ low && low < first + count then
      (0x10000 + (high - first) * 0x400 + (low - 0xdc00)) :: joined rest
    else high :: joined (low :: rest)
  | codes => codes

/-- Text as it is shown outside: two surrogates that make a pair are the character that they
stand for, and one that is alone is shown as the replacement character. -/
def shown (text : String) : String :=
  if text.toList.contains mark then
    String.ofList ((joined (codes text.toList)).map fun code =>
      if isSurrogate code then Char.ofNat 0xfffd else Char.ofNat code)
  else text

theorem isSurrogate_iff {code : Nat} : isSurrogate code = true ↔ 0xd800 ≤ code ∧ code < 0xe000 := by
  rw [isSurrogate, Bool.and_eq_true, decide_eq_true_iff, decide_eq_true_iff]
  rfl

theorem isSurrogate_toNat (c : Char) : isSurrogate c.toNat = false := by
  have valid : c.toNat.isValidChar := c.valid
  simp only [Nat.isValidChar] at valid
  rw [Bool.eq_false_iff]
  intro surrogate
  have bounds := isSurrogate_iff.mp surrogate
  omega

theorem toNat_ofNat {code : Nat} (valid : code.isValidChar) : (Char.ofNat code).toNat = code := by
  unfold Char.ofNat
  rw [dif_pos valid]
  rfl

private theorem holder_toNat {code : Nat} (h : isSurrogate code = true) :
    (Char.ofNat (firstHolder + (code - first))).toNat = firstHolder + (code - first) := by
  have bounds : first ≤ code ∧ code < first + count := by simpa [isSurrogate] using h
  refine toNat_ofNat ?_
  simp only [Nat.isValidChar, firstHolder, first, count] at bounds ⊢
  omega

theorem codes_cons_of_ne_mark {c : Char} (h : c ≠ mark) (rest : List Char) :
    codes (c :: rest) = c.toNat :: codes rest := by
  cases rest with
  | nil => rfl
  | cons d rest => simp [codes, h]

theorem codes_append_of_ne_mark {text : List Char} (plain : ∀ c ∈ text, c ≠ mark)
    (rest : List Char) : codes (text ++ rest) = text.map Char.toNat ++ codes rest := by
  induction text with
  | nil => rfl
  | cons c text ih =>
    obtain ⟨first, others⟩ := List.forall_mem_cons.mp plain
    rw [List.cons_append, codes_cons_of_ne_mark first, ih others, List.map_cons, List.cons_append]

theorem ne_mark_of_isAscii {text : String} (ascii : isAscii text) : ∀ c ∈ text.toList, c ≠ mark := by
  rintro _ held rfl
  exact absurd (isAscii_iff.mp ascii _ held) (by decide)

theorem codes_of_isAscii {text : String} (ascii : isAscii text) :
    codes text.toList = text.toList.map Char.toNat := by
  simpa [codes] using codes_append_of_ne_mark (ne_mark_of_isAscii ascii) []

/-- A character that belongs to no mark before it begins the code points anew. -/
theorem codes_append {c : Char} (plain : c ≠ mark) (free : isHolder c = false)
    (text rest : List Char) : codes (text ++ c :: rest) = codes text ++ codes (c :: rest) := by
  fun_induction codes text with
  | case1 => rfl
  | case2 d => simp [codes, plain, free]
  | case3 d e more isMark ih =>
    rw [List.cons_append, List.cons_append, codes, if_pos isMark, ih, List.cons_append]
  | case4 d e more notMark holds ih =>
    rw [List.cons_append, List.cons_append, codes, if_neg notMark, if_pos holds, ih,
      List.cons_append]
  | case5 d e more notMark alone ih =>
    rw [List.cons_append, List.cons_append, codes, if_neg notMark, if_neg alone,
      ← List.cons_append, ih, List.cons_append]

/-- What holds a code point holds it whatever comes after it. -/
theorem codes_held_append {code : Nat} (valid : isSurrogate code = true ∨ code.isValidChar)
    (rest : List Char) : codes (held code ++ rest) = code :: codes rest := by
  unfold held
  split
  · rename_i surrogate
    have bounds : first ≤ code ∧ code < first + count := by simpa [isSurrogate] using surrogate
    have holder : isHolder (Char.ofNat (firstHolder + (code - first))) = true := by
      simp only [isHolder, holder_toNat surrogate, Bool.and_eq_true, decide_eq_true_eq]
      omega
    have notMark : Char.ofNat (firstHolder + (code - first)) ≠ mark := by
      intro same
      rw [same] at holder
      exact absurd holder (by decide)
    simp only [List.cons_append, List.nil_append]
    rw [codes, if_neg (by simpa using notMark), if_pos (by simpa using holder),
      holder_toNat surrogate, Nat.add_sub_cancel_left, Nat.add_sub_cancel' bounds.1]
  · rename_i plain
    have same := toNat_ofNat (valid.resolve_left plain)
    by_cases isMark : Char.ofNat code = mark
    · simp only [isMark, if_true, List.cons_append, List.nil_append]
      rw [codes, if_pos (by simp), ← isMark, same]
    · simp only [isMark, if_false, List.cons_append, List.nil_append]
      rw [codes_cons_of_ne_mark isMark, same]

/-- Text without surrogates is held with every one of its characters. -/
theorem codes_ofPlain (text : String) :
    codes (ofPlain text).toList = text.toList.map Char.toNat := by
  simp only [ofPlain, String.toList_ofList]
  induction text.toList with
  | nil => rfl
  | cons c rest ih =>
    by_cases h : c = mark
    · subst h
      simp [codes, ih]
    · simp [h, codes_cons_of_ne_mark h, ih]

/-- The code points of a text are surrogates and characters. -/
theorem valid_of_mem_codes {text : List Char} :
    ∀ code ∈ codes text, isSurrogate code = true ∨ code.isValidChar := by
  fun_induction codes text with
  | case1 => exact nofun
  | case2 c => exact fun code held => (List.mem_singleton.mp held) ▸ .inr c.valid
  | case3 c d rest isMark ih => exact List.forall_mem_cons.mpr ⟨.inr c.valid, ih⟩
  | case4 c d rest notMark holds ih =>
    refine List.forall_mem_cons.mpr ⟨.inl ?_, ih⟩
    simp only [isHolder, Bool.and_eq_true, decide_eq_true_eq] at holds
    simp only [isSurrogate, Bool.and_eq_true, decide_eq_true_eq]
    omega
  | case5 c d rest _ _ ih => exact List.forall_mem_cons.mpr ⟨.inr c.valid, ih⟩

end Surrogate

end AccessPolicy.Text
